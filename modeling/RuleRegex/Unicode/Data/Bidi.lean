/-!
# Runs of bidirectional classes
-/

namespace RuleRegex.Unicode.Data

/-- Runs of code points of one bidirectional class: how far a run starts from the one before, in
hexadecimal, and the class. -/
def bidiRuns : String :=
  "0BN 9S 1B 1S 1WS 1B 1BN eB 3S 1WS 1ON 2ET 3ON 5ES 1CS 1ES 1CS 2EN aCS 1ON 6L 1aON 6L 1aON 4BN
  6B 1BN 1aCS 1ON 1ET 4ON 4L 1ON 2BN 1ON 2ET 2EN 2ON 1L 1ON 3EN 1L 1ON 5L 17ON 1L 1fON 1L 1c1ON
  2L 7ON eL 2ON eL 5ON 9L 1ON 11NSM 70L 4ON 2L 8ON 1L 5ON 2L 1ON 1L 6eON 1L 8cNSM 7L 100ON 1L
  2ON 2ET 1R 1NSM 2dR 1NSM 1R 1NSM 2R 1NSM 2R 1NSM 1R 38AN 6ON 2AL 1ET 2AL 1CS 1AL 1ON 2NSM bAL
  30NSM 15AN aET 1AN 2AL 3NSM 1AL 65NSM 7AN 1ON 1NSM 6AL 2NSM 2ON 1NSM 4AL 2EN aAL 17NSM 1AL
  1eNSM 1bAL 5bNSM bAL fR 2bNSM 9R 2ON 4R 3NSM 1R 18NSM 4R 1NSM 9R 1NSM 3R 1NSM 5R 2bNSM 3R 4AL
  30AN 2AL 6NSM 8AL 2aNSM 18AN 1NSM 20L 37NSM 1L 1NSM 1L 4NSM 8L 4NSM 1L 3NSM 7L aNSM 2L 1dNSM
  1L 3aNSM 1L 4NSM 4L 8NSM 1L 14NSM 2L eET 2L 7ET 1L 2NSM 1L 2NSM 2L 39NSM 1L 4NSM 2L 4NSM 2L
  2NSM 3L 3NSM 1L 1eNSM 2L 3NSM 1L bNSM 2L 39NSM 1L 4NSM 5L 1NSM 2L 4NSM 1L 14NSM 2L dET 1L
  8NSM 6L 1NSM 1L 3aNSM 1L 2NSM 1L 1NSM 4L 8NSM 1L 7NSM 2L bNSM 2L 1eNSM 1L 3dNSM 1L cNSM 1L
  25ON 6ET 1ON 1L 5NSM 1L 3NSM 1L 37NSM 1L 1NSM 3L 5NSM 3L 1NSM 4L 7NSM 2L bNSM 2L 14ON 7L 2NSM
  1L 3aNSM 1L fNSM 2L 14NSM 2L 1cNSM 2L 39NSM 2L 4NSM 4L 8NSM 1L 14NSM 2L 1dNSM 1L 48NSM 1L
  7NSM 3L 1NSM 1L 5aNSM 1L 2NSM 7L 4ET 1L 7NSM 8L 62NSM 1L 2NSM 9L bNSM 7L 49NSM 2L 1bNSM 1L
  1NSM 1L 1NSM 1ON 4L 33NSM eL 1NSM 5L 1NSM 2L 5NSM bL 1NSM 24L 9NSM 1L 66NSM 4L 1NSM 6L 1NSM
  2L 2NSM 2L 19NSM 2L 4NSM 3L 10NSM 4L dNSM 1L 2NSM 2L 6NSM 1L fNSM 1L 2bfNSM 3L 30ON aL 66ON
  1L 27fWS 1L 1aON 2L 75NSM 3L 1dNSM 2L 1eNSM 2L 1eNSM 2L 40NSM 2L 1NSM 7L 8NSM 1L 2NSM bL 7ET
  1L 1NSM 1L 12ON aL 6ON bNSM 3BN 1NSM 1L 75NSM 2L 22NSM 1L 76NSM 3L 4NSM 2L 9NSM 1L 6NSM 3L
  4ON 1L 3ON 2L 98ON 22L 17NSM 2L 2NSM 1L 3aNSM 1L 1NSM 7L 1NSM 1L 1NSM 1L 2NSM 8L 6NSM aL 2NSM
  1L 30NSM 1fL 31NSM 4L 30NSM 1L 1NSM 5L 1NSM 1L 5NSM 1L 28NSM 9L cNSM 2L 20NSM 4L 2NSM 2L 1NSM
  3L 38NSM 1L 1NSM 2L 3NSM 1L 1NSM 3L 3aNSM 8L 2NSM 2L 98NSM 3L 1NSM dL 1NSM 7L 4NSM 1L 6NSM 1L
  3NSM 2L c6NSM 40L 1bdON 1L 1ON 3L bON 3L dON 3L dON 3L dON 2L 1WS bBN 3L 1R 1ON 18WS 1B 1LRE
  1RLE 1PDF 1LRO 1RLO 1CS 1ET 5ON fCS 1ON 1aWS 1BN 6LRI 1RLI 1FSI 1PDI 1BN 6EN 1L 3EN 6ES 2ON
  3L 1EN aES 2ON 3L 11ET 30NSM 21L fON 2L 1ON 4L 1ON 2L aON 1L 1ON 3L 5ON 6L 1ON 1L 1ON 1L 1ON
  1L 4ET 1L bON 2L 4ON 5L 5ON 4L 2ON 10L 29ON 3L 4ON 82ES 1ET 1ON 122L 45ON 1aL 1ON 91L 19ON bL
  15ON 28EN 14L 4eON 1c2L 1ON 153L 100ON 274L 2ON 20L 1ON 69L e5ON 6L 4NSM 3L 7ON 7L 7fNSM 1L
  60NSM 20ON 5eL 22ON 1aL 1ON 59L cON d6L 1aON cL 4WS 1ON 4L 3ON 19L 9NSM 4L 2ON 1L 5ON 2L 5ON
  3L 59NSM 2ON 2L 3ON 1L 5aON 1L c4ON 24L 39ON 2L 31ON 10L 1cON 3L 32ON fL cON 4L a7ON 4L 63ON
  2L 1fON 1L 19c0ON 40L 5690ON 37L 146ON 3L 5fNSM 4ON 1NSM aON 2L 1eNSM 2L 50NSM 2L eON 22L
  66ON 1L 79NSM 1L 3NSM 1L 4NSM 1L 19NSM 2L 1ON 4NSM 1L bET 2L 3aON 4L 4cNSM 2L 1aNSM 12L dNSM
  1L 26NSM 8L 19NSM bL 2eNSM 3L 30NSM 1L 2NSM 4L 2NSM 2L 27NSM 1L 43NSM 6L 2NSM 2L 2NSM 2L cNSM
  1L 8NSM 1L 2fNSM 1L 33NSM 1L 1NSM 3L 2NSM 2L 5NSM 2L 1NSM 1L 2aNSM 2L 8NSM 1L 73ON 2L 79NSM
  1L 2NSM 1L 4NSM 1L 4f2fR 1NSM 1R aES 1R 26AL 1eeON 12AL 7fON 1BN 20AL dON 3NSM 10ON aL 6NSM
  10ON 20CS 1ON 1CS 1L 1ON 1CS 1ON 9ET 1ON 2ES 2ON 3L 1ON 1ET 2ON 1L 4AL 8fBN 1L 1ON 2ET 3ON
  5ES 1CS 1ES 1CS 2EN aCS 1ON 6L 1aON 6L 1aON bL 7aET 2ON 3ET 2L 1ON 7L 1BN 9ON 5BN 2L 101ON 1L
  3eON 4dL 3ON dL 3ON 1L 5cNSM 1L e2NSM 1EN 1bL 7aNSM 5L 485R 11fON 1R e1NSM 3R 1NSM 2R 5NSM 4R
  28NSM 3R 4NSM 1R a5NSM 2R 52ON 7R 1c0AL 24NSM 4AL 8AN aAL 6R 120AN 1fR 2cNSM 2R 13AL 3dNSM 3R
  30AL 16NSM bAL 1fR 12NSM 4R 7aL 1NSM 1L 36NSM fL bON 14L aNSM 1L 2NSM 2L aNSM 3L 31NSM 4L
  2NSM 2L 7NSM 1L 3dNSM 3L 24NSM 5L 1NSM 8L 3eNSM 1L cNSM 2L 34NSM 9L aNSM 4L 2NSM 1L 5fNSM 3L
  2NSM 1L 1NSM 2L 6NSM 1L 2NSM 1L 9dNSM 1L 3NSM 8L 15NSM 2L 39NSM 2L 3NSM 1L 25NSM 7L 3NSM 5L
  c3NSM 8L 2NSM 3L 1NSM 1L 17NSM 1L 54NSM 6L 1NSM 1L 4NSM 2L 1NSM 2L eeNSM 4L 6NSM 2L 1NSM 2L
  1bNSM 2L 55NSM 8L 2NSM 1L 1NSM 2L 1fON dL 3eNSM 1L 1NSM 1L 2NSM 6L 1NSM 1L 65NSM 3L 2NSM 4L
  1NSM 5L 103NSM 9L 1NSM 2L 100NSM 2L 1NSM 1L 4NSM 1L 90NSM 4L 2NSM 2L 4NSM 1L 20NSM 6L 2NSM 2L
  28NSM 6L 2NSM 4L 8NSM 1L 9NSM 6L 2NSM 3L 2eNSM dL 1NSM 2L 196NSM 7L 1NSM 6L 54NSM 16L 2NSM 7L
  1NSM 2L 1NSM 2L 7aNSM 6L 3NSM 1L 1NSM 2L 1NSM 7L 1NSM 1L 48NSM 2L 3NSM 1L 1NSM 1L 15bNSM 2L
  bNSM 2L 34NSM 5L 5NSM 1L 1NSM 1L 92ON 8ET 4ON 11L 144eNSM 1L 6NSM fL 369aNSM 5L 3bNSM 7L
  418NSM 1L 3fNSM 4L 4fON 1L 1NSM 1L 4cb8NSM 2L 1BN 4L 125cNSM 2eL 2NSM 17L 220NSM 3L 9BN 8NSM
  8L 2NSM 7L 1eNSM 4L 3bON 2L 15ON 42NSM 3ON 1L baON 57L 384ON 1L 39ON 1L 39ON 1L 39ON 1L 39ON
  1L aEN 32L 200NSM 37L 4NSM 32L 8NSM 1L eNSM 1L 16NSM 5L 1NSM fL 550NSM 7L 1NSM 11L 2NSM 7L
  1NSM 2L 1NSM 5L 64NSM 1L a0NSM 7L 177NSM 1L 3dNSM 4L fET 1L 1ecNSM 4L 310R d0NSM 7R 6dNSM 7R
  325AL 50R 40AL 50R b0AL f0ON 2AL eR 100ON 2cL 4ON 64L cON fL 2ON fL 1ON fL 1ON 25L aEN bON 5L
  1fON 1L 3aON 6L 3dON 1L b2ON 6L 9aON 3d8L 4ON 11L 3ON dL 3ON 77L 4ON 5fL 6ON cL 4ON 1L fON cL
  4ON 38L 8ON aL 6ON 28L 8ON 1eL 2ON 2L 4eON 154L cON eL 2ON dL 3ON 9L 7ON 2eL 1ON 7L 8ON eL
  4ON 9L 7ON 9L 7ON 93L 1ON 37L 25EN aL 404BN 2L fffeBN 2L fffeBN 2L fffeBN 2L fffeBN 2L fffeBN
  2L fffeBN 2L fffeBN 2L fffeBN 2L fffeBN 2L fffeBN 2L fffeBN 2L fffeBN 102NSM f0BN e10L effeBN
  2L fffeBN 2L fffeBN"

end RuleRegex.Unicode.Data
