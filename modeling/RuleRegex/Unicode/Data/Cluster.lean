/-!
# Runs of grapheme break classes
-/

namespace RuleRegex.Unicode.Data

/-- Runs of code points of one grapheme break class: how far a run starts from the one before, in
hexadecimal, and a letter for the class. The composed Hangul syllables are one run. -/
def clusterRuns : String :=
  "0C aLF 1C 2CR 1C 12O 5fC 21O 9X 1O 3C 1X 1O 251E 70O 113E 7O 107E 2dO 1E 1O 1E 2O 1E 2O 1E 1O
  38P 6O aE bO 1C 1O 2eE 15O 10E 1O 65E 7P 1O 1E 6O 2E 2O 1E 4O 21P 1O 1E 1O 1eE 1bO 5bE bO 3aE
  9O 9E 1O 18E 4O 1E 9O 1E 3O 1E 5O 2bE 3O 34P 2O 6E 8O 2aE 18P 1E 20S 1O 36E 1S 1E 1O 1S 3E 8S
  4E 1S 2O 1E 7O aE 2O 1dE 1S 2O 38E 1O 1E 1S 2E 4O 2S 2O 2S 2E 1O 9E 1O aE 2O 1aE 1O 2E 2S 1O
  38E 1O 1S 3E 2O 4E 2O 2E 3O 3E 1O 1eE 2O 3E 1O bE 2S 1O 38E 1O 1S 3E 5O 1E 2S 1O 1S 2E 1O 14E
  2O 16E 6O 1E 1S 2O 38E 1O 1E 2S 1E 4O 2S 2O 2S 2E 1O 7E 3O aE 2O 1eE 1O 3bE 1S 1E 1S 2O 3S 3O
  1S 3E 1O 9E 1O 28E 1S 3E 1O 37E 1O 1E 3S 4O 1E 3O 1E 4O 7E 2O bE 2O 1dE 1S 2O 38E 1O 1S 1E 1S
  2E 1S 2O 1E 1S 2O 1S 2E 2O 7E 2O bE 2O 1cE 2S 2O 37E 2O 1E 1S 2E 4O 1S 3O 1S 3E 1P 1O 8E 1O
  aE 2O 1dE 1S 2O 46E 1O 4E 1S 2E 3O 1E 1O 1S 7E 1O 12S 2O 3dE 1O 1S 1E 7O cE 8O 62E 1O 1S 1E
  9O bE 6O 4aE 2O 1bE 1O 1E 1O 1E 1O 4S 2O 31E eS 1E 5O 1E 2O 5E bO 1E 24O 9E 1O 66E 4S 1E 6O
  1E 2S 2E 2O 17S 2E 2O 4E 3O 10E 4O dE 1O 1S 1E 2O 6E 1O fE 1O 62L 60V 48T 58O 15dE 3O 3b2E 3S
  1O 1cE 2S 1O 1dE 2O 1eE 2O 40E 2S 1E 7S 8E 1S 2E bO 9E 1O 2dE 3C 1E 1O 75E 2O 22E 1O 76E 3S
  4E 2S 3O 4S 2E 1S 6E 3O dbE 2S 2E 1O 39S 1E 1S 1E 7O 1E 1O 1E 1O 2E 8S 6E aO 2E 1O 30E 1fO
  31E 4S 1O 2fE 7S 1E 1S 5E 1S 2O 26E 9O cE 2S 1O 1eS 1E 4S 2E 2S 1E 3O 38E 1S 1E 2S 3E 1S 1E
  3S 2O 30S 8E 8S 2E 2O 98E 3O 1E dS 1E 7O 4E 1O 6E 1O 2S 1E 2O c6E 40O 20bC 1E 1Z 1C 2O 18C 7O
  dX 1O cX 1O 16C 10O 60E 21O 31X 1O 16X 1O 5aX 6O fX 2O 16fX 2O cX 1O 5fX 1O 46X 1O 19X bO 4X
  3O c7X 1O e7X 2O aX 1O 9X 1O 3aX 4O 1X 6O 1X cO 1X 72O aX 76O 2X bO 1X 1O 1X 1O 6X 1O 3X 1O
  6X 1O aX 2O fX 1O 2X 1O 4X 1O 1X 1O 4X 3O 1X 1O bX 5O 2dX 3O 9X 1O eX 1O eX 1O 174X 2O 1cfX
  3O 13X 2O 33X 1O 4X 1O 199E 3O 8dE 1O 60E 20O 22aE 6X 1O cX 1O 5bE 2O 1fcX 1O 1X 1O 73d5E 4O
  1E aO 20E 2O 50E 2O 110E 1O 3E 1O 4E 1O 17S 2E 2S 1O 4E 1O 53S 2O 32S 10E 2O 1aE 12O dE 1O
  26E 8O 19E bS 2O cL 1dO 3E 3S 1O 2fE 1S 2E 4S 2E 2S 3O 24E 1O 43E 6S 2E 2S 2E 2O cE 1O 8E 1S
  1O 2eE 1O 33E 1O 1E 3O 2E 2O 5E 2O 1E 1O 29S 1E 2S 2O 5S 1E 1O ecS 2E 1S 2E 1S 2O 1S 1E 1O
  12H 2ba4O cV 17O 4T 31O 2322E 1O 2e1E 10O 10E 10O cfC 1O 9eE 2O 50C cO 201E 1O e2E 1O 95E 5O
  686E 3O 1E 2O 5E 4O 28E 3O 4E 1O a5E 2O 23dE 4O 183E 2O 99E bO 31E 4O 7aS 1E 1S 1O 35E fO 29E
  1O 2E 2O aE 3S 1O 2dS 3E 4S 2E 2O 2P 1O 4E 1O aP 1O 32E 3O 24E 5S 1E 8O 10S 2O 2cE 1O cE 2S
  1O 30S 3E 9S 2O 1P 2O 5E 4O 1S 1E 1O 5cS 3E 3S 2E 1S 1E 2O 6E 1O a0E 1S 3E 8O 15E 2S 2O 37E
  2O 1E 1S 1E 1S 4O 2S 2O 2S 3O 9E 1O aS 2O 2E 7O 3E 5O c0S 3E 8S 2E 3S 1E 1O 17E 1O 51E 1S 2E
  6S 1E 1S 2E 1S 1E 2S 1E 2O ebE 1S 2E 4O 2S 4E 2S 1E 2O 1bE 2O 52S 3E 8S 2E 1S 1E 2O 6aE 1S 1E
  1S 2E 6S 1E 1O 65E 3O 2E 4S 1E 5O 100S 3E 9S 1E 2O f5E 1S 5O 1S 2O 2E 2S 1E 1P 1S 1P 1S 1E 1O
  8dS 3E 4O 2E 2S 4E 1O 3S 1O 1cE aO 28E 6S 1P 1E 4O 8E 1O 9E 6S 2E 3O 28P 6E dS 1E 2O 195S 1E
  7O 1E 6S 1E 1O 52E 16O 1S 1E 7S 1E 2S 1E 2O 7aE 6O 3E 1O 1E 2O 1E 7P 1E 1O 42S 5O 1E 2O 1S 2E
  1S 1E 1O 15bE 2S 2O 1539C 10O 36b0E 5O 3bE 7O 418E 1O 1S 37O 7E 4O 51E 1O bS 2O 4cabE 2O 1C
  4O 125cE 2eO 2E 17O 21eE 1S 1E 3O 3S 1E 5C 8E 8O 2E 7O 1eE 4O 94E 3O 7bbE 37O 4E 32O 8E 1O eE
  1O 16E 5O 1E fO 550E 7O 1E 11O 2E 7O 1E 2O 1E 5O 105E 7O 177E 1O 3dE 4O 5e0E 7O 6dE 7O 6b5X
  100O dX 3O 1fX 1O 3cX 6O cX 2O eX 1O 2X aO 12X 39R 1aO 1X fO aX 1O 14X 1O 2X 9O 1X 4O 9X 1b2E
  5X 13eO 8X 10aO 30X 80O 74X cO 55X 2bO cX 4O 38X 8O aX 6O 28X 8O 1eX 52O cX 2fO 1X aO 1X 1b9O
  100X 3feO c0002C 20E 60C 80E f0C e10O"

end RuleRegex.Unicode.Data
