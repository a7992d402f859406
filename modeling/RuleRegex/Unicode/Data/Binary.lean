/-!
# Ranges of binary properties
-/

namespace RuleRegex.Unicode.Data

/- Ranges are written as words: how far the range starts from the end of the one before, and after a
hyphen its length less one if it is longer than one code point, in hexadecimal. A property that follows a
rule (`Unicode.ruled`) has here the code points where it differs from the rule, every other one its own. -/

def asciiHexDigit : String :=
  "30-9 8-5 1b-5"

def alphabetic : String :=
  "345 26b-d 2 2-1 2-1 2 49-a 31-c 2-6 11 66-6 5-3 3-1 5 24 1f-f 67-a 66-1 4-8 2-2 2-3 a8-b 4-6
  7-13 37-1 3-e 2-1 6-2 b-1 1e-2 3b-6 3-1 3-1 b b-1 1e-2 3b-4 5-1 3-1 5 1f-1 4 c-2 3b-7 2-2 2-1
  16-1 17-2 5-2 3b-6 3-1 3-1 a-1 b-1 1f 3c-4 4-2 2-2 b 29-4 3a-6 2-2 2-2 9-1 c-1 1e-2 3b-6 2-2
  2-2 9-1 c-1 1d-3 3b-6 2-2 2-2 b b-1 1e-2 4c-5 2 2-7 13-1 3e 3-6 13 64 3-5 2-1 11 a4-12 a-a
  2-23 6f-b 2 3-3 18-3 5-2 2-2 3-6 4-3 e-b 2 b-3 675-1 1f-1 1f-1 1f-1 43-12 bd-1 23 77-b 5-8
  df-4 3a-9 3-13 4b-1 c-2 32-4 31-e 3d-2 1f-8 3-1 3a-a 33-12 1b1-d 6c2-33 8f7-1f 7875-7 23-1
  163 9 18-4 59-1 33-f 2 3a 27-4 1d-b 2e-3 31-b 26 44-d d 9-1 2e-2 33 2-2 3-1 6 2d-4 6 ee-7
  4f34 858-4 687-2 2-1 6-3 315-3 184-1 154-2 36-d 2e-1 c-2 2e-8 a 3e-2 25-b 13-1 3a-2 31-c f-1
  5d-8 3 7 a1-9 18-3 3b-6 3-1 3-1 b b-1 d2-c 2-2 6b-11 ee-6 3-6 1e-1 53-e 2 6b-a 68-d 102-c
  f8-5 2-1 3-1 4 2 8f-6 3-5 5 1d-9 2b-4 2-3 13-a 2f-d 198-7 2-6 54-15 2-d 7b-5 4 2-1 2-2 2 4
  43-4 2-1 2-3 15d-3 5059 2-36 8-3 5e-1 4cad 2362-6 2-10 3-6 2-1 2-4 91d 7e9-19 7-19 7-19"

def bidiControl : String :=
  "61c 19f2-1 1b-4 38-3"

def bidiMirrored : String :=
  "3c 2 1fda-7 121 c1-3 4-5 4 4-1 4-3 2-3 2 2 5-8 6 2-11 6-3 a-1 2 2-7 3-1e 3-3 6 a-1 3-12 6-1
  a-4 3-1 5-17 3-f 21-1 49f 3-1 4-1 2-2 6-3 6-2 4-3 1b6-5 2-d 9 8-5 4 5-4 2-1 7 5 2-2 3-1 b-5
  11-12 2-3 3 2 3 2-3 6-1 7-2 19-1 c-1 5-3 2-1 3-1 5-2a 3-7 2-27 6 2 4-4 6-2 5 4-4 2 101 244
  1db-2 cd1f-1 d8-1 1d-f 3-1 1c-1 b7 2 d7bd 3a 3a 3a 3a"

def caseIgnorable : String :=
  "27 7 c 7d 2d0 1d8 95 1a24-1 b 3 ddec 3f 3 b2 7 c"

def changesWhenCasefolded : String :=
  "df 51 19 43e 1913 e6-7 9-7 9-7 b-2 3 7 4-2 3 2b-2 3 db09-6 d-4"

def changesWhenCasemapped : String :=
  "130-1 18 a7 1a0 20 1d7 190f-4 b6 2 2 2 5c 2 2-1 b 2 2-1 b-1 3-1 b-2 2-1 b 2 2-1 db09-6 d-4"

def changesWhenLowercased : String :=
  "b5 7b 4f 1c6 7d e-1 4-1 1a-1 4 fab-55 3-5 883-8 213 123 8bb2-4f"

def changesWhenTitlecased : String :=
  "b5 7c 18 36 45 3 3 26-1 154 4b 20 12 e-1 4-1 1a-1 4 192 b49-2a 3-2 2a1-55 3-5 883-8 20e-5 b5
  2 2 2 5c 2 2-1 7 4 2 2-1 b-1 3-1 b-2 2-1 b 2 2-1 8b79-4f 4f41-6 d-4"

def changesWhenUppercased : String :=
  "b5 7c 18 36 46 3 3 25 2 153 4b 20 12 e-1 4-1 1a-1 4 192 e19-55 3-5 883-8 20e-5 b5 2 2 2 32-7
  9-7 9-7 3 2 2-1 5 2 4 2 2-1 5 6-1 3-1 b-2 2-1 b 2 2-1 5 8b74-4f 4f41-6 d-4"

def dash : String :=
  "2053 28 10 187"

def defaultIgnorableCodePoint : String :=
  "ad 2a2 2cd b43-1 654-1 56-4 7fc-4 1b-4 32-f 10f5 cc9c-f f0 a1 50-8 bca8-3 14d0-7 c2e86-fff"

def deprecated : String :=
  "149 52a 904 2 82a-1 8c6-5 2ba-1 ddcd7"

def diacritic : String :=
  "5e 2 48 7 5 3-1 1f8-9e 2-7 6-5 12-1 5 a-1 fe-4 d2 38-10 2-1a 2 2-1 2 87-7 5-1 87-1 5-1 4-2
  44-1a 5c-a 3b-a 23-1 7f-7 2a-9 11-1b 3e 11 4-3 1d 4b 11 6f 11 6f 11 30-2 3d 11 8 78 6f 11 6f
  11 6e-1 11 7d 7d-5 2 6c e-4 4c-1 1c 2 2 5-1 43-2 2-1 3f 71 2-1 29-1 5-4 1a-6 2 b-1 2c2-2
  3b5-1 b4-a a 15c-2 13a-7 3 31-e 3-a 69 10 27-8 37-1 8b-1 41-5 53-18 5 7 3-2 33-3e 5a-b 26-a
  1be 2-2 c-2 e-2 e-2 e-1 cf1-2 13e 1fb-5 6a-3 60 7573 d-1 2 1d-1 53-1 f-21 67-2 6e-1 cb 1c-11
  3a-3 25 60 d 25 96-2 42-3 34 65-4 a-2 81-1 4f31 302-f 10f 2 30 2e-1 44 2fd 4a0-5 2-29 2-8
  32b-1 23c-5 21f-a 32-3 c1 2a 49-1 79-1 3f 4d a-2 69-1 b3-1 52 11 19-6 4-4 ce 4 7c-1 fc-1 7f
  77-1 74 10e-1 103-1 5 9d 54 13 52 1a6 103 2-1 52 4d59-4 3c-6 459-10 51-1 3fff-3 2-6 2-1
  1f02-2d 3-16 221-2 4-5 9-7 3-6 1f-3 f83-6 178 3e-3 5e1-6 6e-2 2-2"

def emoji : String :=
  "23 7 6-9 70 5 1f8e d d9 17 5b-5 10-1 170-1 d a7 1a-a 5-2 c8 e8-1 b a 3b-3 2-4 a 3 3-1 3 5 3
  2-1 3 4 4-1 9-2 6 2 6-b c-1 3 2-1 2 13 3-1 13-5 2 2-1 4-1 6 3-1 5-1 c-1 6-1 3 6-1 2 2-1 15-1
  6-5 2-3 3 5 3 3-5 2 3 2 2 7 4 7 b-1 10 3 5 2 5-2 2 c-1 31-2 a f f 175-1 1d0-2 14-1 34 5 4db d
  25a 2 1bd6b cb a1-1 d-1 f 3-9 4c-19 2-1 18 15 3-8 16-1 af-21 3-6f 3-1 2-2 3-52 3-2 2-106 2-3e
  c-5 2-17 8-1 3-7 d 3-3 3 5-1 e-1 3 9-1 a 6-2 d-2 9-2 3 2 5 7 4 7-55 31-45 6-7 3-2 6-8 4 2-1 4
  3-9 e4-b 5 11c-2e 2-9 2-b8 71-4 4-4 4-6 a-1c 4-a 6-5 b-9 7-7 9-6"

def emojiComponent : String :=
  "23 7 6-9 1fd4 d6 dd2c f3d7-19 1fc-4 5b1-3 c066d-5f"

def emojiModifier : String :=
  "1f3fb-4"

def emojiModifierBase : String :=
  "261d dc 11-3 1cc78 3d-2 3 3-2 76-1 3-a 16-12 4 5-2 2-2 8 2 19 ca-1 5 16 5-1 af-2 4-4 54 11-2
  a c 240 3 9-7 7 a-9 3-2 39 3e-1 2-1 2 12-2 2-c e6-2 2b-6"

def emojiPresentation : String :=
  "231a-1 ce-3 4 3 20a-1 16-1 33-b 2c 14 e 9-1 12-1 6-1 9 6 16 8-1 2 5 3 8 5-1 1d 24 2 5-2 2
  3e-2 19 f 35c-1 34 5 1c4af cb bf 3-9 4c-19 2 19 15 3-4 2-2 16-1 af-20 d-8 2-45 2-15 d-2a 5-4
  d-10 4 4-46 2 2-ba 3-3e e-3 2-17 13 1b-1 e 57-54 31-45 7 4-2 3-2 6-2 c-1 8-8 e4-b 5 11c-2e
  2-9 2-b8 71-4 4-4 4-6 a-1c 4-a 6-5 b-9 7-7 9-6"

def extender : String :=
  "b7 219-1 36f 1ba 35b 2f1 80 944 39 264 18f 45 138a 2c-4 68-1 5e-2 6f17 5f7 3c3 17 8a 6d 16-1
  547c 811-1 bdb 269-2 4d0 50aa-1 49d-1 2 7159-1 807-2"

def graphemeExtend : String :=
  "9be 19 167 19 67 19 eb 13-1 68 19 78 10 d56 4d7 1022-1 cf6f-1 139f 19 159 d f2 381 b835 9-4
  c2eae-5f"

def graphemeLink : String :=
  "94d 80 80 80 80 80 80 80 6e-1 11 7d 70 80 ca b5-1 6da-1 1f 9e 28e e4 66-1 47-1 118c 7a87 26
  98 8f 6d 136 f7 5e52 607 2a f 3a 7a-1 8c 75 b5 63 f5 80 fd 80 77 75 10e 104-1 a2 54 13 52 1a6
  105-1 52"

def hexDigit : String :=
  "30-9 8-5 1b-5 feaa-9 8-5 1b-5"

def idsBinaryOperator : String :=
  "2ff0-1 3-7"

def idsTrinaryOperator : String :=
  "2ff2-1"

def idContinue : String :=
  "b7 2d0 fe2-8 669 73e 16 d01 26c-1"

def idStart : String :=
  "1885-1 892 16 d01 26c-1"

def ideographic : String :=
  "3006-1 1a-8 f-2 3c6-19bf 41-51ff 5901-16d 3-69 750b 1c-17f7 9-4d5 2b-8 2468-18b 4d05-a6df
  21-1038 8-dd 3-1681 f-1d30 c20-21d 5e3-134a"

def joinControl : String :=
  "200c-1"

def logicalOrderException : String :=
  "e40-4 7c-4 af1-2 3 90fb-1 3 2-1"

def lowercase : String :=
  "aa 10 1f6-8 8-1 1f-4 61 35 d82 c30-3e e 23-24 2b2 e 11-c d4-f 351-19 793-1 7a1f-1 d3 82-2 4-1
  363-3 a 5c17 3-2 2-29 2-8"

def math : String :=
  "5e 372-2 3 1b-1 3-1 1c21 1c-2 c 21-3 19-1 f-1 42-c 5 4-1 5-4 13 5 3-9 2 4-4 7 4-1 3-1 2-2 2-5
  4-3 6-4 4c-4 3-3 2-1 2-1 2 2-4 3-1 5-1 5-11 3-1 2 2-6 2 7-1 123-3 a9-1 2 19 12 1be-1 d-8 6-4
  6-1 3-1 4-4 f 2 3-5 19-1 3a 2 1e-3 a-1 157-1 20-9 194-15 40-3 21-1 d464 2 5 d4 2 d4c2-54 2-46
  2-1 3 3-1 3-3 2-b 2 2-6 2-40 2-3 3-7 2-6 2-1b 2-3 2-4 2 4-6 2-153 3-18 2-18 2-1e 2-18 2-1e
  2-18 2-1e 2-18 2-1e 2-18 2-7 3-31 1601-3 2-1a 2-1 2 3 2-9 2-3 2 2 7 5 2 2 2-2 2-1 2 3 2 2 2 2
  2-1 2 3-3 2-6 2-3 2-3 2 2-9 2-10 6-2 2-4 2-10"

def noncharacterCodePoint : String :=
  "fdd0-1f 20f-1 ffff-1 ffff-1 ffff-1 ffff-1 ffff-1 ffff-1 ffff-1 ffff-1 ffff-1 ffff-1 ffff-1
  ffff-1 ffff-1 ffff-1 ffff-1 ffff-1"

def patternSyntax : String :=
  "21-e b-6 1b-3 2 1b-3 23-6 2 2-1 2 2-1 5 5 4 18 20 1f19-17 9-e 3-12 2-9 132-2cf a1-275 1f-46b
  201-7f 182-2 5-18 10 cd0e-1 106-1"

def patternWhiteSpace : String :=
  "9-4 13 65 1f89-1 19-1"

def prependedConcatenationMark : String :=
  "600-5 d8 32 181-1 51 107db 10"

def quotationMark : String :=
  "22 5 84 10 1f5d-7 1a-1 e08 1ca-3 e-2 ce22-3 be 5 5b-1"

def radical : String :=
  "2e80-19 2-58 d-d5"

def regionalIndicator : String :=
  "1f1e6-19"

def sentenceTerminal : String :=
  "21 d 11 54a 94-2 b5 2c-2 f7 3e 2 4-1 126-1 6e5-1 317 5-1 306 c7-1 cd 6 13b-1 163-3 af-1 3-1
  1e-1 bd-1 42-1 3bd-1 a-2 de5 e 17-1 1ae 74fd 10f-1 e4 4 17f-1 57-1 60 99-1 94-2 91-1 fa 5267
  4-1 aa d 11 42 af5-1 4fe-4 2d-3 be-1 76-3 80-2 82-1 7 11-1 59-1 2-1 6d 1a2-1 176-1 6-e 6a-1
  fa-2 206 2 fc-1 58-1 1a5-1 2b5-1 4b76-1 86 42-1 c 354 4e07 1de9"

def softDotted : String :=
  "69-1 c5 11a 1f 35 15 141 63 2 190a 34 e 4 85 9e 1a6 d7-1 b33 1a7a6-1 33-1 33-1 33-1 33-1 33-1
  33-1 33-1 33-1 33-1 33-1 33-1 33-1 887"

def terminalPunctuation : String :=
  "21 b 2 c-1 4 33f 9 202 3a 49 f 2-2 b5 2c-a 2 ec-1 37-e 20 106-1 4f5-1 ad 5-5 138-1 316-7 306
  7d-2 48-1 9e-2 4 28-3 3-1 13b-1 163-3 af-1 2-2 1e-1 bd-4 3f-1 3bd-1 a-2 de5 e 5 b 2-1 4-1
  1ad-1 74fc-1 10e-2 e4-4 17f-1 57-1 60 98-2 94-2 80 11-1 fa 5265-2 2-3 aa b 2 c-1 4 42 3 43b
  31 487 c8 137-1 99-5 45-5 5a-3 3b9-4 2d-3 be-6 71-3 80-2 82-1 7 11-1 59-4 6d 1a2-2 d-1 167-3
  4-e 6a-1 fa-2 206 2 fc-1 58-1 5-1 19f-2 2e 286-1 578-4 45fa-1 86 42-2 b 353-1 4e07 1de8-3"

def unifiedIdeograph : String :=
  "3400-19bf 41-51ff 5a0f-1 2 2-1 b 2 2-1 3-2 105d7-a6df 21-1038 8-dd 3-1681 f-1d30 1420-134a"

def uppercase : String :=
  "2160-f 347-19 1cc61-19 7-19 7-19"

def variationSelector : String :=
  "180b-2 2 e5f1-f d02f1-ef"

def whiteSpace : String :=
  "9-4 13 65 1b 15e0 980-a 1e-1 6 30 fa1"

def xidContinue : String :=
  "b7 2c3 d fe2-8 669 73e 16 d01 ce2f-5 197-1 75 2 2 2 2 2 2 2"

def xidStart : String :=
  "37a ab9 80 9d2-1 892 16 d01 ce2f-5 197-1 75 2 2 2 2 2 2 2 120-1"

end RuleRegex.Unicode.Data
