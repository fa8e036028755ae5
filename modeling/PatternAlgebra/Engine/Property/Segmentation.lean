import PatternAlgebra.Engine.Property.Binary

/-!
# Segmentation

The values of the properties that tell where graphemes, words and sentences end, as in version 16 of
the Unicode character database.
-/
namespace PatternAlgebra.Engine.Property

/-- What continues a grapheme. -/
def graphemeBreakExtend : Property :=
  either graphemeExtend emojiModifier

/-- Marks that take space and belong to the grapheme before them. -/
def spacingMark : Property :=
  except (either (except (category [.spacingMark]) graphemeExtend) (ofLines ["e33 eb3"]))
    (ofLines
    ["102b-102c 1038 1062-1064 1067-106d 1083 1087-108c 108f 109a-109c 1a61 1a63-1a64 aa7b",
     "aa7d 11720-11721"])

/-- What stands alone between graphemes. -/
def graphemeControl : Property :=
  except (either (category [.lineSeparator, .paragraphSeparator, .control, .format])
    (ofLines ["2065 fff0-fff8 e0000 e0002-e001f e0080-e00ff e01f0-e0fff"]))
    (ofLines ["a d 600-605 6dd 70f 890-891 8e2 200c-200d 110bd 110cd e0020-e007f"])

/-- Hangul syllables that end in a vowel. -/
def syllableWithoutTail : Property :=
  ofLines ["ac00-d788/1c"]

/-- Hangul syllables that end in a consonant. -/
def syllableWithTail : Property :=
  except (ofLines ["ac00-d7a3"]) syllableWithoutTail

def graphemeBreaks : List (List String × Property) :=
  [(["cn", "control"], graphemeControl),
   (["cr"], ofLines ["d"]),
   (["ex", "extend"], graphemeBreakExtend),
   (["l"], ofLines ["1100-115f a960-a97c"]),
   (["lf"], ofLines ["a"]),
   (["lv"], syllableWithoutTail),
   (["lvt"], syllableWithTail),
   (["pp", "prepend"], ofLines
    ["600-605 6dd 70f 890-891 8e2 d4e 110bd 110cd 111c2-111c3 113d1 1193f 11941 11a3a",
     "11a84-11a89 11d46 11f02"]),
   (["ri", "regionalindicator"], ofLines ["1f1e6-1f1ff"]),
   (["sm", "spacingmark"], spacingMark),
   (["t"], ofLines ["11a8-11ff d7cb-d7fb"]),
   (["v"], ofLines ["1160-11a7 d7b0-d7c6 16d63 16d67-16d6a"]),
   (["zwj"], ofLines ["200d"])]

/-- What continues a word. -/
def wordExtend : Property :=
  either (category [.spacingMark]) (either graphemeExtend emojiModifier)

def wordFormat : Property :=
  except (category [.format]) (ofLines ["200b-200d e0020-e007f"])

def wordNumeric : Property :=
  either (category [.decimalNumber]) (ofLines ["66b"])

def hebrewLetter : Property :=
  ofLines
    ["5d0-5ea 5ef-5f2 fb1d fb1f-fb28 fb2a-fb36 fb38-fb3c fb3e fb40-fb41 fb43-fb44 fb46-fb4f"]

def katakanaLetter : Property :=
  ofLines
    ["3031-3035 309b-309c 30a0-30fa 30fc-30ff 31f0-31ff 32d0-32fe 3300-3357 ff66-ff9d",
     "1aff0-1aff3 1aff5-1affb 1affd-1affe 1b000 1b120-1b122 1b155 1b164-1b167"]

/-- Letters of scripts that put no blanks between words. -/
def unspacedLetter : Property :=
  ofLines
    ["e01-e30 e32-e33 e40-e46 e81-e82 e84 e86-e8a e8c-ea3 ea5 ea7-eb0 eb2-eb3 ebd ec0-ec4 ec6",
     "edc-edf 1000-102a 103f 1050-1055 105a-105d 1061 1065-1066 106e-1070 1075-1081 108e",
     "1780-17b3 17d7 17dc 1950-196d 1970-1974 1980-19ab 19b0-19c9 1a20-1a54 1aa7 3041-3096",
     "309d-309f a9e0-a9e4 a9e6-a9ef a9fa-a9fe aa60-aa76 aa7a aa7e-aaaf aab1 aab5-aab6",
     "aab9-aabd aac0 aac2 aadb-aadd 11700-1171a 11740-11746 1b001-1b11f 1b132 1b150-1b152"]

def wordLetter : Property :=
  either
    (except alphabetic
      (anyOf [ideographic, wordExtend, hebrewLetter, katakanaLetter, unspacedLetter]))
    (ofLines
    ["2c2-2c5 2d2-2d7 2de-2df 2e5-2eb 2ed 2ef-2ff 55a-55c 55e 58a 5f3 a708-a716 a720-a721",
     "a789-a78a ab5b"])

def wordBreaks : List (List String × Property) :=
  [(["le", "aletter"], wordLetter),
   (["cr"], ofLines ["d"]),
   (["dq", "doublequote"], ofLines ["22"]),
   (["extend"], wordExtend),
   (["ex", "extendnumlet"], ofLines ["5f 202f 203f-2040 2054 fe33-fe34 fe4d-fe4f ff3f"]),
   (["fo", "format"], wordFormat),
   (["hl", "hebrewletter"], hebrewLetter),
   (["ka", "katakana"], katakanaLetter),
   (["lf"], ofLines ["a"]),
   (["ml", "midletter"], ofLines ["3a b7 387 55f 5f4 2027 fe13 fe55 ff1a"]),
   (["mn", "midnum"], ofLines
    ["2c 3b 37e 589 60c-60d 66c 7f8 2044 fe10 fe14 fe50 fe54 ff0c ff1b"]),
   (["mb", "midnumlet"], ofLines ["2e 2018-2019 2024 fe52 ff07 ff0e"]),
   (["nl", "newline"], ofLines ["b-c 85 2028-2029"]),
   (["nu", "numeric"], wordNumeric),
   (["ri", "regionalindicator"], ofLines ["1f1e6-1f1ff"]),
   (["sq", "singlequote"], ofLines ["27"]),
   (["wsegspace"], ofLines ["20 1680 2000-2006 2008-200a 205f 3000"]),
   (["zwj"], ofLines ["200d"])]

/-- What continues a sentence. -/
def sentenceExtend : Property :=
  anyOf [category [.spacingMark], graphemeExtend, ofLines ["200d"]]

def sentenceLower : Property :=
  except (except lowercase graphemeExtend) (ofLines ["10d0-10fa 10fd-10ff"])

def sentenceUpper : Property :=
  except (either uppercase (category [.title])) (ofLines ["1c90-1cba 1cbd-1cbf"])

def sentenceLetter : Property :=
  either (ofLines ["5f3"])
    (except alphabetic (anyOf [sentenceLower, sentenceUpper, sentenceExtend]))

def sentenceFormat : Property :=
  except (category [.format]) (ofLines ["200c-200d e0020-e007f"])

def sentenceNumeric : Property :=
  either (category [.decimalNumber]) (ofLines ["66b-66c"])

def sentenceEnd : Property :=
  except sentenceTerminal (ofLines ["2e 2024 fe52 ff0e"])

def sentenceClose : Property :=
  either (category [.opening, .closing, .initialQuote, .finalQuote])
    (ofLines ["22 27 275b-2760 2e00-2e01 2e06-2e08 2e0b 1f676-1f678"])

def sentenceSpace : Property :=
  except whiteSpace (ofLines ["a d 85 2028-2029"])

def sentenceBreaks : List (List String × Property) :=
  [(["at", "aterm"], ofLines ["2e 2024 fe52 ff0e"]),
   (["cr"], ofLines ["d"]),
   (["cl", "close"], sentenceClose),
   (["ex", "extend"], sentenceExtend),
   (["fo", "format"], sentenceFormat),
   (["lf"], ofLines ["a"]),
   (["lo", "lower"], sentenceLower),
   (["nu", "numeric"], sentenceNumeric),
   (["le", "oletter"], sentenceLetter),
   (["sc", "scontinue"], ofLines
    ["2c-2d 3a-3b 37e 55d 60c-60d 7f8 1802 1808 2013-2014 3001 fe10-fe11 fe13-fe14 fe31-fe32",
     "fe50-fe51 fe54-fe55 fe58 fe63 ff0c-ff0d ff1a-ff1b ff64"]),
   (["st", "sterm"], sentenceEnd),
   (["se", "sep"], ofLines ["85 2028-2029"]),
   (["sp"], sentenceSpace),
   (["up", "upper"], sentenceUpper)]

end PatternAlgebra.Engine.Property
