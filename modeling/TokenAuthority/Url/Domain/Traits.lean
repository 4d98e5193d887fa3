import TokenAuthority.Text.Runs

/-!
# Characters beside each other

What a domain has to know of a character to say whether it may stand where it stands: the direction
in which it is written, whether it is a mark on the character in front of it, and how it is joined
to its neighbours in a script whose letters are connected.

The table gives a capital for the direction and small letters for the rest:
* `L`: from left to right, `R`: from right to left, `N`: either way, as what is around it,
* `E`: a European digit, `A`: an Arabic digit, which are numbers in either direction,
* `M`: as the character that it is a mark on,
* `m`: a mark,
* `d`: joined on both sides, `r`: to what precedes, `l`: to what follows,
* `t`: what is around it is joined as if it were not there.
Code points that no domain keeps are counted to the run they lie in.
-/

namespace TokenAuthority.Url.Domain

def traitLines : List String := [
  "48N 10E 39N 26L 100N 24L 1N 449L 2N 7L 14N 2L 28N 1L 17N 113Mmt 4L 2N 127L 2N 139L 8Mmt 255L",
  "7N 45Mmt 1R 1Mmt 1R 2Mmt 1R 2Mmt 1R 9Mmt 54R 2N 1R 2N 1R 1N 1R 2N 11Mmt 5R 1Rd 1R 4Rr 1Rd 1Rr",
  "1Rd 1Rr 5Rd 4Rr 13Rd 1R 7Rd 1Rr 2Rd 21Mmt 10A 1N 2A 1R 2Rd 1Mmt 3Rr 5R 15Rd 18Rr 38Rd 1Rr 2Rd",
  "9Rr 1Rd 1Rr 1Rd 1Rr 2Rd 2Rr 1R 1Rr 8Mmt 1N 6Mmt 2R 2Mmt 1N 4Mmt 2Rr 10E 3Rd 2R 1Rd 16R 1Rr",
  "1Mmt 3Rd 5Rr 4Rd 1Rr 9Rd 1Rr 1Rd 1Rr 1Rd 1Rr 2Rd 1Rr 29Mmt 1Rr 11Rd 3Rr 15Rd 2Rr 4Rd 1Rr 1Rd",
  "2Rr 3Rd 2Rr 6Rd 38R 11Mmt 25R 33Rd 9Mmt 2R 4N 3R 1Mmt 24R 4Mmt 1R 9Mmt 1R 3Mmt 1R 7Mmt 16R",
  "1Rr 5Rd 2Rr 1Rd 1Rr 10Rd 1Rr 1Rd 3Rr 5Mmt 2R 1Rd 1R 4Rd 1R 1Rr 1Rd 26Rr 3R 1Rd 2R 5Rd 1Rr 8Rd",
  "9Mmt 10Rd 3Rr 1R 1Rr 2Rd 2Rr 6Rd 1Rr 15Rd 1R 57Mmt 1Lm 54L 1Mmt 1Lm 1Mmt 1L 3Lm 8Mmt 4Lm 1Mmt",
  "2Lm 1L 15Mmt 2L 2Mmt 29L 1Mmt 3Lm 55L 1Mmt 1L 3Lm 6Mmt 6Lm 1Mmt 9L 9Lm 2L 4Mmt 12L 2N 7L 1N",
  "2L 5Mmt 2Lm 55L 2Mmt 3Lm 27Mmt 20L 2Mmt 3L 1Mmt 11L 2Mmt 2Lm 55L 1Mmt 1L 3Lm 8Mmt 4Lm 3Mmt",
  "18L 4Mmt 11L 8N 1L 8Mmt 3Lm 55L 1Mmt 1L 1Lm 1Mmt 1Lm 6Mmt 6Lm 10Mmt 8Lm 3L 4Mmt 28L 1Mmt 59L",
  "2Lm 1Mmt 12Lm 3Mmt 7L 15Lm 13L 13N 1Mmt 3Lm 1Mmt 55L 1Mmt 1L 3Mmt 5Lm 18Mmt 10L 4Mmt 18L 7N",
  "2L 1Mmt 2Lm 56L 1Mmt 1L 1Lm 1Lmt 6Lm 1Lmt 5Lm 9Mmt 7Lm 6L 4Mmt 13L 13Lm 2Mmt 2Lm 55L 2Mmt 1L",
  "3Lm 5Mmt 7Lm 1Mmt 9L 1Lm 10L 4Mmt 27L 1Mmt 3Lm 69L 5Mmt 3Lm 6Mmt 14Lm 12L 2Lm 61L 1Mmt 2L",
  "11Mmt 1N 7L 8Mmt 98L 1Mmt 2L 9Mmt 11L 8Mmt 72L 2Mmt 27L 1Mmt 1L 1Mmt 1L 1Mmt 4N 2Lm 49L 14Mmt",
  "1Lm 5Mmt 1L 2Mmt 5L 49Mmt 8L 1Mmt 100L 2Lm 4Mmt 1Lm 6Mmt 1Lm 2Mmt 2Lm 2Mmt 23L 2Lm 2Mmt 4L",
  "3Mmt 1L 3Lm 2L 7Lm 3L 4Mmt 13L 1Mmt 2Lm 2Mmt 6Lm 1Mmt 1L 1Lm 10L 3Lm 1Mmt 703L 3Mmt 48L 16N",
  "96L 1N 666L 5N 114L 3Mmt 10Lm 19L 2Mmt 1Lm 29L 14Mmt 18L 14Mmt 54L 1Lm 7Mmt 8Lm 1Mmt 2Lm",
  "11Mmt 7L 1N 1L 3Mmt 16L 23N 1Nd 8N 16L 96Ld 5L 2Mmt 34Ld 1Mmt 6Ld 112L 3Mmt 4Lm 2Mmt 9Lm 1Mmt",
  "6Lm 7Mmt 6N 152L 34N 23L 2Mmt 2Lm 3Mmt 55L 1Lm 1Mmt 1Lm 9Mmt 1Lm 1Mmt 2Lm 8Mmt 6Lm 13Mmt 48L",
  "84Mmt 1Lm 47L 1Mmt 1Lm 5Mmt 1Lm 1Mmt 5Lm 1Mmt 2Lm 38L 9Mmt 12L 2Mmt 1Lm 30L 1Lm 4Mmt 2Lm 2Mmt",
  "1Lm 3Mmt 56L 1Mmt 1Lm 2Mmt 3Lm 1Mmt 1Lm 3Mmt 10Lm 40L 8Lm 8Mmt 2Lm 5Mmt 149L 3Mmt 1L 13Mmt",
  "1Lm 7Mmt 4L 1Mmt 6L 1Mmt 2L 1Lm 2Mmt 198L 65Mmt 523L 196N 52Mmt 74N 60L 428N 69L 26N 1L 790N",
  "1L 339N 256L 816N 181L 7N 3L 4Mmt 6L 7N 127L 1Mmt 96L 32Mmt 517N 3L 25N 9L 4Mmt 2Lm 1N 6L 4N",
  "2L 4N 88L 4Mmt 3L 1N 90L 1N 196L 48N 7120L 64N 22160L 64N 317L 3N 95L 4Mmt 1N 10Mmt 3N 29L",
  "2Mmt 80L 2Mmt 14L 35N 101L 1N 121L 1Mmt 3L 1Mmt 4L 1Mmt 23L 2Lm 2Mmt 1Lm 4N 4Mmt 8L 8N 50Ld",
  "1Ll 1L 12N 2Lm 50L 16Lm 10Mmt 18L 18Mmt 13L 1Mmt 38L 8Mmt 25L 11Mmt 13Lm 33L 3Mmt 1Lm 47L",
  "1Mmt 2Lm 4Mmt 2Lm 2Mmt 3Lm 36L 1Mmt 67L 6Mmt 2Lm 2Mmt 2Lm 11Mmt 3L 1Mmt 8L 1Mmt 3Lm 43L 1Lm",
  "1Mmt 1Lm 50L 1Mmt 1L 3Mmt 2L 2Mmt 5L 2Mmt 1L 1Mmt 41L 1Lm 2Mmt 2Lm 5L 1Lm 11Mmt 105L 86N 35L",
  "2Lm 1Mmt 2Lm 1Mmt 2Lm 1L 1Lm 3Mmt 20270L 148Mmt 17R 605N 37Mmt 46N 397R 257L 1N 62L 77N 3L",
  "64N 45L 131Mmt 96L 1Mmt 31E 118L 10Mmt 1152L 287R 1N 225R 15Mmt 40R 8Mmt 128R 5Rd 1Rr 1R 1Rr",
  "1R 2Rr 2R 1Rl 5Rr 4Rd 1Rl 5Rd 1Rr 3Rd 1Rr 2R 1Rr 6Mmt 4Rd 1Rr 73R 7N 64R 1Rd 1Rr 1Rd 3Rr 3Rd",
  "1Rr 2Rd 1Rr 1Rd 2Rr 1Rd 8Rr 16R 4Rr 2Rd 337R 1Rl 33Rd 1Rr 1Rd 12Mmt 16A 41R 5Mmt 1N 241R 32A",
  "43R 2Mmt 21R 1Rr 2Rd 1R 10Rd 42N 6Mmt 48R 3Rd 1Rr 17Rd 1R 11Mmt 3Rd 1Rr 27R 4Rd 2Rr 12Rd 4Mmt",
  "42R 1Rd 1R 2Rd 3Rr 1R 1Rd 2Rr 2Rd 1Rr 2Rd 1R 1Rd 2Rr 1Rd 4R 1Rr 1Rd 21Rl 32R 1Lm 1Mmt 1Lm 53L",
  "15Mmt 11L 20N 10L 1Mmt 2L 2Mmt 10L 3Mmt 1Lm 45L 3Lm 4Mmt 2Lm 2Mmt 7L 14Mmt 48L 3Mmt 36L 5Mmt",
  "1Lm 9Mmt 15L 2Lm 44L 1Mmt 12L 2Mmt 1Lm 48L 3Lm 9Mmt 2Lm 8L 4Mmt 1L 1Lm 1Mmt 92L 3Lm 3Mmt 2Lm",
  "1Mmt 1Lm 2Mmt 6L 1Mmt 2L 63Mmt 95L 1Mmt 3Lm 13Mmt 16L 2Mmt 3Lm 54L 2Mmt 1L 2Lm 1Mmt 15Lm 7L",
  "6Lm 5L 4Lm 26Mmt 56L 3Lm 7Mmt 12Lm 1Mmt 1Lm 1Mmt 1L 1Mmt 14L 31Mmt 53L 3Lm 8Mmt 2Lm 3Mmt 1Lm",
  "1Mmt 23L 1Mmt 81L 3Lm 6Mmt 1Lm 1Mmt 4Lm 2Mmt 1Lm 2Mmt 235L 3Lm 6Mmt 4Lm 2Mmt 1Lm 2Mmt 27L",
  "36Mmt 48L 3Lm 8Mmt 2Lm 1Mmt 1Lm 2Mmt 31L 32N 43L 1Mmt 1Lm 1Mmt 2Lm 6Mmt 1Lm 1Mmt 101L 1Mmt",
  "1Mm 1Mmt 2Lm 4Mmt 1Lm 9Mmt 252L 3Lm 9Mmt 1Lm 2Mmt 245L 11Lm 2Mmt 1Lm 1Mmt 1L 1Lm 1L 1Lm 1Mmt",
  "141L 3Lm 8Mmt 4Lm 1Mmt 3L 28Lm 1L 6Mmt 2Lmt 2Mmt 40L 6Mmt 1Lm 1L 4Mmt 8L 9Mmt 1L 6Mmt 2Lm",
  "3Mmt 46L 13Mmt 1Lm 2Mmt 198L 1Mmt 1Lm 3Mmt 1Lm 1Mmt 89Lm 111L 1Lm 14Mmt 1Lm 1Lmt 82L 23Mmt",
  "1Lm 7Mmt 1Lm 2Mmt 1Lm 75Mmt 49L 21Mmt 1L 9Mmt 58L 6Lm 3Mmt 2Lm 1Mmt 1Lm 1Mmt 347L 2Mmt 2Lm 9L",
  "2Mmt 1L 1Lm 48L 2Lm 8Mmt 2Lm 1Mmt 1Lm 1Mmt 23L 86Mmt 37L 42N 5185L 1Mmt 6L 25Mmt 11454L 12Mmt",
  "3Lm 3Mmt 2496L 5Mmt 59L 7Mmt 1048L 1Mmt 1L 62Lm 4Mmt 79L 1N 1L 12Mmt 2Lm 19627L 2Mmt 3937L",
  "768N 80Mmt 533L 2Lm 3Mmt 3L 14Lm 8Mmt 2L 7Mmt 30L 4Mmt 59L 89N 3Mmt 123N 64L 96N 1696L 55Mmt",
  "4L 50Mmt 8L 1Mmt 14L 1Mmt 22L 1125Mmt 256L 256Mmt 48L 7Mmt 375L 18Mmt 44L 4Mmt 15L 465N 28L",
  "4Mmt 254L 2Mmt 243L 1Mmt 2L 1Mmt 7L 2Mmt 5L 9Mmt 258L 208R 82Mmt 34Rd 7Mmt 5Rt 1440R 608N 29L",
  "3N 61L 57N 122L 3488N 131072L"]

def traitRuns : List Text.Run :=
  Text.Run.ofLines traitLines

def traits (value : Char) : List Char :=
  Text.Run.labelAt traitRuns value.toNat

inductive Direction where
  | leftToRight
  | rightToLeft
  | neutral
  | europeanDigit
  | arabicDigit
  | mark
  deriving DecidableEq, Repr

def direction (value : Char) : Direction :=
  match traits value with
  | 'R' :: _ => .rightToLeft
  | 'N' :: _ => .neutral
  | 'E' :: _ => .europeanDigit
  | 'A' :: _ => .arabicDigit
  | 'M' :: _ => .mark
  | _ => .leftToRight

def isMark (value : Char) : Bool :=
  (traits value).contains 'm'

def joinsNext (value : Char) : Bool :=
  (traits value).contains 'd' || (traits value).contains 'l'

def joinsPrevious (value : Char) : Bool :=
  (traits value).contains 'd' || (traits value).contains 'r'

def isTransparent (value : Char) : Bool :=
  (traits value).contains 't'

example : direction 'a' = .leftToRight := by decide +kernel

end TokenAuthority.Url.Domain
