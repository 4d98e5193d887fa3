/-!
# Blanks

Blank characters are those with the White_Space property. `trim` takes them off both ends.
-/

namespace TokenAuthority.Text

/-- The characters with the White_Space property. -/
def isBlank (value : Char) : Bool :=
  let point := value.toNat
  (0x09 ≤ point && point ≤ 0x0D) || point == 0x20 || point == 0x85 || point == 0xA0 ||
    point == 0x1680 || (0x2000 ≤ point && point ≤ 0x200A) || point == 0x2028 ||
    point == 0x2029 || point == 0x202F || point == 0x205F || point == 0x3000

/-- Blank among the bytes below 128: tab, line feed, form feed, carriage return and space. -/
def isBlankByte (value : UInt8) : Bool :=
  value == 0x09 || value == 0x0A || value == 0x0C || value == 0x0D || value == 0x20

def trimEndChars (chars : List Char) : List Char :=
  (chars.reverse.dropWhile isBlank).reverse

def trimChars (chars : List Char) : List Char :=
  trimEndChars (chars.dropWhile isBlank)

def trim (text : String) : String :=
  String.ofList (trimChars text.toList)

def isBlankText (text : String) : Bool :=
  text.toList.all isBlank

example : trim " a b\t" = "a b" := by decide

end TokenAuthority.Text
