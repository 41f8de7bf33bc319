/-!
# Blank characters

The Unicode white space characters, and trimming a text of them at both ends.
-/

namespace FrameWatch.Text

/-- Unicode white space: the characters of the property `White_Space`. -/
def isBlank (c : Char) : Bool :=
  (0x09 ≤ c.toNat && c.toNat ≤ 0x0d) || c.toNat == 0x20 || c.toNat == 0x85 || c.toNat == 0xa0
    || c.toNat == 0x1680 || (0x2000 ≤ c.toNat && c.toNat ≤ 0x200a) || c.toNat == 0x2028
    || c.toNat == 0x2029 || c.toNat == 0x202f || c.toNat == 0x205f || c.toNat == 0x3000

/-- The white space of ASCII: blank, tab, line feed, form feed and carriage return. -/
def isAsciiBlank (c : Char) : Bool :=
  c == ' ' || c == '\t' || c == '\n' || c == '\x0c' || c == '\r'

/-- `s` without the blanks at its two ends. -/
def trimList (s : List Char) : List Char :=
  ((s.dropWhile isBlank).reverse.dropWhile isBlank).reverse

/-- A text that holds nothing but blanks. -/
def isBlankText (s : String) : Bool := s.toList.all isBlank

/-- `s` with its ASCII capitals in lower case. -/
def lowerAscii (s : String) : String := s.map Char.toLower

/-- `s` with its ASCII small letters in capitals. -/
def upperAscii (s : String) : String := s.map Char.toUpper

end FrameWatch.Text
