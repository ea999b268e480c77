import ResourceWatch.Text

/-!
Blank units: the space separators, tab and the other horizontal and vertical controls, the line
terminators and the byte order mark.
-/

namespace ResourceWatch.Text

/-- The space separators beyond the space itself. -/
def spaceSeparators : List UInt16 :=
  [0x00A0, 0x1680, 0x2000, 0x2001, 0x2002, 0x2003, 0x2004, 0x2005, 0x2006, 0x2007, 0x2008, 0x2009,
    0x200A, 0x202F, 0x205F, 0x3000]

def isBlank (unit : UInt16) : Bool :=
  (0x09 ≤ unit && unit ≤ 0x0D) || unit = 0x20 || unit = 0xFEFF || unit = 0x2028 || unit = 0x2029 ||
    spaceSeparators.contains unit

/-- The text without the blanks at its ends. -/
def trim (text : Text) : Text :=
  ((text.dropWhile isBlank).reverse.dropWhile isBlank).reverse

end ResourceWatch.Text
