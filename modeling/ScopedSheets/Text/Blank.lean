import ScopedSheets.Text

/-!
# Blank characters

Two classes of blank characters. Markers, blank files and the messages of programs go by Unicode
white space together with the four information separators U+001C to U+001F; selectors are trimmed of
four ASCII characters only.
-/

namespace ScopedSheets.Text

/-- The code points that count as white space, as inclusive ranges in ascending order. -/
def blankRanges : List (Nat × Nat) :=
  [(0x09, 0x0D), (0x1C, 0x20), (0x85, 0x85), (0xA0, 0xA0), (0x1680, 0x1680), (0x2000, 0x200A),
   (0x2028, 0x2029), (0x202F, 0x202F), (0x205F, 0x205F), (0x3000, 0x3000)]

def isBlank (c : Char) : Bool :=
  blankRanges.any fun (low, high) => low ≤ c.toNat && c.toNat ≤ high

/-- The white space that is trimmed around a selector: space, tab, carriage return, line feed. -/
def isSelectorBlank (c : Char) : Bool := c = ' ' || c = '\t' || c = '\r' || c = '\n'

def isBlankText (t : Text) : Bool := t.all isBlank

end ScopedSheets.Text
