import ScopedSheets.Machine.Format.Quoting

/-!
# The width of names

How many columns a name takes on a terminal. Combining characters take none, and those of East Asian scripts and
most pictures take two.
-/

namespace ScopedSheets.Width

def narrowest : List (Nat × Nat) :=
  [(0x300, 0x36F), (0x483, 0x489), (0x591, 0x5BD), (0x610, 0x61A), (0x64B, 0x65F), (0x941, 0x948),
   (0x94D, 0x94D), (0x9C1, 0x9C4), (0x9CD, 0x9CD), (0x200B, 0x200F), (0x202A, 0x202E), (0x2060, 0x206F),
   (0x20D0, 0x20F0), (0xFE00, 0xFE0F), (0xFE20, 0xFE2F), (0xFEFF, 0xFEFF)]

def widest : List (Nat × Nat) :=
  [(0x1100, 0x115F), (0x2E80, 0x303E), (0x3041, 0xA4C6), (0xAC00, 0xD7A3), (0xF900, 0xFAD9),
   (0xFE30, 0xFE6B), (0xFF01, 0xFF60), (0xFFE0, 0xFFE6), (0x1F300, 0x1FAF6), (0x20000, 0x3134A)]

def isIn (ranges : List (Nat × Nat)) (c : Char) : Bool :=
  ranges.any fun (first, last) => first ≤ c.toNat && c.toNat ≤ last

def isControl (c : Char) : Bool :=
  c.toNat < 0x20 || 0x7F ≤ c.toNat && c.toNat < 0xA0 || c.toNat = 0x2028 || c.toNat = 0x2029

def ofCharacter (c : Char) : Nat :=
  if isControl c || isIn narrowest c then 0 else if isIn widest c then 2 else 1

def ofText (t : Text) : Nat :=
  (Quoting.characters (Octets.toBytes t)).foldl (fun n (c, _) => n + (c.map ofCharacter).getD 1) 0

end ScopedSheets.Width
