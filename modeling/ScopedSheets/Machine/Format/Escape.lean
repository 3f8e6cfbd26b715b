import ScopedSheets.Machine.Number
import ScopedSheets.Machine.Octets

/-!
# Escapes

What a backslash makes of the characters behind it. What may stand there differs from program to program.
-/

namespace ScopedSheets.Escape

open Number

inductive Wrong where
  | noDigits
  | noCharacter (letter : Char) (digits : Text)
deriving DecidableEq

structure Dialect where
  octets : Bool := false
  characters : Bool := false
  /-- An escape without a meaning is wrong where it is a number, and `c` ends all output. -/
  isStrict : Bool := false

def ofLetter? : Char → Option Char
  | 'a' => some '\x07'
  | 'b' => some '\x08'
  | 'e' => some '\x1b'
  | 'f' => some '\x0c'
  | 'n' => some '\n'
  | 'r' => some '\r'
  | 't' => some '\t'
  | 'v' => some '\x0b'
  | '\\' => some '\\'
  | _ => none

def digitsOf (base limit : Nat) (t : Text) : Text := (t.take limit).takeWhile (isDigitIn base)

def octet (n : Nat) : Char := Char.ofNat (n % 256)

/-- The character of a number behind its letter, and the rest. Most of ASCII may not be given so. -/
def readCharacter (letter : Char) (t : Text) : Except Wrong (Text × Text) :=
  let width := if letter = 'u' then 4 else 8
  let digits := digitsOf 16 width t
  let n := valueIn 16 digits
  if digits.length < width then .error .noDigits
  else if n ≤ 0x9F && !("$@`".toList.any fun c => c.toNat = n) || 0xD800 ≤ n && n ≤ 0xDFFF then
    .error (.noCharacter letter (digits.map Char.toLower))
  else .ok (Octets.ofText [Char.ofNat n], t.drop width)

def read (d : Dialect) : Text → Except Wrong (Text × Text)
  | [] => .ok (['\\'], [])
  | c :: t =>
    match ofLetter? c with
    | some octet => .ok ([octet], t)
    | none =>
      if isDigitIn 8 c then
        let digits := digitsOf 8 3 (c :: t)
        .ok ([octet (valueIn 8 digits)], (c :: t).drop digits.length)
      else if c = 'x' && d.octets then
        let digits := digitsOf 16 2 t
        if digits ≠ [] then .ok ([octet (valueIn 16 digits)], t.drop digits.length)
        else if d.isStrict then .error .noDigits
        else .ok (['\\', 'x'], t)
      else if (c = 'u' || c = 'U') && d.characters then readCharacter c t
      else if c = '"' && d.isStrict then .ok (['"'], t)
      else .ok (['\\'], c :: t)

structure Unescaped where
  octets : Text := []
  stops : Bool := false
  wrong : Option Wrong := none

def unescape (d : Dialect) : (length : Nat) → (before : Text) → Text → Unescaped
  | 0, before, _ => { octets := before.reverse }
  | _, before, [] => { octets := before.reverse }
  | _ + 1, before, '\\' :: 'c' :: _ => { octets := before.reverse, stops := true }
  | n + 1, before, '\\' :: t =>
    -- here octal digits follow a zero that is none of the three
    let t := match t with
      | '0' :: c :: rest => if isDigitIn 8 c then c :: rest else t
      | _ => t
    match read d t with
    | .ok (octets, rest) => unescape d n (octets.reverse ++ before) rest
    | .error wrong => { octets := before.reverse, stops := true, wrong := some wrong }
  | n + 1, before, c :: t => unescape d n (c :: before) t

end ScopedSheets.Escape
