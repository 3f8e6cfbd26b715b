import ScopedSheets.Text

/-!
# Numbers in words

Whole numbers as words and expressions write them: blanks, a sign, and digits, which may be octal after a
zero and hexadecimal after `0x`. The system holds numbers in 64 bits with a sign.
-/

namespace ScopedSheets.Number

def maxNumber : Int := 9223372036854775807

def minNumber : Int := -9223372036854775808

/-- The nearest number that 64 bits hold. -/
def clamp (n : Int) : Int := max minNumber (min maxNumber n)

/-- A number of 64 bits that is the same in its last 64 bits. -/
def wrap (n : Int) : Int := Int.bmod n (1 <<< 64)

def isSpace (c : Char) : Bool := c = ' ' || '\t' ≤ c && c ≤ '\r'

def digitValue (c : Char) : Nat :=
  if c.isDigit then c.toNat - 48 else if c.isUpper then c.toNat - 55 else c.toNat - 87

def isDigitIn (base : Nat) (c : Char) : Bool :=
  (c.isDigit || 'a' ≤ c && c ≤ 'f' || 'A' ≤ c && c ≤ 'F') && digitValue c < base

def valueIn (base : Nat) (digits : Text) : Nat :=
  digits.foldl (fun n c => n * base + digitValue c) 0

def readDigits? (base : Nat) (t : Text) : Option (Nat × Text) :=
  let digits := t.takeWhile (isDigitIn base)
  if digits = [] then none else some (valueIn base digits, t.dropWhile (isDigitIn base))

def readAnyBase? (t : Text) : Option (Nat × Text) :=
  match t with
  | '0' :: x :: rest =>
    if x = 'x' || x = 'X' then (readDigits? 16 rest).or (some (0, x :: rest))
    else readDigits? 8 t
  | _ => readDigits? 10 t

def readSigned? (digits : Text → Option (Nat × Text)) (t : Text) : Option (Int × Text) :=
  match t.dropWhile isSpace with
  | '-' :: rest => (digits rest).map fun (n, rest) => (-(n : Int), rest)
  | '+' :: rest => (digits rest).map fun (n, rest) => ((n : Int), rest)
  | rest => (digits rest).map fun (n, rest) => ((n : Int), rest)

def whole? (digits : Text → Option (Nat × Text)) (word : Text) : Option Int :=
  match readSigned? digits word with
  | some (n, rest) => if rest.all isSpace && clamp n = n then some n else none
  | none => none

def decimal? (word : Text) : Option Int := whole? (readDigits? 10) word

def count? (word : Text) : Option Nat :=
  match decimal? word with
  | some n => if 0 ≤ n && n ≤ 2147483647 then some n.toNat else none
  | none => none

/-- The number that the value of a variable writes. A value of blanks writes zero. -/
def valueNumber? (value : Text) : Option Int :=
  if value.all isSpace then some 0 else whole? readAnyBase? value

def illegalNumber (word : Text) : Text := "Illegal number: ".toList ++ word

end ScopedSheets.Number
