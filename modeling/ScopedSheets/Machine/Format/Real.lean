import ScopedSheets.Machine.Number

/-!
# Numbers with a point

Numbers as formats write them: a mantissa with a power of two, in the precision that a program calculates with.
-/

namespace ScopedSheets

open Number (isSpace isDigitIn valueIn)

inductive Real where
  | finite (negative : Bool) (mantissa : Nat) (exponent : Int)
  | infinite (negative : Bool)
  | undefined (negative : Bool)
deriving DecidableEq

namespace Real

/-- How many bits a mantissa has, and the range of its exponents. -/
structure Precision where
  bits : Nat
  lowest : Int
  highest : Int

def Precision.double : Precision := ⟨53, -1074, 971⟩

def Precision.extended : Precision := ⟨64, -16445, 16320⟩

def zero : Real := finite false 0 0

/-- The whole number next to a quotient, the even one of two. -/
def roundQuotient (n d : Nat) : Nat :=
  let q := n / d
  let r := n % d
  if 2 * r < d then q else if d < 2 * r then q + 1 else q + q % 2

def scale (base : Nat) (exponent : Int) (n d : Nat) : Nat × Nat :=
  if 0 ≤ exponent then (n * Nat.pow base exponent.toNat, d) else (n, d * Nat.pow base exponent.natAbs)

def ofQuotient (p : Precision) (negative : Bool) (n d : Nat) : Real :=
  if n = 0 then finite negative 0 0
  else
    let guess : Int := (n.log2 : Int) - d.log2 - p.bits
    let fits := fun e : Int =>
      let (n, d) := scale 2 (-e) n d
      n < d * (1 <<< p.bits)
    let exponent := max p.lowest (if fits guess then guess else guess + 1)
    let (n, d) := scale 2 (-exponent) n d
    let m := roundQuotient n d
    let (m, exponent) := if m = 1 <<< p.bits then (m / 2, exponent + 1) else (m, exponent)
    if p.highest < exponent then infinite negative else finite negative m exponent

def afterWord? (word : String) (t : Text) : Option Text :=
  let length := word.length
  if (t.take length).map Char.toLower = word.toList then some (t.drop length) else none

/-- Digits with a point among them: their value without the point, how many stand after it, and the
rest. -/
def readPointed? (base : Nat) (t : Text) : Option (Nat × Nat × Text) :=
  let whole := t.takeWhile (isDigitIn base)
  match t.drop whole.length with
  | '.' :: rest =>
    let fraction := rest.takeWhile (isDigitIn base)
    if whole = [] && fraction = [] then none
    else some (valueIn base (whole ++ fraction), fraction.length, rest.drop fraction.length)
  | rest => if whole = [] then none else some (valueIn base whole, 0, rest)

def readExponent (letter : Char) (t : Text) : Int × Text :=
  if t.head?.map Char.toLower ≠ some letter then (0, t)
  else
    let (sign, digits) : Int × Text := match t.tail with
      | '-' :: ds => (-1, ds)
      | '+' :: ds => (1, ds)
      | ds => (1, ds)
    let ds := digits.takeWhile Char.isDigit
    if ds = [] then (0, t) else (sign * min (valueIn 10 ds) 100000000, digits.drop ds.length)

/-- How far the exponent of a number may be from zero before the number is out of every range. -/
def far : Int := 6000

def readUnsigned? (p : Precision) (negative : Bool) (t : Text) : Option (Real × Text) :=
  let hexadecimal := match t with
    | '0' :: x :: rest => if x = 'x' || x = 'X' then readPointed? 16 rest else none
    | _ => none
  match (afterWord? "infinity" t).or (afterWord? "inf" t), afterWord? "nan" t, hexadecimal with
  | some rest, _, _ => some (infinite negative, rest)
  | none, some rest, _ => some (undefined negative, rest)
  | none, none, some (v, places, rest) =>
    let (e, rest) := readExponent 'p' rest
    let (n, d) := scale 2 (max (-40000) (min 40000 e) - 4 * places) v 1
    some (ofQuotient p negative n d, rest)
  | none, none, none => do
    let (v, places, rest) ← readPointed? 10 t
    let (e, rest) := readExponent 'e' rest
    let size := (Nat.toDigits 10 v).length + e - places
    if v = 0 || size < -far then return (finite negative 0 0, rest)
    else if far < size then return (infinite negative, rest)
    else
      let (n, d) := scale 10 (e - places) v 1
      return (ofQuotient p negative n d, rest)

def read? (p : Precision) (t : Text) : Option (Real × Text) :=
  match t.dropWhile isSpace with
  | '-' :: rest => readUnsigned? p true rest
  | '+' :: rest => readUnsigned? p false rest
  | rest => readUnsigned? p false rest

def isNegative : Real → Bool
  | finite negative .. | infinite negative | undefined negative => negative

def pointed (places : Nat) (digits : Text) : Text :=
  let digits := List.replicate (places + 1 - digits.length) '0' ++ digits
  let whole := digits.take (digits.length - places)
  whole ++ (if 0 < places then ['.'] else []) ++ digits.drop (digits.length - places)

def decimalScaled (m : Nat) (e : Int) (power : Int) : Nat :=
  let (n, d) := scale 2 e m 1
  let (n, d) := scale 10 power n d
  roundQuotient n d

def fixed (places : Nat) (m : Nat) (e : Int) : Text := pointed places (Nat.toDigits 10 (decimalScaled m e places))

/-- The digits of a number, one before the point, and its power of ten. -/
def scientificDigits (places : Nat) (m : Nat) (e : Int) : Text × Int :=
  if m = 0 then (List.replicate (places + 1) '0', 0)
  else
    let (n, d) := scale 2 e m 1
    let guess : Int := ((Nat.toDigits 10 n).length : Int) - (Nat.toDigits 10 d).length
    let isBelow := fun x : Int =>
      let (n, d) := scale 10 (-x) n d
      n < d
    let x := if isBelow guess then guess - 1 else guess
    let digits := Nat.toDigits 10 (decimalScaled m e (places - x))
    if digits.length = places + 2 then (digits.take (places + 1), x + 1) else (digits, x)

def scientific (places : Nat) (m : Nat) (e : Int) : Text :=
  let (digits, x) := scientificDigits places m e
  let power := Nat.toDigits 10 x.natAbs
  digits.take 1 ++ (if 0 < places then ['.'] else []) ++ digits.drop 1
    ++ 'e' :: (if x < 0 then '-' else '+') :: (if power.length < 2 then '0' :: power else power)

def dropZeros (t : Text) : Text :=
  let kept := (t.reverse.dropWhile (· == '0')).reverse
  if !t.contains '.' then t else if kept.getLast? = some '.' then kept.dropLast else kept

def general (digits : Nat) (m : Nat) (e : Int) : Text :=
  let digits := max digits 1
  let (_, x) := scientificDigits (digits - 1) m e
  if -4 ≤ x && x < digits then dropZeros (fixed ((digits : Int) - 1 - x).toNat m e)
  else
    let t := scientific (digits - 1) m e
    dropZeros (t.takeWhile (· ≠ 'e')) ++ t.dropWhile (· ≠ 'e')

/-- A number in hexadecimal digits with a power of two, as wide a part before the point as the precision leaves. -/
def hexadecimal (p : Precision) (m : Nat) (e : Int) : Text :=
  let leadBits := (p.bits - 1) % 4 + 1
  let width := (p.bits - leadBits) / 4
  let shift := if m = 0 then 0 else min (p.bits - 1 - m.log2) (e - p.lowest).toNat
  let e := if m = 0 then 0 else e - shift + 4 * width
  let m := m <<< shift
  let fraction := Nat.toDigits 16 (m % (1 <<< (4 * width)))
  let fraction := List.replicate (width - fraction.length) '0' ++ fraction
  let fraction := (fraction.reverse.dropWhile (· == '0')).reverse
  "0x".toList ++ Nat.toDigits 16 (m >>> (4 * width)) ++ (if fraction ≠ [] then '.' :: fraction else [])
    ++ 'p' :: (if e < 0 then '-' else '+') :: Nat.toDigits 10 e.natAbs

def write (p : Precision) (conversion : Char) (places : Option Nat) (r : Real) : Text :=
  match r with
  | infinite _ => "inf".toList
  | undefined _ => "nan".toList
  | finite _ m e =>
    match conversion with
    | 'f' => fixed (places.getD 6) m e
    | 'e' => scientific (places.getD 6) m e
    | 'g' => general (places.getD 6) m e
    | _ => hexadecimal p m e

end Real

end ScopedSheets
