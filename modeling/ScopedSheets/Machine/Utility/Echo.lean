import ScopedSheets.Machine.Format
import ScopedSheets.Machine.Utility.Command

/-!
# Writing arguments

The programs that write their arguments: as they are, with escapes, or by a format.
-/

namespace ScopedSheets.Utility

def isEchoOption (word : Text) : Bool :=
  match word with
  | '-' :: letters => letters ≠ [] && letters.all fun c => c = 'n' || c = 'e' || c = 'E'
  | _ => false

def echo (i : Invocation) : Work Nat := do
  let options := i.args.tail.takeWhile isEchoOption
  let words := i.args.tail.dropWhile isEchoOption
  let line := [' '].intercalate words
  let letters := options.flatten
  let escaped := (letters.reverse.find? fun c => c = 'e' || c = 'E') = some 'e'
  let ending := if letters.contains 'n' then [] else ['\n']
  if escaped then
    let u := Escape.unescape { octets := true } line.length [] line
    write i 1 (if u.stops then u.octets else u.octets ++ ending)
  else write i 1 (line ++ ending)
  return 0

def formatWording : Format.Wrong → Text
  | .noNumber arg => Quoting.typographic arg ++ ": expected a numeric value".toList
  | .leftOver arg => Quoting.typographic arg ++ ": value not completely converted".toList
  | .outOfRange arg => Quoting.typographic arg ++ ": Numerical result out of range".toList
  | .invalid written | .unfinished written => written ++ ": invalid conversion specification".toList
  | .badEscape .noDigits => "missing hexadecimal number in escape".toList
  | .badEscape (.noCharacter letter digits) =>
    "invalid universal character name \\".toList ++ letter :: digits

/-- Writes reports in their order, pieces of output that follow each other at once, and tells whether anything is
wrong. -/
def writeReports (i : Invocation) : (pending : List Text) → List Format.Report → Work Bool
  | pending, [] => do
    write i 1 pending.reverse.flatten
    return false
  | pending, .output t :: reports => writeReports i (t :: pending) reports
  | pending, .complaint wrong :: reports => do
    write i 1 pending.reverse.flatten
    complain i (formatWording wrong)
    discard <| writeReports i [] reports
    return true

def printf (i : Invocation) : Work Nat := do
  match i.args.tail with
  | [] => refuse i 1 "missing operand".toList
  | format :: args =>
    let o := Format.printf .program format args
    let isWrong ← writeReports i [] o.reports
    let endsEarly := o.stops && match o.reports.getLast? with
      | some (.complaint _) => false
      | _ => true
    if !o.stops && o.args ≠ [] then
      complain i ("warning: ignoring excess arguments, starting with ".toList
        ++ Quoting.typographic (o.args.headD []))
    return if isWrong && !endsEarly then 1 else 0

end ScopedSheets.Utility
