import ScopedSheets.Machine.Format
import ScopedSheets.Machine.Shell.Act

/-!
# Commands that write

The shell's own commands that write their words, as they are or by a format. In both escapes count.
-/

namespace ScopedSheets.Shell.Builtin

open Act

def echo : Builtin := fun words => do
  let (ending, words) : Text × List Text := match words with
    | ['-', 'n'] :: rest => ([], rest)
    | _ => (['\n'], words)
  let line := [' '].intercalate words
  let u := Escape.unescape {} line.length [] line
  print (if u.stops then u.octets else u.octets ++ ending)
  return 0

/-- The wording of what is wrong with a format or an argument, and the status after it. -/
def formatWording : Format.Wrong → Text × Nat
  | .noNumber arg => (arg ++ ": expected numeric value".toList, 1)
  | .leftOver arg => (arg ++ ": not completely converted".toList, 1)
  | .outOfRange arg => (arg ++ ": Numerical result out of range".toList, 1)
  | .unfinished _ => ("missing format character".toList, 2)
  | .invalid written => (written ++ ": invalid directive".toList, 2)
  | .badEscape _ => ([], 0)

def tellReports : (status : Nat) → List Format.Report → Act Nat
  | status, [] => return status
  | status, .output t :: reports => do
    print t
    tellReports status reports
  | status, .complaint wrong :: reports => do
    let (wording, after) := formatWording wrong
    if after = 2 then fail wording
    if wording ≠ [] then complain wording
    tellReports (max status after) reports

def printf : Builtin := fun words => do
  match ← operands words with
  | [] => fail "usage: printf format [arg ...]".toList
  | format :: args => tellReports 0 (Format.printf .shell format args).reports

end ScopedSheets.Shell.Builtin
