import ScopedSheets.Machine.Shell.Act

/-!
# Conditions

What the command that tests conditions makes of its words: a test of one operand or of two, or one of these
turned round by an exclamation mark.
-/

namespace ScopedSheets.Shell

open Act Number

namespace Condition

def fileTests : List String := ["-c", "-d", "-e", "-f", "-p", "-r", "-s", "-w", "-x"]

def isFit (op : String) (node : Node) : Bool :=
  match op, node with
  | "-f", .file .. | "-d", .directory | "-c", .device _ | "-p", .pipe => true
  | "-s", .file content _ => !content.isEmpty
  | "-x", .file _ isExecutable => isExecutable
  | "-x", .directory | "-s", .directory | "-e", _ | "-r", _ | "-w", _ => true
  | _, _ => false

def isLink (path : Text) : Act Bool :=
  (Work.look fun pid m =>
    match m.disk.find? (m.directory pid) (Octets.toText path) with
    | some (.descriptor _) => true
    | _ => false : Work Bool)

def unary? (op : String) (operand : Text) : Option (Act Bool) :=
  if op = "-n" then some (return !operand.isEmpty)
  else if op = "-z" then some (return operand.isEmpty)
  else if op = "-L" || op = "-h" then some (isLink operand)
  else if fileTests.contains op then some do
    let node ← (Work.look fun pid m => m.node? pid operand : Work _)
    return node.toOption.any (isFit op)
  else none

def comparisons : List (String × (Int → Int → Bool)) :=
  [("-eq", (· = ·)), ("-ne", (· ≠ ·)), ("-ge", (· ≥ ·)), ("-gt", (· > ·)), ("-le", (· ≤ ·)), ("-lt", (· < ·))]

def number (word : Text) : Act Int :=
  match decimal? word with
  | some n => return n
  | none => fail (illegalNumber word)

def binary? (left : Text) (op : String) (right : Text) : Option (Act Bool) :=
  match op with
  | "=" => some (return left = right)
  | "!=" => some (return left ≠ right)
  | "<" => some (return left ≠ right && Text.atMost left right)
  | ">" => some (return left ≠ right && Text.atMost right left)
  | op => (comparisons.lookup op).map fun holds => return holds (← number left) (← number right)

def test? (first second : Text) : List Text → Option (Act Bool)
  | [] => unary? (String.ofList first) second
  | [third] => binary? first (String.ofList second) third
  | _ => none

def holds : List Text → Act Bool
  | [] => return false
  | [word] => return !word.isEmpty
  | first :: second :: rest =>
    match test? first second rest with
    | some outcome => outcome
    | none =>
      if first = ['!'] then return !(← holds (second :: rest))
      else fail (first ++ ": unexpected operator".toList)

end Condition

end ScopedSheets.Shell
