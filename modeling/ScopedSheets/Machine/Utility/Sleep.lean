import ScopedSheets.Machine.Format.Quoting
import ScopedSheets.Machine.Format.Real
import ScopedSheets.Machine.Utility.Command

/-!
# Waiting
-/

namespace ScopedSheets.Utility

def unit? : Text → Option Nat
  | [] | ['s'] => some 1
  | ['m'] => some 60
  | ['h'] => some 3600
  | ['d'] => some 86400
  | _ => none

/-- The microseconds that a word says: a number of a unit, which is the second when there is none. -/
def interval? (word : Text) : Option Nat := do
  let (r, rest) ← Real.read? .extended word
  let unit ← unit? rest
  match r with
  | .finite negative m e =>
    guard !(negative && m ≠ 0)
    let (n, d) := Real.scale 2 e m 1
    return (n * unit * 1000000 + d - 1) / d
  | _ => none

def sleep (i : Invocation) : Work Nat := do
  match readWords [] i.args.length i.args.tail with
  | .error refusal => refuse i 1 refusal
  | .ok { operands, .. } =>
    if i.args.length ≤ 1 then return ← refuse i 1 "missing operand".toList
    let wrong := operands.filter fun word => (interval? word).isNone
    for word in wrong do
      complain i ("invalid time interval ".toList ++ Quoting.typographic word)
    if !wrong.isEmpty then
      pointToHelp i
      return 1
    for duration in operands.filterMap interval? do Work.sleep duration
    return 0

end ScopedSheets.Utility
