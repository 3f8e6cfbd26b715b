import ScopedSheets.Machine.Shell.Act

/-!
# Commands about limits

The commands by which a shell shows and changes what is allowed with new files, and how long it has been at work,
which is no time at all.
-/

namespace ScopedSheets.Shell.Builtin

open Act Number

def permissions : List (Char × Nat) := [('r', 4), ('w', 2), ('x', 1)]

def holders : List (Char × Nat) := [('u', 64), ('g', 8), ('o', 1)]

def permissionLetters (bits : Nat) : Text :=
  (permissions.filter fun (_, bit) => bits &&& bit ≠ 0).map Prod.fst

def permissionBits (letters : Text) : Nat :=
  (permissions.filter fun (c, _) => letters.contains c).foldl (fun bits (_, bit) => bits + bit) 0

/-- What is allowed after a change such as `g=rx`. -/
def changed? (allowed : Nat) (change : Text) : Option Nat :=
  match change with
  | holder :: '=' :: letters =>
    (holders.lookup holder).map fun place =>
      allowed - allowed / place % 8 * place + permissionBits letters * place
  | _ => none

def maskText (mask : Nat) : Text :=
  let digits := Nat.toDigits 8 mask
  List.replicate (4 - digits.length) '0' ++ digits

def symbolicText (allowed : Nat) : Text :=
  [','].intercalate (holders.map fun (holder, place) => holder :: '=' :: permissionLetters (allowed / place % 8))

def umask : Builtin := fun words => do
  let (options, rest) ← splitOptions ['S'] words
  let mask ← (Work.look fun pid m => ((m.task? pid).map Task.mask).getD 0 : Work Nat)
  let set := fun mask : Nat =>
    (Work.act fun pid m => ((), m.modifyTask pid ({ · with mask })) : Work Unit)
  let allowed := 0o777 - mask
  match rest with
  | [] => print ((if options.isEmpty then maskText mask else symbolicText allowed) ++ ['\n'])
  | word :: _ =>
    if word.head?.any Char.isDigit then
      if word.all (isDigitIn 8) then set (valueIn 8 word % 512) else fail (illegalNumber word)
    else match (word.splitOn ',').foldlM changed? allowed with
      | some allowed => set (0o777 - allowed)
      | none => fail ("Illegal mode: ".toList ++ word)
  return 0

def times : Builtin := fun _ => do
  print "0m0.000000s 0m0.000000s\n0m0.000000s 0m0.000000s\n".toList
  return 0

end ScopedSheets.Shell.Builtin
