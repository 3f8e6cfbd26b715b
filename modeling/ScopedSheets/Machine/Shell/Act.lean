import ScopedSheets.Machine.Number
import ScopedSheets.Machine.Shell.State

/-!
# Acts of a shell

The pieces that a shell's work is made of. An act changes what the shell keeps and works on the machine;
it may come to a halt, which ends the shell or at least the command at work.
-/

namespace ScopedSheets.Shell

open Number

inductive Halt where
  | mistake
  | exit
  | done
deriving DecidableEq

abbrev Act := ExceptT Halt (StateT State Work)

/-- A command that the shell does itself: given its words without its name, it leaves its status. -/
abbrev Builtin := List Text → Act Nat

namespace Act

def attempt {α : Type} (body : Act α) : Act (Except Halt α) := ExceptT.lift body.run

def conclude {α : Type} (outcome : Except Halt α) : Act α :=
  match outcome with
  | .ok a => pure a
  | .error halt => throw halt

def ensuring {α : Type} (cleanup : Act Unit) (body : Act α) : Act α := do
  let outcome ← attempt body
  cleanup
  conclude outcome

def setStatus (status : Nat) : Act Unit := modify ({ · with status })

def complain (message : Text) : Act Unit := do
  let s ← get
  let caller := if s.caller = [] then [] else s.caller ++ ": ".toList
  Work.say 2 (s.name ++ ": ".toList ++ Text.ofNat s.line ++ ": ".toList ++ caller ++ message ++ ['\n'])

/-- Writes to the output once the command of the shell is done. -/
def print (t : Text) : Act Unit := modify fun s => { s with output := t :: s.output }

def flush : Act Bool := do
  let output := (← get).output
  if output.isEmpty then return true
  modify ({ · with output := [] })
  match ← (Work.emit 1 (Octets.toBytes output.reverse.flatten) : Work _) with
  | .ok () => return true
  | .error _ => return false

def fail {α : Type} (message : Text) : Act α := do
  complain message
  setStatus 2
  discard flush
  throw .mistake

def calledBy {α : Type} (caller : Text) (body : Act α) : Act α := do
  let before := (← get).caller
  modify ({ · with caller })
  ensuring (modify ({ · with caller := before })) body

def checkName (name : Text) : Act Unit := do
  if !isName name then fail (name ++ ": bad variable name".toList)

def assign (name value : Text) (exports readOnly : Bool) : Act Unit := do
  let s ← get
  let old := (s.binding? name).getD {}
  if old.isReadOnly then fail (name ++ ": is read only".toList)
  modify (·.withVariable name (some
    { value := some value
      isExported := old.isExported || exports || s.has .allexport
      isReadOnly := readOnly }))

/-- Gives a variable with a name that has to be checked a value. An equals sign ends the name. -/
def setVariable (name value : Text) : Act Unit := do
  let name := name.takeWhile (· ≠ '=')
  checkName name
  assign name value false false

def unsetVariable (name : Text) : Act Unit := do
  checkName name
  let s ← get
  if ((s.binding? name).getD {}).isReadOnly then fail (name ++ ": is read only".toList)
  modify (·.withVariable name none)

def mark (name : Text) (exports readOnly : Bool) : Act Unit := do
  checkName name
  modify fun s =>
    let old := (s.binding? name).getD {}
    s.withVariable name (some { old with
      isExported := old.isExported || exports, isReadOnly := old.isReadOnly || readOnly })

def heed (signal : Signal) : Act Unit := do
  let s ← get
  if signal ≠ 0 && signal.isCatchable && !s.ignored.contains signal then
    let disposition := (s.traps.lookup signal).map fun action =>
      if action = [] && signal ≠ Signal.child then Disposition.ignore else .caught
    (Work.act fun pid m => ((), m.modifyTask pid fun t =>
      let others := t.dispositions.filter (·.1 ≠ signal)
      { t with dispositions := match disposition with
        | some d => (signal, d) :: others
        | none => others }) : Work Unit)

/-- Makes a variable one that comes back at the end of the function or command at work, and gives it a value if there
is one. -/
def makeLocal (name : Text) (value : Option Text) (exports : Bool) : Act Unit := do
  let old := (← get).binding? name
  match value with
  | some value => assign name value exports false
  | none => checkName name
  modify fun s => { s with frames := s.frames.modifyHead ((name, old) :: ·) }

def inFrame {α : Type} (body : Act α) : Act α := do
  modify fun s => { s with frames := [] :: s.frames }
  let unwind := fun s : State =>
    (s.frames.headD []).foldl (fun s (name, old) => s.withVariable name old) { s with frames := s.frames.tail }
  ensuring (modify unwind) body

/-- Splits the words of a command into its options, of which `known` are the letters, and the rest. -/
def splitOptions (known : Text) : List Text → Act (List Char × List Text)
  | ['-', '-'] :: rest => return ([], rest)
  | ('-' :: c :: letters) :: rest => do
    if let some c := (c :: letters).find? (!known.contains ·) then fail ("Illegal option -".toList ++ [c])
    let (more, rest) ← splitOptions known rest
    return (c :: letters ++ more, rest)
  | words => return ([], words)

def operands (words : List Text) : Act (List Text) := return (← splitOptions [] words).2

end Act

def quote (t : Text) : Text := pieces t.length t
where
  pieces : (length : Nat) → Text → Text
    | 0, _ => "''".toList
    | n + 1, t =>
      let plain := t.takeWhile (· ≠ '\'')
      let rest := t.drop plain.length
      let quotes := rest.takeWhile (· == '\'')
      let after := rest.drop quotes.length
      '\'' :: plain ++ '\'' :: (if quotes = [] then [] else '"' :: quotes ++ ['"'])
        ++ (if after = [] then [] else pieces n after)

end ScopedSheets.Shell
