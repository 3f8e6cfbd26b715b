import ScopedSheets.Machine.State

/-!
# Programs at work

A process is what it does next: an action on the machine, which may have to wait, and after it the process
that follows. Three things need more than the machine: a second process, another program in the place
of this one, and the end. Programs are written as straight work, which becomes a process once it is
known what follows it.
-/

namespace ScopedSheets

inductive Process where
  | ended (status : Nat)
  /-- An action on the machine, given the number of the process; none while it has to wait. -/
  | act (action : Pid → Machine → Option (Machine × Process))
  | fork (child : Process) (next : Pid → Process)
  /-- Another program in the place of this one, by the path of its file. What follows is for when the system
  refuses it. -/
  | execute (path : Text) (args : List Text) (bindings : List (Text × Text))
      (refused : SystemFault → Process)

instance : Inhabited Process := ⟨.ended 0⟩

structure Running where
  pid : Pid
  process : Process
  ready : Nat := 0

/-- A piece of a program's work: the process that it is, given what follows it. -/
def Work (α : Type) : Type := (α → Process) → Process

instance : Monad Work where
  pure a := fun next => next a
  bind work f := fun next => work fun a => f a next

namespace Work

def await {α : Type} (action : Pid → Machine → Option (α × Machine)) : Work α := fun next =>
  .act fun pid m => (action pid m).map fun (a, m) => (m, next a)

def act {α : Type} (action : Pid → Machine → α × Machine) : Work α :=
  await fun pid m => some (action pid m)

def attempt {α : Type} (action : Pid → Machine → Except SystemFault (α × Machine)) :
    Work (Except SystemFault α) :=
  act fun pid m =>
    match action pid m with
    | .ok (a, m) => (.ok a, m)
    | .error fault => (.error fault, m)

def look {α : Type} (f : Pid → Machine → α) : Work α := act fun pid m => (f pid m, m)

def step : Work Unit := look fun _ _ => ()

def exit {α : Type} (status : Nat) : Work α := fun _ => .ended status

def hang {α : Type} : Work α := fun _ => .act fun _ _ => none

def fork (child : Work Nat) : Work Pid := fun next => .fork (child .ended) next

def execute (path : Text) (args : List Text) (bindings : List (Text × Text)) : Work SystemFault :=
  fun next => .execute path args bindings next

def read (descriptor : Nat) (amount : Machine.Amount) : Work (Except SystemFault Bytes) :=
  await fun pid m => m.read pid descriptor amount

/-- Writes bytes to a descriptor. A pipe that nobody reads sends a signal, which ends the process if it does
nothing about it. -/
def emit (descriptor : Nat) (bytes : Bytes) : Work (Except SystemFault Unit) :=
  if bytes.isEmpty then pure (.ok ())
  else await fun pid m =>
    match m.write pid descriptor bytes with
    | some (.error .brokenPipe, m) => some (.error .brokenPipe, m.signal pid pid Signal.pipe)
    | outcome => outcome

def say (descriptor : Nat) (t : Text) : Work Unit := do
  discard <| emit descriptor (Octets.toBytes t)

def readAll (descriptor : Nat) : (pieces : Nat) → Work (Bytes × Option SystemFault)
  | 0 => pure ([], none)
  | pieces + 1 => do
    match ← read descriptor (.upTo Machine.pipeSize) with
    | .error fault => return ([], some fault)
    | .ok [] => return ([], none)
    | .ok bytes =>
      let (more, fault) ← readAll descriptor pieces
      return (bytes ++ more, fault)

def sleep (duration : Nat) : Work Unit := do
  let wakeTime ← act fun pid m =>
    let wake := m.clock + duration
    (wake, m.modifyTask pid ({ · with wake := some wake }))
  await fun pid m =>
    if wakeTime ≤ m.clock then some ((), m.modifyTask pid ({ · with wake := none })) else none

end Work

structure Invocation where
  args : List Text
  bindings : List (Text × Text) := []

def Invocation.name (i : Invocation) : Text := i.args.headD []

end ScopedSheets
