import ScopedSheets.Machine.Program

/-!
# Processes side by side

Who is at work when. Processes take turns, each for a number of actions, and every action takes a little time.
A new process and a new program need some time before they are at work. While nobody can do anything the
time passes that the next one has to wait.
-/

namespace ScopedSheets

namespace Scheduler

def turnLength : Nat := 50

/-- How long an action takes, in microseconds. -/
def actionTime : Nat := 2

def forkTime : Nat := 150

def executionTime : Nat := 600

/-- What a turn leaves: the machine, the process if it goes on, the processes that it has started, last first, and
whether anything has happened. -/
structure Turn where
  machine : Machine
  self : Option Running
  started : List Running := []
  moved : Bool := true

def tick (m : Machine) : Machine := { m with clock := m.clock + actionTime }

def meetDoom (m : Machine) (pid : Pid) : Machine :=
  match (m.task? pid).bind Task.doom with
  | some signal => m.finish pid (.killed signal)
  | none => m

def start (m : Machine) (pid : Pid) (path : Text) (args : List Text) (bindings : List (Text × Text)) :
    Except SystemFault (Machine × Process) := do
  if Program.isTooLong args bindings then throw .longArguments
  let (work, args) ← m.disk.execute (m.directory pid) Disk.maxScripts path args
  return (m.shed pid, work { args, bindings } .ended)

/-- Lets a process go on for as many actions as the turn has. `moved` tells whether it has done anything. -/
def turn (pid : Pid) : (length : Nat) → (moved : Bool) → Machine → List Running → Process → Turn
  | 0, moved, m, started, p => ⟨m, some ⟨pid, p, 0⟩, started, moved⟩
  | n + 1, moved, m, started, p =>
    if !m.isAlive pid then ⟨m, none, started, true⟩
    else match p with
      | .ended status => ⟨(tick m).finish pid (.exited status), none, started, true⟩
      | .act action =>
        match action pid m with
        | none => ⟨m, some ⟨pid, p, 0⟩, started, moved⟩
        | some (m, next) => turn pid n true (tick m) started next
      | .fork child next =>
        let (number, m) := (tick m).fork pid
        turn pid n true m (⟨number, child, m.clock + forkTime⟩ :: started) (next number)
      | .execute path args bindings refused =>
        match start m pid path args bindings with
        | .ok (m, next) => ⟨tick m, some ⟨pid, next, m.clock + executionTime⟩, started, true⟩
        | .error fault => turn pid n true (tick m) started (refused fault)

def round (m : Machine) (ps : List Running) : Machine × List Running × Bool :=
  let step := fun (state : Machine × List Running × List Running × Bool) (r : Running) =>
    let (m, kept, started, moved) := state
    let m := meetDoom m r.pid
    if !m.isAlive r.pid then (m, kept, started, true)
    else if m.clock < r.ready then (m, r :: kept, started, moved)
    else
      let t := turn r.pid turnLength false m [] r.process
      (t.machine, t.self.toList ++ kept, t.started ++ started, moved || t.moved)
  let (m, kept, started, moved) := ps.foldl step (m, [], [], false)
  (m, kept.reverse ++ started.reverse, moved)

def nextTime? (m : Machine) (ps : List Running) : Option Nat :=
  let wakes := m.tasks.filterMap fun (_, t) => if t.ending.isNone then t.wake else none
  ((wakes ++ ps.map Running.ready).filter (m.clock < ·)).min?

def isDone (m : Machine) (main : Pid) : Bool := !m.isAlive main && !m.isHeard

def rounds (isDone : Machine → Bool) (deadline : Nat) : (count : Nat) → Machine → List Running →
    Machine × List Running
  | 0, m, ps => (m, ps)
  | n + 1, m, ps =>
    if isDone m || deadline ≤ m.clock then (m, ps)
    else
      let (m, ps, moved) := round m ps
      if moved then rounds isDone deadline n m ps
      else match nextTime? m ps with
        | some time => rounds isDone deadline n { m with clock := min time deadline } ps
        | none => ({ m with clock := deadline }, ps)

inductive RunEnd where
  | ended (ending : ProcessEnd)
  /-- The time is up. `heard` tells whether somebody could still write then. -/
  | timeUp (heard : Bool)

structure Run where
  machine : Machine
  running : List Running
  ending : RunEnd

def run (m : Machine) (main : Running) (others : List Running) (duration : Nat) : Run :=
  let (machine, running) :=
    rounds (isDone · main.pid) (m.clock + duration) (duration + 1) m (others ++ [main])
  match if isDone machine main.pid then (machine.task? main.pid).bind Task.ending else none with
  | some ending => { machine, running, ending := .ended ending }
  | none =>
    { machine := if machine.isAlive main.pid then machine.finish main.pid (.killed Signal.kill) else machine
      running, ending := .timeUp machine.isHeard }

/-- How long processes go on after a run that nobody waits for, before anything else happens. -/
def afterTime : Nat := 5000

def goOn (m : Machine) (ps : List Running) : Machine × List Running :=
  if ps.isEmpty then (m, []) else rounds (fun _ => false) (m.clock + afterTime) (afterTime + 1) m ps

end Scheduler

end ScopedSheets
