import ScopedSheets.Machine.Work
import ScopedSheets.Machine.Shell.Options
import ScopedSheets.Machine.Shell.Syntax

/-!
# What a shell keeps

What a shell keeps for itself, beside what all processes share: its parameters, its variables and functions,
its options, what it does about signals, the processes that it has started, and how its last command
ended.
-/

namespace ScopedSheets.Shell

structure Variable where
  value : Option Text := none
  isExported : Bool := false
  isReadOnly : Bool := false

inductive Passing where
  | nothing
  /-- The rest of so many loops. -/
  | loops (count : Nat)
  /-- The same, but the last of them goes on with its next round. -/
  | rounds (count : Nat)
  /-- The rest of a function or of a script. `given` tells whether a status has been given. -/
  | script (given : Bool)
deriving DecidableEq

def Passing.atEnd : Passing → Passing
  | script _ => nothing
  | passing => passing

structure Job where
  number : Nat
  processes : List (Pid × Option ProcessEnd)

def Job.isDone (j : Job) : Bool := j.processes.all (·.2.isSome)

def statusOf : ProcessEnd → Nat
  | .exited status => status
  | .killed signal => 128 + signal

def Job.status (j : Job) : Nat := ((j.processes.getLast?.bind Prod.snd).map statusOf).getD 0

structure State where
  name : Text
  params : List Text := []
  bindings : List (Text × Variable) := []
  /-- The variables that come back at the end of the functions and commands at work, latest first. -/
  frames : List (List (Text × Option Variable)) := []
  functions : List (Text × Script) := []
  aliases : List (Text × Text) := []
  documents : List (Nat × Word) := []
  nextDocument : Nat := 0
  settings : List Setting := []
  path : Text := []
  status : Nat := 0
  /-- How the last script ended whose output became part of a word. -/
  outputStatus : Nat := 0
  /-- The status that an exit without a status has, while a signal is dealt with. -/
  exitStatus : Option Nat := none
  line : Nat := 0
  /-- The line up to which the script at work has been read. -/
  sourceLine : Nat := 0
  /-- The line up to which the script of the shell has been read. -/
  mainLine : Nat := 1
  scripts : List Nat := []
  caller : Text := []
  loops : Nat := 0
  passing : Passing := .nothing
  /-- What is done about signals. Nothing is done about those with an empty action. -/
  traps : List (Signal × Text) := []
  ignored : List Signal := []
  jobs : List Job := []
  lastBackground : Option Pid := none
  pid : Pid := 0
  /-- Where descriptors have led before the redirections at work, latest first. -/
  redirected : List (List (Nat × Option Nat)) := []
  isTracing : Bool := false
  output : List Text := []

namespace State

def has (s : State) (setting : Setting) : Bool := s.settings.contains setting

def binding? (s : State) (name : Text) : Option Variable := s.bindings.lookup name

def value? (s : State) (name : Text) : Option Text := (s.binding? name).bind Variable.value

def withVariable (s : State) (name : Text) (v : Option Variable) : State :=
  let others := s.bindings.filter (·.1 ≠ name)
  { s with bindings := match v with
    | some v => (name, v) :: others
    | none => others }

def handedDown (s : State) : List (Text × Text) :=
  s.bindings.filterMap fun (name, v) => if v.isExported then v.value.map fun t => (name, t) else none

def searchPath (s : State) : Text := (s.value? "PATH".toList).getD []

def separators (s : State) : Text := (s.value? "IFS".toList).getD " \t\n".toList

def hasTraps (s : State) : Bool := s.traps.any (·.2 ≠ [])

end State

end ScopedSheets.Shell
