import ScopedSheets.Environment.Fault

/-!
# The environment of a run

Files and programs as a run sees them. An environment is a state with a few operations: the queries
answer from the state, and the others give the next state together with their outcome, also when they
fail, so that nothing a failed operation has done is forgotten.
-/

namespace ScopedSheets

structure ExecResult where
  stdout : Text := []
  stderr : Text := []
  exitCode : Int := 0
  timedOut : Bool := false
deriving DecidableEq, Repr

def ExecResult.ok (r : ExecResult) : Bool := r.exitCode == 0 && !r.timedOut

/-- The outcome of an operation that changes the state, with the state after it. -/
abbrev Change (σ α : Type) := Except Fault α × σ

class Environment (σ : Type) where
  /-- The files under a directory in the order of their paths, with those of its subdirectories when
  `recursive` holds. -/
  list : σ → (root : Text) → (recursive : Bool) → Except Fault (List Text)
  read : σ → (path : Text) → Except Fault Text
  isDirectory : σ → (path : Text) → Except Fault Bool
  contains : σ → (path : Text) → Except Fault Bool
  write : σ → (path content : Text) → Change σ Unit
  /-- Removes a file; an absent one is no fault. -/
  remove : σ → (path : Text) → Change σ Unit
  /-- Runs a program with its arguments, for a number of milliseconds at most. -/
  run : σ → (args : List Text) → (timeout : Int) → Change σ ExecResult

def defaultTimeout : Int := 30000

end ScopedSheets
