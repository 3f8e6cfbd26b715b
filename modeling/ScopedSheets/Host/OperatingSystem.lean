import ScopedSheets.Host.Disk

/-!
# Operating systems

What a host takes from the system it is on: a disk, and programs that run. What a program does is the system's
affair and may be anything. All that comes back is how the program ended, what it had written by then, and the
system as it is afterwards.
-/

namespace ScopedSheets

inductive ProgramEnd where
  /-- By itself, with this code, which is below zero when a signal has killed it. -/
  | ended (code : Int) (stdout stderr : Bytes)
  | timeUp (stdout stderr : Bytes)
deriving DecidableEq, Repr

/-- A system as a state, with the requests that a host makes. -/
class OperatingSystem (σ : Type) where
  disk : σ → Disk
  withDisk : σ → Disk → σ
  /-- Starts a program in a directory, or refuses to. One that is started runs for a number of milliseconds
  at most. -/
  start : σ → (directory : Place) → (args : List Text) → Except SystemFault ((limit : Nat) → ProgramEnd × σ)

/-- A disk is a system on which there are no programs. -/
instance : OperatingSystem Disk where
  disk d := d
  withDisk _ d := d
  start _ _ _ := .error .noEntry

end ScopedSheets
