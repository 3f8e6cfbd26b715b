import ScopedSheets.Host.Files

/-!
# Running programs on a host

A command line is run in the working directory, with an empty input and for a limited time. What a program
that ended has written is decoded strictly and its line ends are unified; of one whose time was up,
what it had written by then is decoded as far as that goes. A program that is missing is reported in
the result like a failure of its own; any other refusal of the system is a fault.
-/

namespace ScopedSheets.Host

def missing (path : Text) : ExecResult :=
  { stderr := SystemFault.noEntry.message path, exitCode := 127 }

def refused (fault : SystemFault) (path : Text) : Except Fault ExecResult :=
  if fault = .noEntry then .ok (missing path) else .error (.system fault path)

def resultOf : ProgramEnd → Except Fault ExecResult
  | .ended exitCode stdout stderr => do
    let stdout ← textOfBytes stdout
    let stderr ← textOfBytes stderr
    return { stdout, stderr, exitCode }
  | .timeUp stdout stderr =>
    .ok {
      stdout := Utf8.decodeLossy stdout
      stderr := Utf8.decodeLossy stderr
      exitCode := -1
      timedOut := true }

variable {σ : Type} [OperatingSystem σ]

def directory (h : Host σ) : Except SystemFault Place := do
  let place ← h.disk.locate h.home h.workingDir
  match h.disk.node? place with
  | none => throw .noEntry
  | some .directory => return place
  | some _ => throw .notDirectory

def maxTimeout : Int := 2147483647

def maxTime : Int := 9223372036854

/-- The largest number that is calculated with: half a step below a power of two the next one begins. -/
def maxCalculated : Int := (1 <<< 1024) - (1 <<< 970) - 1

def timeLimitProblem? (timeout : Int) : Option TimeLimitProblem :=
  if maxCalculated < timeout || timeout < -maxCalculated then some .noNumber
  else if maxTime < timeout then some .noTime
  else if maxTimeout < timeout then some .tooLong
  else none

/-- Runs a program with its arguments, for a number of milliseconds at most. A program whose time cannot be kept
is ended before it does anything. -/
def run (h : Host σ) (args : List Text) (timeout : Int) : Change (Host σ) ExecResult :=
  let problem := timeLimitProblem? timeout
  if problem = some .noNumber then (.error (.timeLimit .noNumber), h)
  else match args with
  | [] => (.error .shortCommandLine, h)
  | name :: _ =>
    if h.workingDir.contains '\x00' || args.any (·.contains '\x00') then (.error .nullByte, h)
    else match h.directory with
    | .error fault => (refused fault h.workingDir, h)
    | .ok directory =>
      match OperatingSystem.start h.system directory args with
      | .error fault => (refused fault name, h)
      | .ok finish =>
        match problem with
        | some problem => (.error (.timeLimit problem), h)
        | none =>
          let (ending, system) := finish timeout.toNat
          (resultOf ending, { h with system })

end ScopedSheets.Host
