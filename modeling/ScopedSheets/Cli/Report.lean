import ScopedSheets.Cli.Usage
import ScopedSheets.Host.Files
import ScopedSheets.Text.Styling

/-!
# What a command leaves behind

The exit code of a command, its output on both streams, and the host after it. A command may also break
off with a fault that it has no words for.
-/

namespace ScopedSheets

structure Report where
  exitCode : Nat := 0
  stdout : Text := []
  stderr : Text := []
  fault : Option Fault := none
deriving DecidableEq, Repr

namespace Report

/-- Adds to the standard output; terminal styling is lost. -/
def say (r : Report) (t : Text) : Report := { r with stdout := r.stdout ++ Text.stripStyling t }

def complain (r : Report) (t : Text) : Report :=
  { r with stderr := r.stderr ++ Text.stripStyling t }

def logLine (r : Report) (t : Text) : Report := { r with stderr := r.stderr ++ t ++ ['\n'] }

def exit (r : Report) (code : Nat) : Report := { r with exitCode := code }

def breakOff (r : Report) (fault : Fault) : Report := { r with exitCode := 1, fault := some fault }

end Report

/-- What a command says about a command line that it does not understand. The way it is called comes
first, but not where only the value of an option is wrong. -/
def UsageError.report (e : UsageError) (c : CommandLine) : Report :=
  let shown := if e.concernsValue then [] else c.usage ++ ['\n'] ++ c.hint ++ "\n\n".toList
  (({} : Report).complain shown).complain ("Error: ".toList ++ e.message ++ ['\n']) |>.exit 2

end ScopedSheets
