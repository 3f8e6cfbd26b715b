import ScopedSheets.Cli.Options
import ScopedSheets.Cli.Report
import ScopedSheets.Sheet

/-!
# The command that scopes one file

The command reads a style sheet, puts its blocks under their scopes, and prints the result.
-/

namespace ScopedSheets.ScopeCommand

def commandLine : CommandLine := ⟨"cssscope scope".toList, "[OPTIONS] CSSFILE".toList⟩

def help : Text := commandLine.usage ++ "

  Rewrite the SCOPE blocks of CSSFILE and print the result.

Options:
  --help  Show this message and exit.
".toList

inductive Setting where
  | help
deriving DecidableEq, Repr

def options : OptionTable Setting := [⟨["--help".toList], .flag .help⟩]

inductive Refusal where
  | usage (e : UsageError)
  | fault (f : Fault)

variable {σ : Type} [OperatingSystem σ]

def checkPath (host : Host σ) (path : Text) : Except Refusal Unit :=
  if path.contains '\x00' then .error (.fault .nullByte)
  else match host.disk.find? host.home path with
    | none => .error (.usage (.badPath "CSSFILE".toList path .missing))
    | some .directory => .error (.usage (.badPath "CSSFILE".toList path .isDirectory))
    | some _ => .ok ()

/-- The file that a command line names, or none when it asks for help. -/
def readArgs (host : Host σ) (args : List Text) : Except Refusal (Option Text) := do
  let (settings, args) ← (readOptions options true args).mapError .usage
  if settings ≠ [] then return none
  match args with
  | [] => throw (.usage (.missingArgument "CSSFILE".toList))
  | path :: extra =>
    checkPath host path
    if extra ≠ [] then throw (.usage (.extraArguments extra))
    return some path

def scopeFile (host : Host σ) (path : Text) : Report :=
  match host.readPath (Path.ofText path) with
  | .error fault => ({} : Report).breakOff fault
  | .ok source =>
    match scopeSheet source with
    | .ok output => ({} : Report).say output
    | .error e =>
      ({} : Report).complain ("Parse error in ".toList ++ path ++ ": ".toList ++ e.message
        ++ " (line ".toList ++ Text.ofNat e.position.line ++ ", column ".toList
        ++ Text.ofNat e.position.column ++ ")\n".toList) |>.exit 1

def run (host : Host σ) (args : List Text) : Report :=
  match readArgs host args with
  | .error (.usage e) => e.report commandLine
  | .error (.fault f) => ({} : Report).breakOff f
  | .ok none => ({} : Report).say help
  | .ok (some path) => scopeFile host path

end ScopedSheets.ScopeCommand
