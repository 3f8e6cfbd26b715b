import ScopedSheets.Bundle
import ScopedSheets.Cli.Options
import ScopedSheets.Cli.Report
import ScopedSheets.Host

/-!
# The command that bundles a directory

The command runs a bundle on the host. When it is verbose it logs all that the run reports and names each
sheet as it is processed; otherwise only warnings and errors are shown. What it says goes to the error
output when the bundle itself is printed.
-/

namespace ScopedSheets.BundleCommand

def commandLine : CommandLine :=
  ⟨"cssscope bundle".toList, "[OPTIONS] [INPUT_DIR] [OUTPUT_FILE]".toList⟩

def help : Text := commandLine.usage ++ "

  Process every CSS file in INPUT_DIR and bundle them into OUTPUT_FILE.

  SCOPE blocks are rewritten in each file before the files are joined.

Options:
  -m, --minify                    Minify output with esbuild
  -v, --verbose                   Verbose output
  -r, --recursive / -R, --no-recursive
                                  Scan subdirectories (default: recursive)
  -p, --print                     Print output to stdout instead of a file
  --minifier TEXT                 Minifier executable
  --help                          Show this message and exit.
".toList

inductive Setting where
  | minify
  | verbose
  | recursive (yes : Bool)
  | print
  | minifier (program : Text)
  | help
deriving DecidableEq, Repr

def options : OptionTable Setting :=
  [⟨["-m".toList, "--minify".toList], .flag .minify⟩,
   ⟨["-v".toList, "--verbose".toList], .flag .verbose⟩,
   ⟨["--recursive".toList, "-r".toList], .flag (.recursive true)⟩,
   ⟨["--no-recursive".toList, "-R".toList], .flag (.recursive false)⟩,
   ⟨["-p".toList, "--print".toList], .flag .print⟩,
   ⟨["--minifier".toList], .value .minifier⟩,
   ⟨["--help".toList], .flag .help⟩]

structure Request where
  config : Config := {}
  verbose : Bool := false
deriving DecidableEq, Repr

/-- The request with one more setting; a later setting wins. -/
def Request.apply (r : Request) : Setting → Request
  | .minify => { r with config := { r.config with minify := true } }
  | .verbose => { r with verbose := true }
  | .recursive yes => { r with config := { r.config with recursive := yes } }
  | .print => { r with config := { r.config with toStdout := true } }
  | .minifier program => { r with config := { r.config with minifier := program } }
  | .help => r

def Request.place (r : Request) : List Text → Except UsageError Request
  | [] => .ok r
  | [inputDir] => .ok { r with config := { r.config with inputDir } }
  | [inputDir, outputFile] =>
    .ok { r with config := { r.config with inputDir, outputFile := some outputFile } }
  | _ :: _ :: extra => .error (.extraArguments extra)

/-- What a command line asks for, or none when it asks for help. -/
def readArgs (args : List Text) : Except UsageError (Option Request) := do
  let (settings, args) ← readOptions options true args
  if settings.contains .help then return none
  let request ← (settings.foldl Request.apply {}).place args
  if !request.config.valid then throw .noOutput
  return some request

def Request.tell (q : Request) (r : Report) (t : Text) : Report :=
  if q.config.toStdout then r.complain t else r.say t

def Request.showEvent (q : Request) (r : Report) : Event → Report
  | .log severity message =>
    if q.verbose then r.logLine (severity.name ++ " cssscope.bundler: ".toList ++ message)
    else match severity with
      | .warning | .error => r.logLine message
      | .debug | .info => r
  | .processed path => if q.verbose then q.tell r ("Processed: ".toList ++ path ++ ['\n']) else r

def Request.showOutcome (q : Request) (r : Report) : Except Failure BundleResult → Report
  | .error (.bundle e) => (r.complain ("Error: ".toList ++ e.message ++ ['\n'])).exit 1
  | .error (.environment fault) => r.breakOff fault
  | .ok result =>
    if result.empty then q.tell r "No CSS files found\n".toList
    else if q.config.toStdout then r.say result.css
    else
      let file := result.outputFile.getD []
      if q.verbose then
        r.say ("CSS bundled: ".toList ++ file ++ " (".toList ++ Text.ofNat result.files.length
          ++ " files)\n".toList)
      else r.say ("CSS: ".toList ++ file ++ ['\n'])

variable {σ : Type} [OperatingSystem σ]

def Request.run (q : Request) (token : Text) (host : Host σ) : Report × Host σ :=
  let (outcome, state) := ((bundle token q.config).run.run { env := host }).run
  (q.showOutcome (state.journal.foldl q.showEvent {}) outcome, state.env)

def run (token : Text) (host : Host σ) (args : List Text) : Report × Host σ :=
  match readArgs args with
  | .error e => (e.report commandLine, host)
  | .ok none => (({} : Report).say help, host)
  | .ok (some request) => request.run token host

end ScopedSheets.BundleCommand
