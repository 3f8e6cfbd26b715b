import ScopedSheets.Bundle.Failure

/-!
# Bundling style sheets

A run reads the style sheets of a directory in the order of their paths, puts the blocks of each under
their scopes, joins the results, has an external program shorten them if that is wanted, and writes or
returns the bundle. Sheets of white space only are left out. A sheet at fault stops the run before
anything is written.

A run works on an environment and keeps a journal of what it does; both survive a failure.
-/

namespace ScopedSheets

inductive Severity where
  | debug
  | info
  | warning
  | error
deriving DecidableEq, Repr

def Severity.name : Severity → Text
  | debug => "DEBUG".toList
  | info => "INFO".toList
  | warning => "WARNING".toList
  | error => "ERROR".toList

inductive Event where
  | log (severity : Severity) (message : Text)
  | processed (path : Text)
deriving DecidableEq, Repr

def processedPaths (journal : List Event) : List Text :=
  journal.filterMap fun
    | .processed path => some path
    | .log .. => none

structure RunState (σ : Type) where
  env : σ
  journal : List Event := []

abbrev Run (σ : Type) := ExceptT Failure (StateM (RunState σ))

namespace Run

variable {σ α : Type}

def report (event : Event) : Run σ Unit :=
  modify fun s => { s with journal := s.journal ++ [event] }

def log (severity : Severity) (message : Text) : Run σ Unit := report (.log severity message)

def fail (error : BundleError) : Run σ α := throw (.bundle error)

def query (q : σ → Except Fault α) : Run σ α := do
  match q (← get).env with
  | .ok a => return a
  | .error fault => throw (.environment fault)

def change (c : σ → Change σ α) : Run σ α := do
  let (outcome, env) := c (← get).env
  modify fun s => { s with env }
  match outcome with
  | .ok a => return a
  | .error fault => throw (.environment fault)

variable [Environment σ]

def readText (path : Text) : Run σ Text := query fun env => Environment.read env path

def writeText (path content : Text) : Run σ Unit :=
  change fun env => Environment.write env path content

def removeFile (path : Text) : Run σ Unit := change fun env => Environment.remove env path

def exec (args : List Text) (timeout : Int) : Run σ ExecResult :=
  change fun env => Environment.run env args timeout

end Run

open Run

structure Source where
  path : Text
  text : Text
deriving DecidableEq, Repr

def isSheetPath (path : Text) : Bool := ".css".toList.isSuffixOf path

section

variable {σ : Type} [Environment σ]

/-- Reads the sheets with these paths, leaving out those of white space only. -/
def readSheets : List Text → Run σ (List Source)
  | [] => return []
  | path :: paths => do
    let text ← readText path
    if Text.isBlankText text then
      log .debug ("Skipping blank file ".toList ++ path)
      readSheets paths
    else
      return ⟨path, text⟩ :: (← readSheets paths)

/-- The sheets of the input directory, in the order of their paths, without those of white space
only. -/
def collect (config : Config) : Run σ (List Source) := do
  let paths ← query fun env => Environment.list env config.inputDir config.recursive
  readSheets (paths.filter isSheetPath)

/-- Each sheet with its blocks under their scopes; the first sheet at fault stops the run. -/
def scopeSources : List Source → Run σ (List Text)
  | [] => return []
  | source :: rest => do
    match scopeSheet source.text with
    | .error e =>
      let error := BundleError.sheet source.path e
      log .error error.message
      fail error
    | .ok text =>
      log .debug ("Processed ".toList ++ source.path)
      report (.processed source.path)
      return text :: (← scopeSources rest)

def joinPath (dir name : Text) : Text :=
  if dir = [] then name
  else if dir.getLast? = some '/' then dir ++ name
  else dir ++ '/' :: name

def temporaryPath (config : Config) (token : Text) : Text :=
  joinPath config.inputDir (".css-tmp-".toList ++ token ++ ".css".toList)

/-- The minifier's command line: it replaces the file by its shortened form. -/
def minifierArgs (config : Config) (path : Text) : List Text :=
  [config.minifier, path, "--minify".toList, "--allow-overwrite".toList,
    "--outfile=".toList ++ path, "--log-level=silent".toList]

/-- Shortens text with the minifier by way of a temporary file, which is gone afterwards whatever
happens. The token makes the file's name unique. -/
def minify (token : Text) (css : Text) (config : Config) : Run σ Text := do
  let path := temporaryPath config token
  writeText path css
  try
    let result ← exec (minifierArgs config path) config.minifyTimeout
    if result.timedOut then
      fail (.minifierTimedOut config.minifier config.minifyTimeout)
    else if result.exitCode ≠ 0 then
      fail (.minifierFailed result.stderr result.exitCode)
    else
      readText path
  finally
    removeFile path

structure BundleResult where
  css : Text
  files : List Text
  outputFile : Option Text := none
deriving DecidableEq, Repr

def BundleResult.empty (r : BundleResult) : Bool := r.files.isEmpty

def checkInput (config : Config) : Run σ Unit := do
  match config.check with
  | .error e => fail e
  | .ok () => pure ()
  if !(← query fun env => Environment.contains env config.inputDir) then
    fail (.missingInput config.inputDir)
  if !(← query fun env => Environment.isDirectory env config.inputDir) then
    fail (.inputNotDirectory config.inputDir)

def Config.target (config : Config) : Option Text :=
  if config.toStdout then none else config.outputFile

/-- A whole run. Nothing is written when there are no sheets. -/
def bundle (token : Text) (config : Config) : Run σ BundleResult := do
  checkInput config
  let sources ← collect config
  let parts ← scopeSources sources
  if sources = [] then
    log .info ("No CSS files found in ".toList ++ config.inputDir)
    return ⟨[], [], none⟩
  let joined := ['\n'].intercalate parts
  let css ← if config.minify then minify token joined config else pure joined
  if let some path := config.target then
    writeText path css
  log .info ("Bundled ".toList ++ Text.ofNat sources.length ++ " files (".toList
    ++ Text.ofNat css.length ++ " chars)".toList)
  return ⟨css, sources.map Source.path, config.target⟩

end

end ScopedSheets
