import ScopedSheets.Cli.Bundle
import ScopedSheets.Cli.Scope

/-!
# The command line

The program has two commands, each with a command line of its own. What stands before the name of the
command are options of the program.
-/

namespace ScopedSheets.Cli

def commandLine : CommandLine := ⟨"cssscope".toList, "[OPTIONS] COMMAND [ARGS]...".toList⟩

def help : Text := commandLine.usage ++ "

  cssscope - namespace SCOPE blocks in CSS files and bundle them.

Options:
  --version  Show the version and exit.
  --help     Show this message and exit.

Commands:
  bundle  Process every CSS file in INPUT_DIR and bundle them into...
  scope   Rewrite the SCOPE blocks of CSSFILE and print the result.
".toList

def version : Text := "cssscope, version 0.1.0\n".toList

inductive Setting where
  | version
  | help
deriving DecidableEq, Repr

def Setting.text : Setting → Text
  | version => Cli.version
  | help => Cli.help

def options : OptionTable Setting :=
  [⟨["--version".toList], .flag .version⟩, ⟨["--help".toList], .flag .help⟩]

/-- The arguments that follow the program's own options, or what the program says instead. Without
anything on the command line it gives help. -/
def readArgs (args : List Text) : Except UsageError (Text ⊕ List Text) :=
  if args = [] then .ok (.inl help)
  else (readOptions options false args).map fun
    | (setting :: _, _) => .inl setting.text
    | ([], rest) => .inr rest

def symbolRanges : List (Nat × Nat) :=
  [(0xA1, 0xA9), (0xAB, 0xB1), (0xB4, 0xB4), (0xB6, 0xB8), (0xBB, 0xBB), (0xBF, 0xBF),
   (0xD7, 0xD7), (0xF7, 0xF7), (0x2010, 0x206F), (0x20A0, 0x20CF), (0x2190, 0x245F),
   (0x2500, 0x2775), (0x2794, 0x2BFF), (0x3000, 0x3004), (0x3008, 0x3020), (0xFE10, 0xFE6F),
   (0xFF01, 0xFF0F), (0x1F000, 0x1F0FF), (0x1F300, 0x1FAFF)]

/-- Whether a name begins the way a name of a command can: with a letter or a digit. Beyond ASCII every
printable character counts as one outside the blocks of symbols. -/
def isCommandStart (c : Char) : Bool :=
  if c.toNat < 0x80 then c.isAlphanum
  else Text.isPrintable c &&
    !symbolRanges.any fun (low, high) => low ≤ c.toNat && c.toNat ≤ high

/-- What the program says about the name of a command that it does not have. For one that cannot be a name it
gives help. -/
def unknownCommand (name : Text) : Report :=
  if name.head?.all isCommandStart then (UsageError.noSuchCommand name).report commandLine
  else ({} : Report).say help

/-- Runs the program on a host. The token makes the name of a temporary file unique. -/
def run {σ : Type} [OperatingSystem σ] (token : Text) (host : Host σ) (args : List Text) : Report × Host σ :=
  match readArgs args with
  | .error e => (e.report commandLine, host)
  | .ok (.inl text) => (({} : Report).say text, host)
  | .ok (.inr []) => (UsageError.missingCommand.report commandLine, host)
  | .ok (.inr (name :: rest)) =>
    if name = "bundle".toList then BundleCommand.run token host rest
    else if name = "scope".toList then (ScopeCommand.run host rest, host)
    else (unknownCommand name, host)

end ScopedSheets.Cli
