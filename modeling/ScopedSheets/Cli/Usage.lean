import ScopedSheets.Text.Quoted

/-!
# Usage errors

What can be wrong with a command line, and how the user is told.
-/

namespace ScopedSheets

inductive PathProblem where
  | missing
  | isDirectory
deriving DecidableEq, Repr

inductive UsageError where
  | noSuchOption (name : Text) (similar : List Text)
  | unwantedValue (name : Text)
  | missingValue (name : Text)
  | missingArgument (name : Text)
  | extraArguments (args : List Text)
  | badPath (argument path : Text) (problem : PathProblem)
  | missingCommand
  | noSuchCommand (name : Text)
  | noOutput
deriving DecidableEq, Repr

namespace UsageError

def message : UsageError → Text
  | noSuchOption name similar =>
    "No such option: ".toList ++ name ++
      match similar with
      | [] => []
      | [one] => " Did you mean ".toList ++ one ++ "?".toList
      | several =>
        " (Possible options: ".toList ++ ", ".toList.intercalate several ++ ")".toList
  | unwantedValue name => "Option ".toList ++ Text.quoted name ++ " does not take a value.".toList
  | missingValue name => "Option ".toList ++ Text.quoted name ++ " requires an argument.".toList
  | missingArgument name => "Missing argument '".toList ++ name ++ "'.".toList
  | extraArguments args =>
    (if args.length = 1 then "Got unexpected extra argument (" else
      "Got unexpected extra arguments (").toList ++ " ".toList.intercalate args ++ ")".toList
  | badPath argument path problem =>
    "Invalid value for '".toList ++ argument ++ "': File ".toList ++ Text.quoted path ++
      match problem with
      | .missing => " does not exist.".toList
      | .isDirectory => " is a directory.".toList
  | missingCommand => "Missing command.".toList
  | noSuchCommand name => "No such command ".toList ++ Text.quoted name ++ ".".toList
  | noOutput => "output file is required when not using -p".toList

/-- Whether the error is that an option has a value too many or too few. -/
def concernsValue : UsageError → Bool
  | unwantedValue _ | missingValue _ => true
  | _ => false

end UsageError

structure CommandLine where
  words : Text
  arguments : Text

namespace CommandLine

def usage (c : CommandLine) : Text :=
  "Usage: ".toList ++ c.words ++ " ".toList ++ c.arguments

def hint (c : CommandLine) : Text :=
  "Try '".toList ++ c.words ++ " --help' for help.".toList

end CommandLine

end ScopedSheets
