import ScopedSheets.Bundle.Config
import ScopedSheets.Sheet
import ScopedSheets.Text.Blank

/-!
# Why a bundle run fails

A run fails for a cause of its own or because its environment refuses. The wording of each cause is one
function.
-/

namespace ScopedSheets

inductive BundleError where
  | noOutput
  | missingInput (inputDir : Text)
  | inputNotDirectory (inputDir : Text)
  | sheet (path : Text) (error : SheetError)
  | minifierTimedOut (minifier : Text) (timeout : Int)
  | minifierFailed (stderr : Text) (exitCode : Int)
deriving DecidableEq, Repr

namespace BundleError

/-- The wording of a cause. A minifier speaks for itself unless what it wrote is blank. -/
def message : BundleError → Text
  | noOutput => "output file is required when not printing to stdout".toList
  | missingInput dir => "directory does not exist: ".toList ++ dir
  | inputNotDirectory dir => "path is not a directory: ".toList ++ dir
  | sheet path error => "Error processing ".toList ++ path ++ ": ".toList ++ error.message
  | minifierTimedOut minifier timeout =>
    "Error minifying CSS: ".toList ++ minifier ++ " timed out after ".toList
      ++ Text.ofInt timeout ++ "ms".toList
  | minifierFailed stderr exitCode =>
    let words := Text.trim Text.isBlank stderr
    "Error minifying CSS: ".toList
      ++ if words = [] then "exit code ".toList ++ Text.ofInt exitCode else words

def path? : BundleError → Option Text
  | sheet path _ => some path
  | _ => none

def sheetError? : BundleError → Option SheetError
  | sheet _ error => some error
  | _ => none

end BundleError

inductive Failure where
  | bundle (error : BundleError)
  | environment (fault : Fault)
deriving DecidableEq, Repr

def Config.check (c : Config) : Except BundleError Unit :=
  if c.valid then .ok () else .error .noOutput

end ScopedSheets
