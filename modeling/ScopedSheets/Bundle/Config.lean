import ScopedSheets.Environment

/-!
# What is to be bundled
-/

namespace ScopedSheets

structure Config where
  inputDir : Text := ".".toList
  outputFile : Option Text := none
  minify : Bool := false
  recursive : Bool := true
  toStdout : Bool := false
  minifier : Text := "esbuild".toList
  minifyTimeout : Int := defaultTimeout
deriving DecidableEq, Repr

namespace Config

/-- Whether an output file is named; the empty name names none. -/
def hasOutput (c : Config) : Bool := c.outputFile.any (!·.isEmpty)

/-- A run needs a place for its bundle: the standard output or a named file. -/
def valid (c : Config) : Bool := c.toStdout || c.hasOutput

end Config

end ScopedSheets
