import ScopedSheets.Cli.Similar
import ScopedSheets.Cli.Usage

/-!
# Options on a command line

Reading the options out of a command line. An option has long names and short names of one letter, and is
either a setting by itself or takes a value. A word that begins with a hyphen and is longer than that is
read as a long name first, with a value after an equals sign if there is one; a word with a single hyphen
that is no long name is read as a row of short names. Two hyphens end the options.
-/

namespace ScopedSheets

inductive Taking (α : Type) where
  | flag (setting : α)
  | value (setting : Text → α)

structure OptionSpec (α : Type) where
  names : List Text
  taking : Taking α

variable {α : Type}

def isShortName (name : Text) : Bool := name.length = 2

abbrev OptionTable (α : Type) := List (OptionSpec α)

namespace OptionTable

def longNames (table : OptionTable α) : List Text :=
  table.flatMap fun option => option.names.filter (!isShortName ·)

def findLong? (table : OptionTable α) (name : Text) : Option (Taking α) :=
  (table.find? fun option => !isShortName name && option.names.contains name).map OptionSpec.taking

def findShort? (table : OptionTable α) (letter : Char) : Option (Taking α) :=
  (table.find? fun option => option.names.contains ['-', letter]).map OptionSpec.taking

end OptionTable

def isOptionWord (word : Text) : Bool := word.head? = some '-' && 1 < word.length

/-- The settings that a word brings, and whether it takes the next word for a value. -/
abbrev WordReading (α : Type) := Except UsageError (List α × Bool)

/-- Gives an option its value: the one attached to it, or else the next word. -/
def takeValue (name : Text) (setting : Text → α) (attached next : Option Text) : WordReading α :=
  match attached, next with
  | some v, _ => .ok ([setting v], false)
  | none, some v => .ok ([setting v], true)
  | none, none => .error (.missingValue name)

/-- Reads a row of short names. What follows the name of an option that takes a value is its value. -/
def readShorts (table : OptionTable α) (next : Option Text) : Text → WordReading α
  | [] => .ok ([], false)
  | c :: rest =>
    match table.findShort? c with
    | none => .error (.noSuchOption ['-', c] [])
    | some (.flag setting) =>
      (readShorts table next rest).map fun (settings, took) => (setting :: settings, took)
    | some (.value setting) =>
      takeValue ['-', c] setting (if rest = [] then none else some rest) next

def readWord (table : OptionTable α) (word : Text) (next : Option Text) : WordReading α :=
  let (name, attached) := match Text.cutAt? '=' word with
    | some (name, value) => (name, some value)
    | none => (word, none)
  match table.findLong? name with
  | some (.flag setting) =>
    if attached.isSome then .error (.unwantedValue name) else .ok ([setting], false)
  | some (.value setting) => takeValue name setting attached next
  | none =>
    if "--".toList.isPrefixOf word then
      .error (.noSuchOption name (Similar.suggestions name table.longNames))
    else readShorts table next word.tail

/-- The settings of a command line in their order, and its arguments. Unless options may stand among the
arguments, the first argument ends them. -/
def readOptions (table : OptionTable α) (interspersed : Bool) :
    List Text → Except UsageError (List α × List Text)
  | [] => .ok ([], [])
  | word :: rest =>
    if word = "--".toList then .ok ([], rest)
    else if isOptionWord word then
      match readWord table word rest.head? with
      | .error e => .error e
      | .ok (settings, took) =>
        (readOptions table interspersed (if took then rest.tail else rest)).map
          fun (more, args) => (settings ++ more, args)
    else if interspersed then
      (readOptions table interspersed rest).map fun (settings, args) => (settings, word :: args)
    else .ok ([], word :: rest)
termination_by words => words.length
decreasing_by
  · split
    · simp only [List.length_tail, List.length_cons]
      omega
    · simp
  · simp

end ScopedSheets
