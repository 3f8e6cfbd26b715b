import ScopedSheets.Machine.Format.Quoting
import ScopedSheets.Machine.Work

/-!
# The command lines of small programs

Words that begin with a hyphen are options wherever they stand, until two hyphens end them. A word of letters
holds several options, and a long name may be shortened as long as it is clear.
-/

namespace ScopedSheets.Utility

/-- An option that a program knows. The argument of a letter is what follows it, or else the next word; that of a
name stands behind an equals sign. -/
structure Known where
  letter : Option Char := none
  name : String := ""
  takesArgument : Bool := false

abbrev Given := String × Text

def Known.key (k : Known) : String :=
  match k.letter with
  | some c => String.ofList [c]
  | none => k.name

structure Words where
  options : List Given := []
  operands : List Text := []

def Words.has (w : Words) (key : String) : Bool := w.options.any (·.1 = key)

def Words.argument? (w : Words) (key : String) : Option Text :=
  (w.options.reverse.find? (·.1 = key)).map Prod.snd

def readLetters (known : List Known) : List Char → List Text → Except Text (List Given × List Text)
  | [], rest => .ok ([], rest)
  | c :: letters, rest =>
    match known.find? fun k => k.letter = some c with
    | none => .error ("invalid option -- '".toList ++ c :: ['\''])
    | some k =>
      if !k.takesArgument then
        (readLetters known letters rest).map fun (given, rest) => ((k.key, []) :: given, rest)
      else if letters ≠ [] then .ok ([(k.key, letters)], rest)
      else match rest with
        | [] => .error ("option requires an argument -- '".toList ++ c :: ['\''])
        | argument :: rest => .ok ([(k.key, argument)], rest)

def readLong (known : List Known) (word : Text) : Except Text Given :=
  let name := word.takeWhile (· ≠ '=')
  match known.find? fun k => k.name ≠ "" && name.isPrefixOf k.name.toList with
  | some k => .ok (k.key, word.drop (name.length + 1))
  | none => .error ("unrecognized option '--".toList ++ word ++ ['\''])

def readWords (known : List Known) : (count : Nat) → List Text → Except Text Words
  | 0, words => .ok { operands := words }
  | n + 1, words =>
    match words with
    | [] => .ok {}
    | ['-', '-'] :: rest => .ok { operands := rest }
    | ('-' :: '-' :: name) :: rest => do
      let given ← readLong known name
      let w ← readWords known n rest
      return { w with options := given :: w.options }
    | ('-' :: c :: letters) :: rest => do
      let (given, rest) ← readLetters known (c :: letters) rest
      let w ← readWords known n rest
      return { w with options := given ++ w.options }
    | word :: rest => do
      let w ← readWords known n rest
      return { w with operands := word :: w.operands }

def complain (i : Invocation) (message : Text) : Work Unit :=
  Work.say 2 (i.name ++ ": ".toList ++ message ++ ['\n'])

def pointToHelp (i : Invocation) : Work Unit :=
  Work.say 2 ("Try '".toList ++ i.name ++ " --help' for more information.\n".toList)

def refuse (i : Invocation) (status : Nat) (message : Text) : Work Nat := do
  complain i message
  pointToHelp i
  return status

def write (i : Invocation) (status : Nat) (t : Text) : Work Unit := do
  match ← Work.emit 1 (Octets.toBytes t) with
  | .ok () => return ()
  | .error fault =>
    complain i ("write error: ".toList ++ fault.description)
    Work.exit status

end ScopedSheets.Utility
