import ScopedSheets.Text

/-!
# Scripts

What a script says: words, which are rows of parts, and the commands that are made of them. Each part of a
word knows whether it is quoted, because only what is not quoted is split and matched against file names.
-/

namespace ScopedSheets.Shell

/-- What is done with the value of a parameter. With a colon an empty value counts as none. -/
inductive Change where
  | none
  | length
  /-- Another text instead of a missing value. -/
  | orElse (colon : Bool)
  /-- The same, and the parameter gets it for its value. -/
  | assign (colon : Bool)
  /-- The end of the shell when there is no value. -/
  | demand (colon : Bool)
  /-- Another text instead of a value that is there. -/
  | instead (colon : Bool)
  /-- The value without its beginning or its end that fits a pattern. -/
  | cut (atEnd longest : Bool)
  | bad
deriving DecidableEq

inductive FileUse where
  | input
  | output
  | overwrite
  | append
deriving DecidableEq

mutual

inductive Part where
  | text (quoted : Bool) (t : Text)
  | parameter (quoted : Bool) (name : Text) (change : Change) (operand : List Part)
  | output (quoted : Bool) (script : Option Script)
  | number (quoted : Bool) (expression : List Part)

inductive Redirection where
  | file (descriptor : Nat) (use : FileUse) (path : List Part)
  | same (descriptor : Nat) (other : Option Nat)
  | document (descriptor : Nat) (number : Nat)

/-- The commands of a script. The lines are those that messages name. -/
inductive Script where
  | call (line : Nat) (assignments words : List (List Part)) (redirections : List Redirection)
  | pipeline (commands : List Script)
  | redirected (line : Nat) (body : Script) (redirections : List Redirection)
  | subshell (line : Nat) (body : Script) (redirections : List Redirection)
  | background (body : Script)
  | sequence (first second : Script)
  | both (left right : Script)
  | either (left right : Script)
  | invert (body : Script)
  | choose (condition yes : Script) (no : Option Script)
  | loop (untilTrue : Bool) (condition body : Script)
  | forEach (line : Nat) (name : Text) (words : List (List Part)) (body : Script)
  | select (line : Nat) (word : List Part) (branches : List (List (List Part) × Option Script))
  | define (name : Text) (body : Script)

end

instance : Inhabited Part := ⟨.text false []⟩

instance : Inhabited Script := ⟨.pipeline []⟩

abbrev Word := List Part

def allParameters : Word := [.parameter true ['@'] .none []]

def isNameStart (c : Char) : Bool := c.isAlpha || c = '_'

def isNameChar (c : Char) : Bool := c.isAlphanum || c = '_'

def isName : Text → Bool
  | [] => false
  | c :: t => isNameStart c && t.all isNameChar

def isSpecial (c : Char) : Bool := "@*#?$!-".toList.contains c || c.isDigit

def plain? : Word → Option Text
  | [] => some []
  | [.text false t] => some t
  | _ => none

def assignment? : Word → Option (Text × Word)
  | .text false t :: rest =>
    match Text.cutAt? '=' t with
    | some (name, value) =>
      if isName name then some (name, if value = [] then rest else .text false value :: rest)
      else none
    | none => none
  | _ => none

end ScopedSheets.Shell
