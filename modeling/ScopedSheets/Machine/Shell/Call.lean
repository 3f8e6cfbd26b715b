import ScopedSheets.Machine.Shell.Builtins
import ScopedSheets.Machine.Shell.Expansion

/-!
# Calls

The simple commands of a script: what the words of one call, the values that it assigns, and the trace that is
shown of it. The first word is expanded before the others, because it may tell how these are.
-/

namespace ScopedSheets.Shell

open Act

structure Called where
  /-- All words, and those from the name of the command on. -/
  all : List Text := []
  words : List Text := []
  rest : List Word := []
  own : Option OwnCommand := none
  skipsFunctions : Bool := false
  /-- Whether the first command of the shell is special, if there is one. -/
  isSpecial : Option Bool := none

def Called.isTemporary (c : Called) : Bool := !c.words.isEmpty && c.isSpecial ≠ some true

def Called.isExec (c : Called) : Bool :=
  match c.own with
  | some { duty := .exec, .. } => true
  | _ => false

section

variable (output : Option Script → Act Text)

def expandNext : List Word → Act (List Text × List Word)
  | [] => return ([], [])
  | w :: rest => do
    match ← expandFields output w with
    | [] => expandNext rest
    | fields => return (fields, rest)

def advance (words : List Text) (rest : List Word) : Act (List Text × List Text × List Word) := do
  match words.tail with
  | [] =>
    let (more, rest) ← expandNext output rest
    return (more, more, rest)
  | words => return (words, [], rest)

/-- Finds out what is called. A word may say that the next one names no function. The number bounds how often that
is said. -/
def readCalled : (count : Nat) → Called → Act Called
  | 0, c => return c
  | n + 1, c => do
    match c.words with
    | [] => return c
    | name :: _ =>
      let isFunction := !c.skipsFunctions && ((← get).functions.lookup name).isSome
      match if isFunction then none else ownCommand? name with
      | none => return { c with own := none }
      | some own =>
        let c := { c with own := some own, isSpecial := c.isSpecial.or (some own.isSpecial) }
        if name ≠ "command".toList then return c
        else
          let (words, more, rest) ← advance output c.words c.rest
          let c := { c with all := c.all ++ more, rest }
          match words with
          | [] | ('-' :: _ :: _) :: _ => return { c with words := c.words ++ more }
          | _ => readCalled n { c with words, skipsFunctions := true }

def expandRest (c : Called) : Act Called := do
  let assigns := match c.own with
    | some own => own.assigns
    | none => false
  let fields ← c.rest.mapM fun w => if assigns then expandAssigning output w else expandFields output w
  return { c with all := c.all ++ fields.flatten, words := c.words ++ fields.flatten, rest := [] }

def expandCall (words : List Word) : Act Called := do
  let (first, rest) ← expandNext output words
  expandRest output (← readCalled output 1000000000 { all := first, words := first, rest })

def assignAll (temporary exports : Bool) : List Word → Act (List Text)
  | [] => return []
  | w :: rest => do
    match assignment? w with
    | none => assignAll temporary exports rest
    | some (name, value) =>
      let value ← expandValue output value
      if temporary then makeLocal name (some value) true
      else assign name value exports false
      return (name ++ '=' :: value) :: (← assignAll temporary exports rest)

/-- A prompt is a text that is expanded like a document. One with a mistake stands for itself. -/
def expandPrompt (t : Text) : Act Text :=
  match readPrompt.run { rest := t } with
  | .ok (word, _) => expandDocument output word
  | .error _ => return t

/-- Shows a call before it is carried out, where messages go without the redirections of the call itself. -/
def trace (isRedirected : Bool) (words : List Text) : Act Unit := do
  let s ← get
  if s.has .xtrace && !s.isTracing then
    let kept := if isRedirected then ((s.redirected.headD []).lookup 2).join else none
    modify ({ · with isTracing := true })
    let lead ← expandPrompt output ((s.value? "PS4".toList).getD [])
    modify ({ · with isTracing := false })
    (Work.say (kept.getD 2) (lead ++ [' '].intercalate words ++ ['\n']) : Work Unit)

end

end ScopedSheets.Shell
