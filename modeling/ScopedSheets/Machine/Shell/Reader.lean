import ScopedSheets.Machine.Shell.Syntax

/-!
# Reading scripts

What the reading of a script has to know: the text to come and its line, the aliases, the documents that
belong to redirections, and a token that has been put back. A document stands in the script after the line of
its redirection; it is read when that line ends and known by its number until then. The text may be only the
first part of the script; whether its end has been seen tells whether what has been read may be otherwise
with more of it.
-/

namespace ScopedSheets.Shell

/-- The line that ends a document, and whether tabs at the beginning of its lines are dropped. -/
structure Ending where
  line : Text
  dropsTabs : Bool

/-- A document that is still to come: its number, the line that ends it, and whether it is taken as it is. -/
structure Awaited where
  number : Nat
  ending : Ending
  verbatim : Bool

inductive Token where
  | word (w : Word) (quoted : Bool)
  | keyword (name : String)
  | operator (op : String)
  | redirection (descriptor : Option Nat) (op : String)
  | newline
  | stop

structure OpenAlias where
  name : Text
  rest : Nat
  continues : Bool

structure Source where
  rest : Text
  descriptor : Option Nat := none
  /-- Whether nothing more has come when it was asked for. -/
  isEnded : Bool := false
  /-- Whether the end of the text has been seen. -/
  isTouched : Bool := false
  line : Nat := 1
  aliases : List (Text × Text) := []
  openAliases : List OpenAlias := []
  awaited : List Awaited := []
  documents : List (Nat × Word) := []
  nextDocument : Nat := 0
  held : Option Token := none

def Source.extended (s : Source) (more : Text) : Source :=
  { s with
    rest := s.rest ++ more
    openAliases := s.openAliases.map fun a => { a with rest := a.rest + more.length } }

structure Mistake where
  message : Text
  line : Nat
  isTouched : Bool

def Mistake.wording (mistake : Mistake) : Text := "Syntax error: ".toList ++ mistake.message

abbrev Reader := StateT Source (Except Mistake)

namespace Reader

def wrong {α : Type} (message : Text) : Reader α := do
  let s ← get
  throw ⟨message, s.line, s.isTouched⟩

def touch : Reader Unit := modify ({ · with isTouched := true })

def dropJoints : (length : Nat) → Text → Text × Nat
  | length + 1, '\\' :: '\n' :: t =>
    let (t, n) := dropJoints length t
    (t, n + 1)
  | _, t => (t, 0)

def peek : Reader (Option Char) := do
  let s ← get
  match s.rest with
  | '\\' :: '\n' :: _ =>
    let (rest, n) := dropJoints s.rest.length s.rest
    set { s with rest, line := s.line + n, isTouched := s.isTouched || rest = [] || rest = ['\\'] }
    return rest.head?
  | [] | ['\\'] =>
    touch
    return s.rest.head?
  | t => return t.head?

def peekRaw : Reader (Option Char) := do
  let s ← get
  if s.rest = [] then touch
  return s.rest.head?

def takeRaw : Reader (Option Char) := do
  let s ← get
  match s.rest with
  | [] =>
    touch
    return none
  | c :: rest =>
    set { s with rest, line := if c = '\n' then s.line + 1 else s.line }
    return some c

def take : Reader (Option Char) := do
  discard peek
  takeRaw

def takeUncounted : Reader (Option Char) := do
  let c ← peek
  modify fun s => { s with rest := s.rest.tail }
  return c

def takeIf (c : Char) : Reader Bool := do
  if (← peek) = some c then
    discard takeRaw
    return true
  else return false

def takeWhile (p : Char → Bool) : (length : Nat) → Reader Text
  | 0 => return []
  | length + 1 => do
    match ← peek with
    | some c =>
      if p c then
        discard takeRaw
        return c :: (← takeWhile p length)
      else return []
    | none => return []

/-- Takes the characters before the next one that meets a condition, as they are. -/
def takeSpan (p : Char → Bool) : Reader Text := modifyGet fun s =>
  let span := s.rest.takeWhile (!p ·)
  (span, { s with rest := s.rest.drop span.length, line := s.line + span.count '\n' })

def size : Reader Nat := return (← get).rest.length

def within {α : Type} (t : Text) (reading : Reader α) : Reader α := do
  let outer ← get
  set { outer with rest := t, line := 1, openAliases := [], awaited := [] }
  let a ← tryCatch reading fun mistake =>
    throw { mistake with isTouched := outer.isTouched }
  let inner ← get
  set { outer with documents := inner.documents, nextDocument := inner.nextDocument, held := none }
  return a

end Reader

end ScopedSheets.Shell
