import ScopedSheets.Machine.Shell.Reader

/-!
# Reading words

A word is read up to the character that ends it where it stands. How the script of an expansion is read is
given from outside, because scripts are made of words.
-/

namespace ScopedSheets.Shell

open Reader

inductive Surroundings where
  | words
  | quotes
  | braces
  | quotedBraces
  | expression
  | document
deriving DecidableEq

structure Mode where
  surroundings : Surroundings
  ending : Option Ending := none

namespace Mode

def isQuoted (mode : Mode) : Bool :=
  match mode.surroundings with
  | .words | .braces => false
  | _ => true

def escapes (mode : Mode) (c : Char) : Bool :=
  let always := c = '\\' || c = '`' || c = '$'
  match mode.surroundings with
  | .words | .braces => true
  | .quotes | .expression => always || c = '"'
  | .quotedBraces => always || c = '"' || c = '}'
  | .document => always

def isOrdinary (mode : Mode) (c : Char) : Bool :=
  !(c = '\\' || c = '`' || c = '$' || c = '\n') &&
  match mode.surroundings with
  | .words => !" \t;&|<>()'\"".toList.contains c
  | .quotes => c ≠ '"'
  | .braces => c ≠ '\'' && c ≠ '"' && c ≠ '}'
  | .quotedBraces => c ≠ '"' && c ≠ '}'
  | .expression => c ≠ '(' && c ≠ ')'
  | .document => true

def operand (mode : Mode) (isPattern : Bool) : Mode :=
  { surroundings := if isPattern || !mode.isQuoted then .braces else .quotedBraces }

def missing? (mode : Mode) : Option String :=
  match mode.surroundings with
  | .words | .document => none
  | .expression => some "Missing '))'"
  | .braces => some "Missing '\x7d'"
  | .quotes | .quotedBraces => some "Unterminated quoted string"

end Mode

def takeAlong : Text → Reader Text
  | [] => return []
  | c :: t => do
    if (← peekRaw) = some c then
      discard takeRaw
      return c :: (← takeAlong t)
    else return []

/-- Whether the line that begins here ends a document, and is then passed over. Where a line agrees with the ending only
at its beginning, an octet beyond ASCII right after that is lost. -/
def meetEnding (ending : Ending) : Reader Bool := do
  if ending.dropsTabs then modify fun s => { s with rest := s.rest.dropWhile (· == '\t') }
  let taken ← takeAlong ending.line
  let next ← peekRaw
  let isWhole := taken = ending.line && next.all (· = '\n')
  modify fun s =>
    if isWhole then { s with rest := s.rest.tail, line := s.line + 1 }
    else
      let isLost := taken ≠ [] && next.any fun c => 128 ≤ c.toNat
      { s with
        rest := taken ++ if isLost then s.rest.tail else s.rest
        line := s.line - taken.count '\n' }
  return isWhole

def readVerbatim (ending : Ending) : (lines : Nat) → Reader Text
  | 0 => return []
  | lines + 1 => do
    if ← meetEnding ending then return []
    let row ← takeSpan (· == '\n')
    match ← takeRaw with
    | some _ => return row ++ '\n' :: (← readVerbatim ending lines)
    | none => return row

def consPart : Part → Word → Word
  | .text q a, .text r b :: rest =>
    if q = r then .text q (a ++ b) :: rest else .text q a :: .text r b :: rest
  | p, rest => p :: rest

/-- The text of a back-quoted script, whose first quote has been read. A backslash is dropped before what is
special there. -/
def readBackQuoted (quoted : Bool) : (length : Nat) → Reader Text
  | 0 => return []
  | length + 1 => do
    match ← take with
    | none => wrong "EOF in backquote substitution".toList
    | some '`' => return []
    | some '\\' =>
      let c := (← takeRaw).getD '\\'
      let isDropped := c = '\\' || c = '`' || c = '$' || quoted && c = '"'
      return (if isDropped then [c] else ['\\', c]) ++ (← readBackQuoted quoted length)
    | some c => return c :: (← readBackQuoted quoted length)

/-- Reads the operator of an expansion in braces: what is done with the value. A line feed is no operator, and what
stands for one does not end a line. -/
def readChange : Reader Change := do
  let mark? := fun (colon : Bool) (c : Option Char) => match c with
    | some '-' => some (Change.orElse colon)
    | some '+' => some (Change.instead colon)
    | some '?' => some (Change.demand colon)
    | some '=' => some (Change.assign colon)
    | _ => none
  match ← takeUncounted with
  | some ':' => return (mark? true (← takeUncounted)).getD .bad
  | some '%' => return .cut true (← takeIf '%')
  | some '#' => return .cut false (← takeIf '#')
  | some '}' => return .none
  | c => return (mark? false c).getD .bad

def readName (inBraces : Bool) : Reader (Option Text) := do
  match ← peek with
  | none => return none
  | some c =>
    if isNameStart c then return some (← takeWhile isNameChar (← size))
    else if c.isDigit && inBraces then return some (← takeWhile Char.isDigit (← size))
    else if isSpecial c then
      discard takeRaw
      return some [c]
    else return none

/-- Passes over a character that stands where a name has to begin. A brace that closes is left. -/
def skipMisplaced : Reader Unit := do
  if (← peek) ≠ some '}' then discard takeUncounted

def atEnding (mode : Mode) : Reader Bool := do
  match mode.ending with
  | none => return false
  | some ending =>
    discard peek
    meetEnding ending

section

-- `script` reads the script of an expansion, up to the parenthesis that ends it or to the end of the text.
variable (script : (inParens : Bool) → Reader (Option Script))

mutual

/-- Reads the parts of a word up to what ends it, which is left except for the end of a document. `depth`
counts the parentheses that are open in an expression. -/
def readParts : (length : Nat) → Mode → (depth : Nat) → Reader Word
  | 0, _, _ => return []
  | n + 1, mode, depth => do
    let goOn := fun (p : Part) (depth : Nat) => return consPart p (← readParts n mode depth)
    discard peek
    let span ← takeSpan (!mode.isOrdinary ·)
    if span ≠ [] then goOn (.text mode.isQuoted span) depth
    else match ← peek with
    | none =>
      match mode.missing? with
      | none => return []
      | some missing => wrong missing.toList
    | some '\\' =>
      discard takeRaw
      let c ← takeRaw
      goOn (.text true (if c.any mode.escapes then c.toList else '\\' :: c.toList)) depth
    | some '$' =>
      discard takeRaw
      goOn (← readDollar n mode) depth
    | some '`' =>
      discard takeRaw
      let t ← readBackQuoted mode.isQuoted ((← size) + 1)
      let body ← within t (script false)
      goOn (.output mode.isQuoted body) depth
    | some '\'' =>
      discard takeRaw
      let t ← takeSpan (· == '\'')
      match ← takeRaw with
      | none => wrong "Unterminated quoted string".toList
      | some _ => goOn (.text true t) depth
    | some '"' =>
      match mode.surroundings with
      | .words | .braces =>
        discard takeRaw
        let parts ← readParts n { surroundings := .quotes } 0
        discard takeRaw
        let rest ← readParts n mode depth
        match parts with
        | [.parameter true ['@'] .none []] => return parts ++ rest
        | _ => return consPart (.text true []) (parts.foldr consPart rest)
      | .quotes => return []
      | _ =>
        discard takeRaw
        goOn (.text true []) depth
    | some '\n' =>
      if mode.surroundings = .words then return []
      else
        discard takeRaw
        if ← atEnding mode then return [.text true ['\n']]
        else goOn (.text mode.isQuoted ['\n']) depth
    | some '(' =>
      if mode.surroundings = .expression then
        discard takeRaw
        goOn (.text true ['(']) (depth + 1)
      else return []
    | some ')' =>
      if mode.surroundings = .expression then
        discard takeRaw
        if 0 < depth then goOn (.text true [')']) (depth - 1)
        else if ← takeIf ')' then return []
        else goOn (.text true [')']) depth
      else return []
    | some _ => return []

def readDollar : (length : Nat) → Mode → Reader Part
  | 0, mode => return .text mode.isQuoted ['$']
  | n + 1, mode => do
    match ← peek with
    | some '(' =>
      discard takeRaw
      if ← takeIf '(' then
        return .number mode.isQuoted (← readParts n { surroundings := .expression } 0)
      else return .output mode.isQuoted (← script true)
    | some '{' =>
      discard takeRaw
      readBraces n mode
    | _ =>
      match ← readName false with
      | some name => return .parameter mode.isQuoted name .none []
      | none => return .text mode.isQuoted ['$']

def readBraces : (length : Nat) → Mode → Reader Part
  | 0, mode => return .parameter mode.isQuoted [] .bad []
  | n + 1, mode => do
    let withOperand := fun (name : Text) (change : Change) => do
      let isPattern := match change with
        | .cut .. => true
        | _ => false
      let operand ← readParts n (mode.operand isPattern) 0
      discard takeRaw
      return .parameter mode.isQuoted name change operand
    let isHash ← takeIf '#'
    if isHash && (← peek).any isNameChar then
      let name := (← readName true).getD []
      if ← takeIf '}' then return .parameter mode.isQuoted name .length []
      else withOperand name .bad
    else match ← if isHash then pure (some ['#']) else readName true with
    | none =>
      skipMisplaced
      withOperand [] .bad
    | some name =>
      match ← readChange with
      | .none => return .parameter mode.isQuoted name .none []
      | change => withOperand name change

end

def readWord : Reader Word := do readParts script (2 * (← size) + 2) { surroundings := .words } 0

def readDocument (a : Awaited) : Reader Word := do
  let length ← size
  if a.verbatim then return [.text true (← readVerbatim a.ending (length + 1))]
  else
    let mode : Mode := ⟨.document, some a.ending⟩
    if ← atEnding mode then return [.text true []]
    else return consPart (.text true []) (← readParts script (2 * length + 2) mode 0)

end

/-- Reads the word that ends a document: its text, and whether any of it is quoted. No expansions count
in it. -/
def readEnding : (length : Nat) → Reader (Text × Bool)
  | 0 => return ([], false)
  | n + 1 => do
    match ← peek with
    | none => return ([], false)
    | some '\\' =>
      discard takeRaw
      let c ← takeRaw
      return ((c.getD '\\') :: (← readEnding n).1, true)
    | some c =>
      if " \t\n;&|<>()".toList.contains c then return ([], false)
      discard takeRaw
      if c = '\'' || c = '"' then
        let t ← takeSpan (· == c)
        discard takeRaw
        return (t ++ (← readEnding n).1, true)
      else
        let (rest, quoted) ← readEnding n
        return (c :: rest, quoted)

end ScopedSheets.Shell
