import ScopedSheets.Machine.Shell.Word

/-!
# The grammar of scripts

Reading commands token by token. A script is read one line of commands at a time, because running a line may
change how the next one is read. What a word means depends on where it stands: keywords and aliases count only
where a command may begin.
-/

namespace ScopedSheets.Shell

open Reader

/-- What may stand where a token is read: line feeds that are passed over, keywords, and aliases. -/
structure Expectation where
  lines : Bool := false
  keywords : Bool := false
  aliases : Bool := false

def Expectation.command : Expectation := ⟨true, true, true⟩

def keywords : List String :=
  ["!", "case", "do", "done", "elif", "else", "esac", "fi", "for", "if", "in", "then", "until", "while",
   "\x7b", "\x7d"]

def keyword? (t : Text) : Option String := keywords.find? (·.toList = t)

def specialNames : List String :=
  [".", ":", "break", "continue", "eval", "exec", "exit", "export", "local", "readonly", "return", "set",
   "shift", "times", "trap", "unset"]

namespace Token

def name : Token → Text
  | word .. => "word".toList
  | keyword k => '"' :: k.toList ++ ['"']
  | operator op => '"' :: op.toList ++ ['"']
  | redirection .. => "redirection".toList
  | newline => "newline".toList
  | stop => "end of file".toList

def endsList : Token → Bool
  | operator op => op = ")" || op = ";;"
  | keyword k => ["do", "done", "elif", "else", "esac", "fi", "then", "\x7d"].contains k
  | stop => true
  | _ => false

end Token

def unexpected {α : Type} (t : Token) (wanted : Option Token) : Reader α :=
  let hint := match wanted with
    | some w => " (expecting ".toList ++ w.name ++ [')']
    | none => []
  wrong (t.name ++ " unexpected".toList ++ hint)

def hold (t : Token) : Reader Unit := modify ({ · with held := some t })

/-- Closes the aliases whose text has been read, and tells whether the next word may be an alias too. -/
def closeAliases : Reader Bool := do
  let s ← get
  match s.openAliases with
  | [] => return false
  | _ =>
    let length := s.rest.length
    let (read, unread) := s.openAliases.partition fun a => length ≤ a.rest
    set { s with openAliases := unread }
    return read.any OpenAlias.continues

def skipBlanks : (length : Nat) → Reader Unit
  | 0 => pure ()
  | n + 1 => do
    match ← peek with
    | some ' ' | some '\t' =>
      discard takeRaw
      skipBlanks n
    | some '#' =>
      discard <| takeSpan (· == '\n')
      skipBlanks n
    | _ => pure ()

def takeDouble (single double : String) (second : Char) : Reader Token := do
  discard takeRaw
  return .operator (if ← takeIf second then double else single)

def readRedirection (descriptor : Option Nat) : Reader Token := do
  if (← takeRaw) = some '>' then
    if ← takeIf '>' then return .redirection descriptor ">>"
    else if ← takeIf '|' then return .redirection descriptor ">|"
    else if ← takeIf '&' then return .redirection descriptor ">&"
    else return .redirection descriptor ">"
  else if ← takeIf '<' then
    return .redirection descriptor (if ← takeIf '-' then "<<-" else "<<")
  else if ← takeIf '&' then return .redirection descriptor "<&"
  else return .redirection descriptor "<"

def isQuotedWord (w : Word) : Bool :=
  w.any fun
    | .text q _ | .parameter q .. | .output q _ | .number q _ => q

section

variable (script : (inParens : Bool) → Reader (Option Script))

def lex : Reader Token := do
  skipBlanks (← size)
  match ← peek with
  | none => return .stop
  | some '\n' =>
    discard takeRaw
    return .newline
  | some '&' => takeDouble "&" "&&" '&'
  | some '|' => takeDouble "|" "||" '|'
  | some ';' => takeDouble ";" ";;" ';'
  | some '(' =>
    discard takeRaw
    return .operator "("
  | some ')' =>
    discard takeRaw
    return .operator ")"
  | some '<' | some '>' => readRedirection none
  | some c =>
    let s ← get
    if c.isDigit then
      discard takeRaw
      match ← peek with
      | some '<' | some '>' => return ← readRedirection (some (c.toNat - 48))
      | _ => set s
    let w ← readWord script
    return .word w (isQuotedWord w)

def readDocuments : Reader Unit := do
  let awaited := (← get).awaited
  modify ({ · with awaited := [] })
  for a in awaited do
    let word ← readDocument script a
    modify fun s => { s with documents := (a.number, word) :: s.documents }

def takeToken : Reader (Token × Bool) := do
  let s ← get
  match s.held with
  | some t =>
    set { s with held := none }
    return (t, false)
  | none =>
    skipBlanks (← size)
    let continues ← closeAliases
    return (← lex script, continues)

def skipLines : (length : Nat) → Token × Bool → Reader (Token × Bool)
  | 0, t => return t
  | n + 1, (.newline, _) => do
    readDocuments script
    skipLines n (← takeToken script)
  | _, t => return t

/-- Reads a token; a word that is a keyword or an alias counts as one where that is expected. `expansions`
bounds how many aliases stand for aliases. -/
def readToken (e : Expectation) : (expansions : Nat) → Reader Token
  | 0 => return .stop
  | n + 1 => do
    let first ← takeToken script
    let (t, continues) ← if e.lines then skipLines script ((← size) + 2) first else pure first
    match t with
    | .word w false =>
      match plain? w with
      | some name =>
        match if e.keywords then keyword? name else none with
        | some k => return .keyword k
        | none =>
          let s ← get
          if (e.aliases || continues) && !s.openAliases.any (·.name = name) then
            match s.aliases.lookup name with
            | some value =>
              let opened : OpenAlias :=
                ⟨name, s.rest.length, value.getLast?.any fun c => c = ' ' || c = '\t'⟩
              set { s with rest := value ++ s.rest, openAliases := opened :: s.openAliases }
              readToken { e with aliases := e.aliases || continues } n
            | none => return t
          else return t
      | none => return t
    | _ => return t

def token (e : Expectation) : Reader Token := readToken script e 1000

def expectKeyword (e : Expectation) (wanted : String) : Reader Unit := do
  match ← token script e with
  | .keyword k => if k ≠ wanted then unexpected (.keyword k) (some (.keyword wanted))
  | t => unexpected t (some (.keyword wanted))

def expectOperator (wanted : String) : Reader Unit := do
  match ← token script {} with
  | .operator op => if op ≠ wanted then unexpected (.operator op) (some (.operator wanted))
  | t => unexpected t (some (.operator wanted))

def readTarget (descriptor : Option Nat) (op : String) : Reader Redirection := do
  if op = "<<" || op = "<<-" then
    skipBlanks (← size)
    match ← peek with
    | some c =>
      if "\n;&|<>()".toList.contains c then unexpected (← lex script) none
      let (ending, verbatim) ← readEnding ((← size) + 2)
      let s ← get
      let a : Awaited := ⟨s.nextDocument, ⟨ending, op = "<<-"⟩, verbatim⟩
      set { s with awaited := s.awaited ++ [a], nextDocument := s.nextDocument + 1 }
      return .document (descriptor.getD 0) a.number
    | none => unexpected .stop none
  else
    match ← token script {} with
    | .word w _ =>
      match op with
      | ">" => return .file (descriptor.getD 1) .output w
      | ">|" => return .file (descriptor.getD 1) .overwrite w
      | ">>" => return .file (descriptor.getD 1) .append w
      | "<" => return .file (descriptor.getD 0) .input w
      | _ =>
        let descriptor := descriptor.getD (if op = ">&" then 1 else 0)
        match plain? w with
        | some ['-'] => return .same descriptor none
        | some [c] =>
          if c.isDigit then return .same descriptor (some (c.toNat - 48))
          else wrong "Bad fd number".toList
        | _ => wrong "Bad fd number".toList
    | t => unexpected t none

def readRedirections (e : Expectation) : (length : Nat) → Reader (List Redirection)
  | 0 => return []
  | n + 1 => do
    match ← token script e with
    | .redirection descriptor op =>
      let first ← readTarget script descriptor op
      return first :: (← readRedirections {} n)
    | t =>
      hold t
      return []

structure CallParts where
  assignments : List Word := []
  words : List Word := []
  redirections : List Redirection := []

/-- What reading a call ends with: the call, or the name of a function whose body follows. -/
inductive CallEnd where
  | call (parts : CallParts)
  | define (name : Text)

def readCall (aliases : Bool) : (length : Nat) → CallParts → Reader CallEnd
  | 0, parts => return .call parts
  | n + 1, parts => do
    match ← token script ⟨false, false, aliases⟩ with
    | .word w _ =>
      if aliases && (assignment? w).isSome then
        readCall aliases n { parts with assignments := parts.assignments ++ [w] }
      else readCall false n { parts with words := parts.words ++ [w] }
    | .redirection descriptor op =>
      let r ← readTarget script descriptor op
      readCall aliases n { parts with redirections := parts.redirections ++ [r] }
    | .operator "(" =>
      match parts with
      | ⟨[], [w], []⟩ =>
        expectOperator script ")"
        match plain? w with
        | some name =>
          if isName name && !specialNames.any (·.toList = name) then return .define name
          else wrong "Bad function name".toList
        | none => wrong "Bad function name".toList
      | _ =>
        hold (.operator "(")
        return .call parts
    | t =>
      hold t
      return .call parts

def readWords : (length : Nat) → Reader (List Word × Token)
  | 0 => return ([], .stop)
  | n + 1 => do
    match ← token script {} with
    | .word w _ =>
      let (rest, last) ← readWords n
      return (w :: rest, last)
    | t => return ([], t)

def wordOf : Token → Word
  | .word w _ => w
  | .keyword k => [.text false k.toList]
  | _ => []

def readPatterns : (length : Nat) → Reader (List Word)
  | 0 => return []
  | n + 1 => do
    match ← token script {} with
    | .operator "|" =>
      let w := wordOf (← token script {})
      return w :: (← readPatterns n)
    | .operator ")" => return []
    | t => unexpected t (some (.operator ")"))

inductive ListKind where
  | line
  | body
  | mayBeEmpty
deriving DecidableEq

def joined (left : Option Script) (right : Script) : Script :=
  match left with
  | some left => .sequence left right
  | none => right

mutual

/-- Reads commands up to what ends their list, which is put back. `mayEnd` tells whether the list may end
here. -/
def readList : (size : Nat) → ListKind → (left : Option Script) → (mayEnd : Bool) →
    Reader (Option Script)
  | 0, _, left, _ => return left
  | n + 1, kind, left, mayEnd => do
    match ← token script ⟨kind ≠ .line, true, true⟩ with
    | .newline =>
      readDocuments script
      return left
    | .stop =>
      readDocuments script
      hold .stop
      return left
    | t =>
      hold t
      if mayEnd && kind ≠ .line && t.endsList then return left
      let right ← readConjunction n {}
      let t ← token script {}
      let right := match t with
        | .operator "&" => .background right
        | _ => right
      let left := joined left right
      match t with
      | .stop =>
        readDocuments script
        hold .stop
        return left
      | .newline =>
        hold .newline
        readList n kind left true
      | .operator ";" | .operator "&" => readList n kind left true
      | _ =>
        if kind = .line then unexpected t none
        hold t
        return left

def readBody : (size : Nat) → Reader Script
  | 0 => return default
  | n + 1 => do return (← readList n .body none false).getD default

def readConjunction : (size : Nat) → Expectation → Reader Script
  | 0, _ => return default
  | n + 1, e => do readConjoined n (← readPipeline n e)

def readConjoined : (size : Nat) → Script → Reader Script
  | 0, left => return left
  | n + 1, left => do
    match ← token script {} with
    | .operator "&&" => readConjoined n (.both left (← readPipeline n .command))
    | .operator "||" => readConjoined n (.either left (← readPipeline n .command))
    | t =>
      hold t
      return left

def readPipeline : (size : Nat) → Expectation → Reader Script
  | 0, _ => return default
  | n + 1, e => do
    match ← token script e with
    | .keyword "!" => return .invert (← readPiped n (← readCommand n ⟨false, true, true⟩))
    | t =>
      hold t
      readPiped n (← readCommand n {})

def readPiped : (size : Nat) → Script → Reader Script
  | 0, first => return first
  | n + 1, first => do
    match ← readPipes n with
    | [] => return first
    | rest => return .pipeline (first :: rest)

def readPipes : (size : Nat) → Reader (List Script)
  | 0 => return []
  | n + 1 => do
    match ← token script {} with
    | .operator "|" =>
      let next ← readCommand n .command
      return next :: (← readPipes n)
    | t =>
      hold t
      return []

def readCommand : (size : Nat) → Expectation → Reader Script
  | 0, _ => return default
  | n + 1, e => do
    let line := (← get).line
    match ← token script e with
    | .keyword "if" => do withRedirections n line (← readIf n)
    | .keyword "while" => readLoop n line false
    | .keyword "until" => readLoop n line true
    | .keyword "for" => readFor n line
    | .keyword "case" =>
      let w ← match ← token script {} with
        | .word w _ => pure w
        | t => unexpected t (some (.word [] false))
      expectKeyword script .command "in"
      withRedirections n line (.select line w (← readBranches n))
    | .keyword "\x7b" =>
      let body ← readBody n
      expectKeyword script {} "\x7d"
      withRedirections n line body
    | .operator "(" =>
      let body ← readBody n
      expectOperator script ")"
      return .subshell line body (← readRedirections script ⟨false, true, true⟩ n)
    | .word w q =>
      hold (.word w q)
      readSimple n
    | .redirection descriptor op =>
      hold (.redirection descriptor op)
      readSimple n
    | t => unexpected t none

def withRedirections : (size : Nat) → (line : Nat) → Script → Reader Script
  | 0, _, body => return body
  | n + 1, line, body => do
    match ← readRedirections script ⟨false, true, true⟩ n with
    | [] => return body
    | redirections => return .redirected line body redirections

def readSimple : (size : Nat) → Reader Script
  | 0 => return default
  | n + 1 => do
    let line := (← get).line
    match ← readCall script true n {} with
    | .call parts => return .call line parts.assignments parts.words parts.redirections
    | .define name => return .define name (← readCommand n .command)

def readLoop : (size : Nat) → (line : Nat) → (untilTrue : Bool) → Reader Script
  | 0, _, _ => return default
  | n + 1, line, untilTrue => do
    let condition ← readBody n
    expectKeyword script {} "do"
    let body ← readBody n
    expectKeyword script {} "done"
    withRedirections n line (.loop untilTrue condition body)

def readIf : (size : Nat) → Reader Script
  | 0 => return default
  | n + 1 => do
    let condition ← readBody n
    expectKeyword script {} "then"
    let yes ← readBody n
    match ← token script {} with
    | .keyword "elif" => return .choose condition yes (some (← readIf n))
    | .keyword "else" =>
      let no ← readBody n
      expectKeyword script {} "fi"
      return .choose condition yes (some no)
    | .keyword "fi" => return .choose condition yes none
    | t => unexpected t (some (.keyword "fi"))

def readFor : (size : Nat) → (line : Nat) → Reader Script
  | 0, _ => return default
  | n + 1, line => do
    let name ← match ← token script {} with
      | .word w false =>
        match plain? w with
        | some name => if isName name then pure name else wrong "Bad for loop variable".toList
        | none => wrong "Bad for loop variable".toList
      | _ => wrong "Bad for loop variable".toList
    let words ← match ← token script .command with
      | .keyword "in" =>
        match ← readWords script n with
        | (words, .newline) | (words, .operator ";") => pure words
        | (_, t) => unexpected t none
      | .operator ";" => pure [allParameters]
      | t =>
        hold t
        pure [allParameters]
    expectKeyword script .command "do"
    let body ← readBody n
    expectKeyword script {} "done"
    withRedirections n line (.forEach line name words body)

def readBranches : (size : Nat) → Reader (List (List Word × Option Script))
  | 0 => return []
  | n + 1 => do
    match ← token script ⟨true, true, false⟩ with
    | .keyword "esac" => return []
    | t =>
      let first ← match t with
        | .operator "(" => token script {}
        | t => pure t
      let patterns := wordOf first :: (← readPatterns script n)
      let body ← readList n .mayBeEmpty none true
      match ← token script ⟨true, true, false⟩ with
      | .keyword "esac" => return [(patterns, body)]
      | .operator ";;" => return (patterns, body) :: (← readBranches n)
      | t => unexpected t (some (.operator ";;"))

end

end

/-- Reads the script of an expansion. What is left of a text that ends it is passed over. `depth` bounds how
deep expansions stand in expansions. -/
def readInner : (depth : Nat) → (inParens : Bool) → Reader (Option Script)
  | 0, _ => return none
  | depth + 1, inParens => do
    let outer ← get
    set { outer with awaited := [] }
    let body ← readList (readInner depth) (8 * outer.rest.length + 8) .mayBeEmpty none true
    if inParens then expectOperator (readInner depth) ")"
    let left := (← get).awaited
    modify fun s => { s with
      awaited := outer.awaited
      held := none
      documents := left.map (fun a => (a.number, [.text true []])) ++ s.documents }
    return body

def readPrompt : Reader Word := do
  let size ← size
  readParts (readInner (size + 1)) (2 * size + 2) { surroundings := .document } 0

inductive Line where
  | stop
  | commands (script : Option Script)

def readLine : Reader Line := do
  modify ({ · with held := none, awaited := [] })
  let size ← size
  let script ← readList (readInner (size + 1)) (8 * size + 8) .line none false
  match script, (← get).held with
  | none, some .stop => return .stop
  | script, _ => return .commands script

end ScopedSheets.Shell
