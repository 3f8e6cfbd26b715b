import ScopedSheets.Machine.Shell.Act

/-!
# Commands about variables and options

Giving and taking variables, marking them, and setting the options and the parameters of a shell.
-/

namespace ScopedSheets.Shell.Builtin

open Act Number

def markAll (exports readOnly : Bool) : Builtin := fun words => do
  for word in ← operands words do
    match Text.cutAt? '=' word with
    | some (name, value) =>
      checkName name
      assign name value exports readOnly
    | none => mark word exports readOnly
  return 0

def makeLocals : Builtin := fun words => do
  if (← get).frames.isEmpty then fail "not in a function".toList
  for word in words do
    match Text.cutAt? '=' word with
    | some (name, value) =>
      checkName name
      makeLocal name (some value) false
    | none => makeLocal word none false
  return 0

def countOf (words : List Text) : Act (Option Nat) :=
  match words with
  | [] => return none
  | word :: _ =>
    match count? word with
    | some n => return some n
    | none => fail (illegalNumber word)

def unset : Builtin := fun words => do
  let (options, names) ← splitOptions "vf".toList words
  for name in names do
    if options.getLast? = some 'f' then
      modify fun s => { s with functions := s.functions.filter (·.1 ≠ name) }
    else unsetVariable (name.takeWhile (· ≠ '='))
  return 0

def turn (on : Bool) (option : Text) : Option Setting → Act Unit
  | some setting => modify fun s => { s with settings := Setting.set s.settings setting on }
  | none => fail ("Illegal option -".toList ++ option)

/-- Turns options on or off by their letters. Each letter `o` takes the next of the words, which are left. -/
def turnLetters (on : Bool) (words : List Text) : List Char → Act (List Text)
  | [] => return words
  | 'o' :: letters => do
    let name := words.headD []
    turn on ("o ".toList ++ name) (Setting.ofName? name)
    turnLetters on words.tail letters
  | letter :: letters => do
    turn on [letter] (Setting.ofLetter? letter)
    turnLetters on words letters

/-- Turns options on and off. The words after them, if there are any, are the new parameters. -/
def readSettings : (count : Nat) → List Text → Act (Option (List Text))
  | 0, _ | _, [] => return none
  | _, ['-', '-'] :: rest => return some rest
  | n + 1, ('-' :: letters) :: rest => do readSettings n (← turnLetters true rest letters)
  | n + 1, ('+' :: letters) :: rest => do readSettings n (← turnLetters false rest letters)
  | _, words => return some words

def set : Builtin := fun words => do
  if let some params ← readSettings (words.length + 1) words then modify ({ · with params })
  return 0

def shift : Builtin := fun words => do
  let params := (← get).params
  let n := (← countOf words).getD 1
  if params.length < n then fail "can't shift that many".toList
  modify ({ · with params := params.drop n })
  return 0

structure LineSplitting where
  fields : List Text := []
  current : Text := []
  left : Nat
  afterBlank : Bool := false
  /-- The length to which the last field is cut in the end. -/
  cut : Option Nat := none

namespace LineSplitting

def push (s : LineSplitting) (c : Char) : LineSplitting :=
  { s with current := c :: s.current, afterBlank := false }

def stepLast (s : LineSplitting) (separates isBlank : Bool) (c : Char) : LineSplitting :=
  if separates && isBlank then
    { s with cut := s.cut.or (some s.current.length), current := c :: s.current }
  else { s.push c with cut := if separates && s.afterBlank then s.cut else none }

def step (separators : Text) (s : LineSplitting) (c : Char × Bool) : LineSplitting :=
  let (c, quoted) := c
  let separates := !quoted && separators.contains c
  let isBlank := c = ' ' || c = '\t' || c = '\n'
  if quoted then s.push c
  else if s.left = 0 then s.stepLast separates isBlank c
  else if s.afterBlank then
    if separates then { s with afterBlank := isBlank } else s.push c
  else if !separates then s.push c
  else if isBlank && s.current.isEmpty then s
  else if s.left = 1 then
    { s with left := 0, cut := some s.current.length, current := c :: s.current, afterBlank := isBlank }
  else { s with
    fields := s.current.reverse :: s.fields, current := [], left := s.left - 1, afterBlank := isBlank }

def finish (s : LineSplitting) : List Text :=
  let last := s.current.reverse
  (match s.cut with
    | some n => last.take n
    | none => last) :: s.fields |>.reverse

end LineSplitting

def splitLine (separators : Text) (count : Nat) (line : List (Char × Bool)) : List Text :=
  (line.foldl (LineSplitting.step separators) { left := count }).finish

/-- Reads the characters of a line, with their quoting, and tells whether a line feed ends it. Unless the line is
raw, a backslash quotes the next character and joins lines. The number bounds the lines that are joined. -/
def readLine (raw : Bool) : (count : Nat) → Act (List (Char × Bool) × Bool)
  | 0 => return ([], false)
  | n + 1 => do
    match ← (Work.read 0 .line : Work _) with
    | .error _ | .ok [] => return ([], false)
    | .ok bytes =>
      let t := (Octets.ofBytes bytes).filter (· ≠ '\x00')
      let isWhole := t.getLast? = some '\n'
      let line := if isWhole then t.dropLast else t
      if raw then return (line.map fun c => (c, false), isWhole)
      let (row, isJoined) := unquoteLine line
      if isJoined && isWhole then
        let (more, isWhole) ← readLine raw n
        return (row ++ more, isWhole)
      else return (row, isWhole)
where
  unquoteLine : Text → List (Char × Bool) × Bool
    | [] => ([], false)
    | ['\\'] => ([], true)
    | '\\' :: c :: t =>
      let (row, isJoined) := unquoteLine t
      ((c, true) :: row, isJoined)
    | c :: t =>
      let (row, isJoined) := unquoteLine t
      ((c, false) :: row, isJoined)

def setFields : List Text → List Text → Act Unit
  | [], _ => return ()
  | name :: names, fields => do
    setVariable name (fields.headD [])
    setFields names fields.tail

def read : Builtin := fun words => do
  let (options, names) ← splitOptions ['r'] words
  let (line, isWhole) ← readLine (options.contains 'r') 1000000000
  setFields names (splitLine (← get).separators names.length line)
  return if isWhole then 0 else 1

end ScopedSheets.Shell.Builtin
