import ScopedSheets.Machine.Number
import ScopedSheets.Machine.Shell.Syntax

/-!
# Expressions of whole numbers

Expressions with the operators of assignment, choice, logic, bits, order and arithmetic. A name stands for
the number that its variable holds, and for zero when it holds none. What a logical operator or a choice
does not need is read and not calculated. The values that an expression assigns are given back beside its
own.
-/

namespace ScopedSheets.Shell.Arithmetic

open Number

inductive Wrong where
  | primary
  | closing
  | colon
  | rest
  | divisionByZero
  | noNumber (value : Text)

def Wrong.message (expression : Text) (wrong : Wrong) : Text :=
  let about := fun what : String =>
    "arithmetic expression: ".toList ++ what.toList ++ ": \"".toList ++ expression ++ ['"']
  match wrong with
  | primary => about "expecting primary"
  | closing => about "expecting ')'"
  | colon => about "expecting ':'"
  | rest => about "expecting EOF"
  | divisionByZero => about "division by zero"
  | noNumber value => illegalNumber value

inductive Token where
  | number (n : Int)
  | name (t : Text)
  | operator (op : String)
  | stray
deriving DecidableEq

def operators : List String :=
  ["<<=", ">>=", "==", "!=", "<=", ">=", "<<", ">>", "||", "&&", "*=", "/=", "%=", "+=", "-=", "&=", "|=",
   "^=", "=", "<", ">", "|", "&", "^", "*", "/", "%", "+", "-", "!", "~", "(", ")", "?", ":"]

def readOperator? (t : Text) : Option (String × Text) :=
  operators.findSome? fun op => (op.toList.isPrefixOf? t).map fun rest => (op, rest)

def tokens : (length : Nat) → Text → List Token
  | 0, _ => []
  | _, [] => []
  | n + 1, c :: t =>
    if c = ' ' || c = '\t' || c = '\n' then tokens n t
    else if c.isDigit then
      match readAnyBase? (c :: t) with
      | some (v, rest) => .number (clamp v) :: tokens n rest
      | none => .stray :: tokens n t
    else if isNameStart c then
      .name ((c :: t).takeWhile isNameChar) :: tokens n (t.dropWhile isNameChar)
    else match readOperator? (c :: t) with
    | some (op, rest) => .operator op :: tokens n rest
    | none => [.stray]

def ofBool (b : Bool) : Int := if b then 1 else 0

abbrev Operation := Int → Int → Option Int

def bitwise (f : Nat → Nat → Nat) : Operation := fun a b =>
  wrap (f (a % (1 <<< 64)).toNat (b % (1 <<< 64)).toNat)

/-- The operators on two numbers with how far they bind, those that bind most first. -/
def operations : List (String × Nat × Operation) :=
  [("*", 0, fun a b => wrap (a * b)), ("/", 0, fun a b => if b = 0 then none else wrap (a.tdiv b)),
   ("%", 0, fun a b => if b = 0 then none else some (a.tmod b)),
   ("+", 1, fun a b => wrap (a + b)), ("-", 1, fun a b => wrap (a - b)),
   ("<<", 2, fun a b => wrap (a <<< (b % 64).toNat)), (">>", 2, fun a b => a >>> (b % 64).toNat),
   ("<", 3, fun a b => ofBool (a < b)), ("<=", 3, fun a b => ofBool (a ≤ b)),
   (">", 3, fun a b => ofBool (a > b)), (">=", 3, fun a b => ofBool (a ≥ b)),
   ("==", 4, fun a b => ofBool (a = b)), ("!=", 4, fun a b => ofBool (a ≠ b)),
   ("&", 5, bitwise Nat.land), ("^", 6, bitwise Nat.xor), ("|", 7, bitwise Nat.lor)]

def looseLevel : Nat := 8

/-- The operation that an assigning operator does before it assigns, if it is one. -/
def assigned? (op : String) : Option (Option Operation) :=
  if op = "=" then some none
  else (operations.find? fun (name, _) => name ++ "=" = op && name ≠ "<" && name ≠ ">" && name ≠ "="
      && name ≠ "!").map fun (_, _, operation) => some operation

/-- An expression as far as it is still to be read, and the values that it has assigned, latest first. -/
structure Desk where
  tokens : List Token
  assigned : List (Text × Text) := []

abbrev Calculation := ExceptT Wrong (StateM Desk)

def peek? : Calculation (Option Token) := return (← get).tokens.head?

def take? : Calculation (Option Token) :=
  modifyGet fun d => (d.tokens.head?, { d with tokens := d.tokens.tail })

def takeIf (op : String) : Calculation Bool := do
  if (← peek?) = some (.operator op) then
    discard take?
    return true
  else return false

/-- The value of an operation. What is idle is not calculated. -/
def operate (idle : Bool) (operation : Operation) (a b : Int) : Calculation Int :=
  if idle then return b
  else match operation a b with
    | some v => return v
    | none => throw .divisionByZero

section

variable (lookup : Text → Option Text)

def variableNumber (name : Text) : Calculation Int := do
  let value := ((← get).assigned.lookup name).or (lookup name)
  match valueNumber? (value.getD []) with
  | some n => return n
  | none => throw (.noNumber (value.getD []))

mutual

def assignment : (size : Nat) → (idle : Bool) → Calculation Int
  | 0, _ => throw .primary
  | n + 1, idle => do
    match (← get).tokens with
    | .name name :: .operator op :: rest =>
      match assigned? op with
      | some operation? =>
        modify ({ · with tokens := rest })
        let right ← assignment n idle
        if idle then return right
        let value ← match operation? with
          | none => pure right
          | some operation => operate false operation (← variableNumber lookup name) right
        modify fun d => { d with assigned := (name, Text.ofInt value) :: d.assigned }
        return value
      | none => choice n idle
    | _ => choice n idle

def choice : (size : Nat) → (idle : Bool) → Calculation Int
  | 0, _ => throw .primary
  | n + 1, idle => do
    let condition ← disjunction n idle
    if ← takeIf "?" then
      let yes ← assignment n (idle || condition = 0)
      if !(← takeIf ":") then throw .colon
      let no ← choice n (idle || condition ≠ 0)
      return if condition = 0 then no else yes
    else return condition

def disjunction : (size : Nat) → (idle : Bool) → Calculation Int
  | 0, _ => throw .primary
  | n + 1, idle => do
    let left ← conjunction n idle
    if ← takeIf "||" then
      let right ← disjunction n (idle || left ≠ 0)
      return ofBool (left ≠ 0 || right ≠ 0)
    else return left

def conjunction : (size : Nat) → (idle : Bool) → Calculation Int
  | 0, _ => throw .primary
  | n + 1, idle => do
    let left ← joined n idle looseLevel (← primary n idle)
    if ← takeIf "&&" then
      let right ← conjunction n (idle || left = 0)
      return ofBool (left ≠ 0 && right ≠ 0)
    else return left

/-- Reads what operators that bind below a level join to a number. -/
def joined : (size : Nat) → (idle : Bool) → (level : Nat) → Int → Calculation Int
  | 0, _, _, _ => throw .primary
  | n + 1, idle, level, left => do
    let found := match ← peek? with
      | some (.operator op) => operations.lookup op
      | _ => none
    match found with
    | some (own, operation) =>
      if own < level then
        discard take?
        let right ← joined n idle own (← primary n idle)
        joined n idle level (← operate idle operation left right)
      else return left
    | none => return left

def primary : (size : Nat) → (idle : Bool) → Calculation Int
  | 0, _ => throw .primary
  | n + 1, idle => do
    match ← take? with
    | some (.number v) => return v
    | some (.name name) => if idle then return 0 else variableNumber lookup name
    | some (.operator "+") => primary n idle
    | some (.operator "-") => return wrap (-(← primary n idle))
    | some (.operator "!") => return ofBool ((← primary n idle) = 0)
    | some (.operator "~") => return -(← primary n idle) - 1
    | some (.operator "(") =>
      let v ← assignment n idle
      if ← takeIf ")" then return v else throw .closing
    | _ => throw .primary

end

def whole (size : Nat) : Calculation Int := do
  let v ← assignment lookup size false
  if (← peek?).isSome then throw .rest
  return v

def value (t : Text) : Except Wrong Int × List (Text × Text) :=
  let ts := tokens t.length t
  let (outcome, d) := (whole lookup (8 * ts.length + 8)).run.run ⟨ts, []⟩
  (outcome, d.assigned)

end

end ScopedSheets.Shell.Arithmetic
