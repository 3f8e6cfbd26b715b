import ScopedSheets.Machine.Shell.Arithmetic
import ScopedSheets.Machine.Shell.Field

/-!
# Expanding words

What parameters, outputs, expressions and tildes in a word stand for. As one of the words of a command a word
becomes any number of fields, and elsewhere it becomes one text. How the output of a script comes about is
given from outside, because running scripts needs words.
-/

namespace ScopedSheets.Shell

open Act Number

structure Manner where
  splits : Bool := false
  isValue : Bool := false
  /-- Whether it stands in an expansion, so that its own text may separate fields. -/
  isOperand : Bool := false

/-- The bits of text that begins where a tilde counts. `ends` tells whether the word ends with it. -/
def tildeBits (s : State) (ends : Bool) (t : Text) : List Bit :=
  match t with
  | '~' :: rest =>
    let isHome := match rest with
      | [] => ends
      | c :: _ => c = '/'
    match if isHome then s.value? "HOME".toList else none with
    | some home => home.map (fun c => .glyph ⟨c, true⟩ false) ++ textBits false rest
    | none => textBits false t
  | _ => textBits false t

def plainBits (s : State) (manner : Manner) (starts ends : Bool) (t : Text) : List Bit :=
  let lead := if manner.isValue then t.takeWhile (· ≠ ':') else t
  let rest := t.drop lead.length
  let bits := (if starts then tildeBits s (ends || !rest.isEmpty) lead else textBits false lead)
    ++ ((rest.splitOn ':').tail.flatMap fun piece => .glyph ⟨':', false⟩ false :: tildeBits s true piece)
  if manner.isOperand then
    .region false :: bits.map fun
      | .glyph g _ => .glyph g (!g.quoted)
      | bit => bit
  else bits

def paramsBits (s : State) (manner : Manner) (quoted : Bool) (name : Text) : List Bit :=
  let glyphsOf := fun t : Text => t.map fun c => Bit.glyph ⟨c, quoted⟩ (!quoted)
  let between : List Bit :=
    if manner.splits && (!quoted || name = ['@']) then [.edge] else glyphsOf (s.separators.take 1)
  let bits := between.intercalate (s.params.map glyphsOf)
  if !quoted then .region false :: bits
  else if name = ['@'] && manner.splits && !s.params.isEmpty then .region true :: bits
  else bits

def lookup? (s : State) (name : Text) : Option Text :=
  match name with
  | ['#'] => some (Text.ofNat s.params.length)
  | ['?'] => some (Text.ofNat s.status)
  | ['$'] => some (Text.ofNat s.pid)
  | ['-'] => some (Setting.letters s.settings)
  | ['!'] => s.lastBackground.map Text.ofNat
  | name =>
    if name.all Char.isDigit then
      match valueIn 10 name with
      | 0 => some s.name
      | n + 1 => s.params[n]?
    else s.value? name

def rowOf? (s : State) (manner : Manner) (quoted : Bool) (name : Text) : Option (List Bit) :=
  if name = ['@'] || name = ['*'] then some (paramsBits s manner quoted name)
  else (lookup? s name).map (valueBits quoted)

def missing {α : Type} (name : Text) (message : Text) : Act α := fail (name ++ ": ".toList ++ message)

def cutRow (p : Pattern) (atEnd longest : Bool) (bits : List Bit) : List Bit :=
  let counts := fun
    | Bit.glyph .. => true
    | _ => false
  let row := bits.filter counts
  let t := bitsText row
  bits.takeWhile (!counts ·) ++
    if atEnd then row.take ((lengthBefore? p longest t).getD t.length)
    else row.drop (t.length - (lengthAfter? p longest t).getD t.length)

/-- The octets that stand for quoting in a shell, which drop out of an expression. -/
def quotingOctets : List Char := ['\x81', '\x88']

def calculate (expression : Text) : Act Text := do
  let s ← get
  let (outcome, assigned) := Arithmetic.value (fun name => s.value? name) expression
  for (name, value) in assigned.reverse do
    assign name value false false
  match outcome with
  | .ok v => return Text.ofInt v
  | .error wrong => fail (wrong.message expression)

section

variable (output : Option Script → Act Text)

mutual

def expandBits (manner : Manner) (starts : Bool) : Word → Act (List Bit)
  | [] => return []
  | part :: rest => do
    let bits ← expandPart manner starts rest.isEmpty part
    return bits ++ (← expandBits manner false rest)

def expandPart (manner : Manner) (starts ends : Bool) : Part → Act (List Bit)
  | .text true t => return textBits true t
  | .text false t => return plainBits (← get) manner starts ends t
  | .output quoted script => return valueBits quoted (← output script)
  | .number quoted expression => do
    let t := bitsText (← expandBits {} false expression)
    return valueBits quoted (← calculate (t.filter (!quotingOctets.contains ·)))
  | .parameter quoted name change operand => do
    let s ← get
    let row? := rowOf? s manner quoted name
    let inner := { manner with isOperand := true }
    let isGiven := fun colon => row?.any fun row => !colon || 0 < bitsLength row
    let orMissing := fun row : List Bit → Act (List Bit) =>
      match row? with
      | some bits => row bits
      | none => if s.has .nounset then missing name "parameter not set".toList else return []
    match change with
    | .bad => fail "Bad substitution".toList
    | .none => orMissing pure
    | .length =>
      if row?.isNone && s.has .nounset then missing name "parameter not set".toList
      else return valueBits quoted (Text.ofNat (bitsLength (row?.getD [])))
    | .orElse colon => if isGiven colon then return row?.getD [] else expandBits inner true operand
    | .instead colon => if isGiven colon then expandBits inner true operand else return []
    | .assign colon =>
      if isGiven colon then return row?.getD []
      else
        let t := bitsText (← expandBits {} true operand)
        setVariable name t
        return valueBits quoted t
    | .demand colon =>
      if isGiven colon then return row?.getD []
      else
        let t := bitsText (← expandBits {} true operand)
        missing name (if !operand.isEmpty then t
          else if colon then "parameter not set or null".toList else "parameter not set".toList)
    | .cut atEnd longest =>
      orMissing fun row => do
        let p := patternOf (bitsGlyphs (← expandBits {} true operand))
        return cutRow p atEnd longest row

end

def expandText (w : Word) : Act Text := return bitsText (← expandBits output {} true w)

def expandValue (w : Word) : Act Text :=
  return bitsText (← expandBits output { isValue := true } true w)

def expandDocument (w : Word) : Act Text := return bitsText (← expandBits output {} false w)

def expandPattern (w : Word) : Act Pattern :=
  return patternOf (bitsGlyphs (← expandBits output {} true w))

def expandFields (w : Word) : Act (List Text) := do
  let bits ← expandBits output { splits := true } true w
  let fields := splitFields (← get).separators bits
  return (← fields.mapM fieldTexts).flatten

/-- Expands a word that may assign: one text if it does. -/
def expandAssigning (w : Word) : Act (List Text) := do
  match assignment? w with
  | some (name, value) => return [name ++ '=' :: (← expandValue output value)]
  | none => expandFields output w

end

end ScopedSheets.Shell
