import ScopedSheets.Text

/-!
# Patterns

Patterns for names and values: a star stands for any text, a question mark for one character, and brackets
for one character of a class. A quoted character stands for itself. Characters are octets, and those
beyond ASCII come before all others in their order.
-/

namespace ScopedSheets.Shell

structure Glyph where
  char : Char
  quoted : Bool
deriving DecidableEq

def Glyph.isActive (g : Glyph) (c : Char) : Bool := !g.quoted && g.char = c

def glyphs (quoted : Bool) (t : Text) : List Glyph := t.map (⟨·, quoted⟩)

def glyphsText (gs : List Glyph) : Text := gs.map Glyph.char

/-- The place of an octet in the order of characters. -/
def rank (c : Char) : Int := if c.toNat < 128 then c.toNat else c.toNat - 256

def namedClasses : List (String × (Char → Bool)) :=
  let isBlank := fun c : Char => c = ' ' || c = '\t'
  let isPrint := fun c : Char => ' ' ≤ c && c ≤ '~'
  [("alnum", Char.isAlphanum), ("alpha", Char.isAlpha), ("blank", isBlank),
   ("cntrl", fun c => c < ' ' || c.toNat = 127), ("digit", Char.isDigit),
   ("graph", fun c => isPrint c && c ≠ ' '), ("lower", Char.isLower), ("print", isPrint),
   ("punct", fun c => isPrint c && c ≠ ' ' && !c.isAlphanum),
   ("space", fun c => c = ' ' || '\t' ≤ c && c ≤ '\r'), ("upper", Char.isUpper),
   ("xdigit", fun c => c.isDigit || 'a' ≤ c && c ≤ 'f' || 'A' ≤ c && c ≤ 'F')]

inductive Member where
  | range (first last : Char)
  | named (p : Char → Bool)

def Member.has (m : Member) (c : Char) : Bool :=
  match m with
  | range first last => rank first ≤ rank c && rank c ≤ rank last
  | named p => p c

inductive PatternItem where
  | any
  | one
  | char (c : Char)
  | listed (negated : Bool) (members : List Member)

abbrev Pattern := List PatternItem

def quoteEscaped : List Glyph → List Glyph
  | [] => []
  | [g] => [if g.isActive '\\' then ⟨'\\', true⟩ else g]
  | g :: h :: rest =>
    if g.isActive '\\' then ⟨h.char, true⟩ :: quoteEscaped rest else g :: quoteEscaped (h :: rest)

def readNamed? (gs : List Glyph) : Option (Member × List Glyph) :=
  namedClasses.findSome? fun (name, p) =>
    ((glyphs false (':' :: name.toList ++ ":]".toList)).isPrefixOf? gs).map fun rest =>
      (.named p, rest)

def readMember? : List Glyph → Option (Member × List Glyph)
  | [] => none
  | g :: rest =>
    match if g.isActive '[' then readNamed? rest else none with
    | some found => some found
    | none =>
      match rest with
      | dash :: h :: more =>
        if dash.isActive '-' && !h.isActive ']' then some (.range g.char h.char, more)
        else some (.range g.char g.char, rest)
      | _ => some (.range g.char g.char, rest)

def readMembers? : (length : Nat) → List Glyph → Option (List Member × List Glyph)
  | 0, _ => none
  | n + 1, gs => do
    let (member, rest) ← readMember? gs
    match rest with
    | [] => none
    | g :: after =>
      if g.isActive ']' then return ([member], after)
      else
        let (members, rest) ← readMembers? n rest
        return (member :: members, rest)

def readListed? (gs : List Glyph) : Option (PatternItem × List Glyph) :=
  let negated := gs.head?.any (·.isActive '!')
  let inside := if negated then gs.tail else gs
  (readMembers? gs.length inside).map fun (members, rest) => (.listed negated members, rest)

def readPattern : (length : Nat) → List Glyph → Pattern
  | 0, _ => []
  | _, [] => []
  | n + 1, g :: gs =>
    if g.isActive '*' then .any :: readPattern n gs
    else if g.isActive '?' then .one :: readPattern n gs
    else match if g.isActive '[' then readListed? gs else none with
    | some (item, rest) => item :: readPattern n rest
    | none => .char g.char :: readPattern n gs

def patternOf (gs : List Glyph) : Pattern := readPattern gs.length (quoteEscaped gs)

/-- Whether characters of one name hold anything that makes them more than text. -/
def isActive : List Glyph → Bool
  | [] => false
  | g :: gs =>
    let inside := if gs.head?.any (·.isActive '!') then gs.tail else gs
    g.isActive '*' || g.isActive '?' || (g.isActive '[' && inside.tail.any (·.isActive ']'))
      || isActive gs

def PatternItem.takes (item : PatternItem) (c : Char) : Bool :=
  match item with
  | any | one => true
  | char d => c = d
  | listed negated members => members.any (·.has c) != negated

namespace Pattern

def anyEnding (p : Text → Bool) : Text → Bool
  | [] => p []
  | c :: t => p (c :: t) || anyEnding p t

def fits : Pattern → Text → Bool
  | [], t => t.isEmpty
  | .any :: items, t => anyEnding (fits items) t
  | item :: items, c :: t => item.takes c && fits items t
  | _ :: _, [] => false

end Pattern

/-- How many characters stand before the longest or the shortest ending that fits. `index` counts those
passed, and `found` is what has been found. -/
def cutIndex (p : Pattern) (longest : Bool) : (index : Nat) → (found : Option Nat) → Text → Option Nat
  | index, found, [] => if p.fits [] then some index else found
  | index, found, c :: t =>
    if p.fits (c :: t) then
      if longest then some index else cutIndex p longest (index + 1) (some index) t
    else cutIndex p longest (index + 1) found t

def lengthBefore? (p : Pattern) (longest : Bool) (t : Text) : Option Nat := cutIndex p longest 0 none t

def lengthAfter? (p : Pattern) (longest : Bool) (t : Text) : Option Nat :=
  lengthBefore? p.reverse longest t.reverse

end ScopedSheets.Shell
