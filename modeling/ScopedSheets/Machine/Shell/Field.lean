import ScopedSheets.Machine.Shell.Act
import ScopedSheets.Machine.Shell.Pattern

/-!
# Fields

An expanded word is a row of bits: characters with their quoting, the ends of parameters, and signs of
quotes. A row is split into fields where a separator stands in an expansion, and a field that is an active
pattern becomes the paths that fit it, if there are any.
-/

namespace ScopedSheets.Shell

inductive Bit where
  /-- A character, and whether it may separate fields. -/
  | glyph (g : Glyph) (splits : Bool)
  /-- The end of a parameter with another one after it. -/
  | edge
  /-- The sign that there is a field even if it is empty. -/
  | mark
  /-- The beginning of an expansion. In a hard one only the ends of parameters separate fields. -/
  | region (hard : Bool)

def textBits (quoted : Bool) (t : Text) : List Bit :=
  (if quoted then [.mark] else []) ++ t.map fun c => .glyph ⟨c, quoted⟩ false

def valueBits (quoted : Bool) (t : Text) : List Bit :=
  (if quoted then [] else [.region false]) ++ t.map fun c => .glyph ⟨c, quoted⟩ (!quoted)

def bitsGlyphs (bits : List Bit) : List Glyph :=
  bits.filterMap fun
    | .glyph g _ => some g
    | _ => none

def bitsText (bits : List Bit) : Text := glyphsText (bitsGlyphs bits)

def bitsLength (bits : List Bit) : Nat :=
  bits.countP fun
    | .glyph .. | .edge => true
    | _ => false

def isBlankSeparator (c : Char) : Bool := c = ' ' || c = '\t' || c = '\n'

structure Splitting where
  fields : List (List Glyph) := []
  current : List Glyph := []
  isMarked : Bool := false
  afterBlank : Bool := false
  isHard : Bool := false
  afterHard : Bool := false

namespace Splitting

def endField (s : Splitting) : Splitting :=
  { s with fields := s.current.reverse :: s.fields, current := [], isMarked := false }

def separate (s : Splitting) (blank : Bool) : Splitting :=
  if s.afterBlank then { s with afterBlank := blank }
  else
    let afterBlank := blank && !s.afterHard && !s.isHard
    if afterBlank && s.current.isEmpty && !s.isMarked then s else { s.endField with afterBlank }

def step (separators : Text) (s : Splitting) : Bit → Splitting
  | .mark => { s with isMarked := true, afterBlank := false }
  | .region hard => { s with isHard := hard, afterHard := s.isHard, afterBlank := false }
  | .edge => s.separate true
  | .glyph g splits =>
    if splits && !s.isHard && separators.contains g.char then s.separate (isBlankSeparator g.char)
    else { s with current := g :: s.current, afterBlank := false }

def finish (s : Splitting) : List (List Glyph) :=
  (if s.current.isEmpty && !s.isMarked && !s.isHard then s else s.endField).fields.reverse

end Splitting

def splitFields (separators : Text) (bits : List Bit) : List (List Glyph) :=
  (bits.foldl (Splitting.step separators) {}).finish

def splitSlashes (gs : List Glyph) : List (List Glyph) :=
  gs.foldr (fun g parts =>
    if g.char = '/' then [] :: parts
    else match parts with
      | [] => [[g]]
      | p :: ps => (g :: p) :: ps) [[]]

def namesAt (path : Text) (hidden : Bool) : Act (List Text) := do
  let path := if path = [] then ['.'] else path
  match ← (Work.look fun pid m => m.entries pid path : Work _) with
  | .error _ => return []
  | .ok names =>
    return if hidden then ['.'] :: ['.', '.'] :: names else names.filter (·.head? ≠ some '.')

def isThere (path : Text) : Act Bool :=
  return ((← (Work.look fun pid m => m.node? pid path : Work _)).toOption).isSome

/-- The paths that fit names between slashes, when `path` has been written so far. -/
def matchPaths : (path : Text) → List (List Glyph) → Act (List Text)
  | _, [] => return []
  | path, part :: rest => do
    let goOn := fun name : Text => do
      if rest.isEmpty then return [path ++ name] else matchPaths (path ++ name ++ ['/']) rest
    if isActive part then
      let names ← namesAt path ((part.head?.map Glyph.char) = some '.')
      let pattern := patternOf part
      return (← (names.filter pattern.fits).mapM goOn).flatten
    else
      let name := glyphsText part
      if rest.isEmpty && !(← isThere (path ++ name)) then return [] else goOn name

def fieldTexts (field : List Glyph) : Act (List Text) := do
  let parts := splitSlashes (quoteEscaped field)
  if !(← get).has .noglob && parts.any isActive then
    let found ← matchPaths [] parts
    return if found = [] then [glyphsText field] else Text.sort found
  else return [glyphsText field]

end ScopedSheets.Shell
