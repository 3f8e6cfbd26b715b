import ScopedSheets.Machine.Format.Width
import ScopedSheets.Machine.Number
import ScopedSheets.Machine.Shell.Pattern
import ScopedSheets.Machine.Utility.Command

/-!
# The program that lists directories

What is listed, in which order, how each name is written, and how the names are arranged on lines. An option
that is given later takes the place of an earlier one that it contradicts.
-/

namespace ScopedSheets.Utility

inductive Arrangement where
  | lines
  | commas
  | columns
  | rows
deriving DecidableEq

inductive Order where
  | name | size | ending | version | width
deriving DecidableEq

inductive Signs where
  | none
  | slashes
  | kinds
  | all
deriving DecidableEq

structure Wanted where
  hidden : Bool
  backups : Bool
  ignored : List Shell.Pattern
  asNames : Bool
  isReversed : Bool
  isDeep : Bool
  signs : Signs
  arrangement : Arrangement
  order : Order
  writing : Quoting.Style
  width : Nat

structure Listed where
  name : Text
  isDirectory : Bool
  isProgram : Bool
  size : Nat

def lsOptions : List Known :=
  ["file-type", "hide", "sort", "quoting-style", "color"].map (fun name => ({ name := name } : Known))
  ++ "Iw".toList.map (fun c => { letter := some c, takesArgument := true })
  ++ "1ABbCdFmpQRrSvXx".toList.map fun c => { letter := some c }

def arrangement? : Given → Option Arrangement
  | ("1", _) => some .lines
  | ("m", _) => some .commas
  | ("C", _) => some .columns
  | ("x", _) => some .rows
  | _ => none

def order? : Given → Option Order
  | ("S", _) => some .size
  | ("X", _) => some .ending
  | ("v", _) => some .version
  | ("sort", word) => if word = "width".toList then some .width else none
  | _ => none

def writing? : Given → Option Quoting.Style
  | ("Q", _) => some (.quoted true)
  | ("b", _) => some .escaped
  | ("quoting-style", word) =>
    [("c-maybe", Quoting.Style.quoted false), ("escape", .escaped), ("shell", .word false false)].findSome?
      fun (name, style) => if name.toList = word then some style else none
  | _ => none

def signs? : Given → Option Signs
  | ("p", _) => some .slashes
  | ("file-type", _) => some .kinds
  | ("F", _) => some .all
  | _ => none

def Wanted.ofWords (w : Words) : Wanted :=
  let latest := w.options.reverse
  let patterns := w.options.filterMap fun (key, word) =>
    if key = "I" || key = "hide" && !w.has "A" then some (Shell.patternOf (Shell.glyphs false word)) else none
  { hidden := w.has "A"
    backups := !w.has "B"
    ignored := patterns
    asNames := w.has "d"
    isReversed := w.has "r"
    isDeep := w.has "R"
    signs := (latest.findSome? signs?).getD .none
    arrangement := (latest.findSome? arrangement?).getD .lines
    order := (latest.findSome? order?).getD .name
    writing := (latest.findSome? writing?).getD .plain
    width := ((w.argument? "w").bind Number.count?).getD 80 }

/-- The characters that get a backslash, beside those that always do. -/
def Wanted.special (w : Wanted) : Text :=
  (if w.writing = .escaped then [' '] else []) ++ match w.signs with
    | .none | .slashes => []
    | .kinds => "*=>@|".toList
    | .all => "=>@|".toList

def Wanted.written (w : Wanted) (name : Text) : Text := Quoting.write w.writing w.special name

def Wanted.shown (w : Wanted) (l : Listed) : Text × Nat :=
  let name := w.written l.name
  let sign := if l.isDirectory && w.signs ≠ .none then ['/']
    else if l.isProgram && w.signs = .all then ['*'] else []
  (name ++ sign, Width.ofText (name ++ sign))

def endingOf (name : Text) : Text :=
  if name.contains '.' then '.' :: (name.reverse.takeWhile (· ≠ '.')).reverse else []

/-- The order of names that hold numbers. The numbers go by their values, and a tilde comes before everything,
the end of the name included. -/
def versionRank : Text → Int
  | [] => -1
  | c :: _ =>
    if c.isDigit then 0
    else if c.isAlpha then c.toNat
    else if c = '~' then -2
    else c.toNat + 256

def compareVersions : (length : Nat) → Text → Text → Ordering
  | 0, _, _ => .eq
  | n + 1, s, t =>
    let opensOtherwise := fun u : Text => u.head?.any (!·.isDigit)
    if s = [] && t = [] then .eq
    else if opensOtherwise s || opensOtherwise t then
      (compare (versionRank s) (versionRank t)).then (compareVersions n s.tail t.tail)
    else
      let valueOf := fun u : Text => Number.valueIn 10 (u.takeWhile Char.isDigit)
      (compare (valueOf s) (valueOf t)).then
        (compareVersions n (s.dropWhile Char.isDigit) (t.dropWhile Char.isDigit))

def isEndings (isOpen : Bool) : Text → Bool
  | [] => true
  | '.' :: c :: t => (c.isAlpha || c = '~') && isEndings true t
  | c :: t => isOpen && (c.isAlphanum || c = '~') && isEndings true t

def stemOf (t : Text) : Text :=
  let lengths := (List.range t.length).map (· + 1)
  t.take ((lengths.find? fun n => isEndings false (t.drop n)).getD t.length)

def compareNames (a b : Text) : Ordering :=
  let whole := fun s t : Text => compareVersions (s.length + t.length + 1) s t
  (whole (stemOf a) (stemOf b)).then (whole a b)

def Wanted.atMost (w : Wanted) (a b : Listed) : Bool :=
  let byName := Text.atMost a.name b.name
  match w.order with
  | .name => byName
  | .size => b.size < a.size || a.size = b.size && byName
  | .ending =>
    let x := endingOf a.name
    let y := endingOf b.name
    if x = y then byName else Text.atMost x y
  | .version => compareNames a.name b.name = .lt || compareNames a.name b.name = .eq && byName
  | .width =>
    let x := Width.ofText (w.written a.name)
    let y := Width.ofText (w.written b.name)
    x < y || x = y && byName

def Wanted.sort (w : Wanted) (names : List Listed) : List Listed :=
  if w.isReversed then names.mergeSort fun a b => w.atMost b a else names.mergeSort w.atMost

def joinCommas (width column : Nat) : List (Text × Nat) → Text
  | [] => ['\n']
  | [(t, _)] => t ++ ['\n']
  | (t, size) :: next :: rest =>
    let after := column + size
    if width = 0 || after + next.2 + 2 < width then
      t ++ ", ".toList ++ joinCommas width (after + 2) (next :: rest)
    else t ++ ",\n".toList ++ joinCommas width 0 (next :: rest)

/-- The blanks between two columns. A tab stands for those up to the next multiple of eight. -/
def indent : (count start stop : Nat) → Text
  | 0, _, _ => []
  | n + 1, start, stop =>
    if stop ≤ start then []
    else if (start + 1) / 8 < stop / 8 then '\t' :: indent n (start + 8 - start % 8) stop
    else ' ' :: indent n (start + 1) stop

def columnWidths (down : Bool) (columns : Nat) (widths : List Nat) : List Nat :=
  let rows := (widths.length + columns - 1) / columns
  let columnOf := fun i => if down then i / rows else i % columns
  (List.range columns).map fun c =>
    let own := (widths.zipIdx.filter fun (_, i) => columnOf i = c).map Prod.fst
    max 3 (own.foldl max 0 + if c + 1 = columns then 0 else 2)

def countColumns (down : Bool) (width : Nat) (widths : List Nat) : Nat :=
  let most := min widths.length (width / 3 + if width % 3 = 0 then 0 else 1)
  let fits := fun columns => (columnWidths down columns widths).foldl (· + ·) 0 < width
  ((List.range most).map (· + 1)).reverse.find? fits |>.getD 1

def columnLine (column : Nat) : List ((Text × Nat) × Nat) → Text
  | [] => ['\n']
  | [((t, _), _)] => t ++ ['\n']
  | ((t, size), width) :: rest =>
    t ++ indent width (column + size) (column + width) ++ columnLine (column + width) rest

def joinColumns (down : Bool) (width : Nat) (names : List (Text × Nat)) : Text :=
  if width = 0 then "  ".toList.intercalate (names.map Prod.fst) ++ ['\n']
  else
    let widths := names.map Prod.snd
    let columns := countColumns down width widths
    let rows := (names.length + columns - 1) / columns
    let sizes := columnWidths down columns widths
    (List.range rows).flatMap fun row =>
      let line := (List.range columns).filterMap fun c =>
        let i := if down then c * rows + row else row * columns + c
        names[i]?.map fun t => (t, sizes.getD c 0)
      columnLine 0 line

def Wanted.arrange (w : Wanted) (names : List Listed) : Text :=
  let shown := (w.sort names).map w.shown
  if shown.isEmpty then []
  else match w.arrangement with
    | .lines => shown.flatMap (·.1 ++ ['\n'])
    | .commas => joinCommas w.width 0 shown
    | .columns => joinColumns true w.width shown
    | .rows => joinColumns false w.width shown

def listedAt (m : Machine) (place : Place) (name : Text) : Option Listed :=
  (m.disk.node? place).map fun
    | .file content executable => ⟨name, false, executable, content.length⟩
    | node => ⟨name, node = .directory, false, 4096⟩

def Wanted.lists (w : Wanted) (name : Text) : Bool :=
  let isHidden := name.head? = some '.'
  (w.hidden || !isHidden) && (w.backups || name.getLast? ≠ some '~')
    && !(!isHidden && w.ignored.any fun p => p.fits name)

def Wanted.entries (w : Wanted) (m : Machine) (place : Place) : List Listed :=
  (m.disk.below place false).filterMap fun (rest, _) => do
    let name ← rest.head?
    let shown := Octets.ofText name
    if w.lists shown then listedAt m (place ++ [name]) shown else none

def Wanted.listing (w : Wanted) (m : Machine) (headed : Bool) :
    (depth : Nat) → (path : Text) → Place → List Text
  | 0, _, _ => []
  | depth + 1, path, place =>
    let names := w.entries m place
    let heading := if headed then Quoting.write w.writing [':'] path ++ ":\n".toList else []
    let inner := if w.isDeep then (w.sort names).filter (·.isDirectory) else []
    let start := if path.getLast? = some '/' then path else path ++ ['/']
    (heading ++ w.arrange names) :: inner.flatMap fun l =>
      w.listing m headed depth (start ++ l.name) (place ++ [Octets.toText l.name])

def Wanted.list (w : Wanted) (i : Invocation) (operands : List Text) : Work Nat := do
  let (pid, m) ← Work.look fun pid m => (pid, m)
  let mut status := 0
  let mut files : List Listed := []
  let mut directories : List (Listed × Place) := []
  for name in operands do
    match (m.locate pid name).toOption.bind fun place => (listedAt m place name).map fun l => (l, place) with
    | none =>
      complain i ("cannot access ".toList ++ Quoting.always name ++ ": No such file or directory".toList)
      status := 2
    | some (l, place) =>
      if l.isDirectory && !w.asNames then directories := directories ++ [(l, place)]
      else files := files ++ [l]
  let headed := w.isDeep || 1 < operands.length
  let listings := (w.sort (directories.map Prod.fst)).flatMap fun l =>
    let place := ((directories.find? fun (d, _) => d.name = l.name).map Prod.snd).getD []
    w.listing m headed 200 l.name place
  let first := w.arrange files
  write i 2 (['\n'].intercalate ((if first = [] then [] else [first]) ++ listings))
  return status

def ls (i : Invocation) : Work Nat := do
  match readWords lsOptions i.args.length i.args.tail with
  | .error refusal => refuse i 2 refusal
  | .ok words => (Wanted.ofWords words).list i (if words.operands = [] then [['.']] else words.operands)

end ScopedSheets.Utility
