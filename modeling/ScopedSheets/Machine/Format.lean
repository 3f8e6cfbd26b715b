import ScopedSheets.Machine.Format.Escape
import ScopedSheets.Machine.Format.Quoting
import ScopedSheets.Machine.Format.Real

/-!
# Formats

Formats are texts with directives that take arguments. A format is used again as long as it takes arguments
and some are left; an argument that is missing counts as empty or zero. What comes of it is a row of
reports, which are pieces of output and complaints about what is wrong.
-/

namespace ScopedSheets.Format

open Number

inductive Measure where
  | number (n : Nat)
  | argument

structure Directive where
  flags : Text := []
  width : Option Measure := none
  precision : Option Measure := none
  conversion : Char

inductive Wrong where
  | noNumber (arg : Text)
  | leftOver (arg : Text)
  | outOfRange (arg : Text)
  | invalid (written : Text)
  | unfinished (written : Text)
  | badEscape (wrong : Escape.Wrong)

inductive Piece where
  | text (t : Text)
  | directive (d : Directive)
  | wrong (wrong : Wrong)
  | stop

structure Dialect where
  escapes : Escape.Dialect
  precision : Real.Precision
  conversions : Text
  /-- Conversions that come right after the percent sign. -/
  bare : Text
  /-- The conversions that a flag, or a point, does not go with. -/
  excluded : Char → Text

def Dialect.program : Dialect where
  escapes := { octets := true, characters := true, isStrict := true }
  precision := .extended
  conversions := "acdefgiosuxX".toList
  bare := "bq".toList
  excluded := fun c =>
    if c = '#' then "cdisu".toList else if c = '0' then "cs".toList else if c = '.' then "c".toList else []

def Dialect.shell : Dialect where
  escapes := {}
  precision := .double
  conversions := "abcdefgiosuxX".toList
  bare := []
  excluded := fun _ => []

def readMeasure (t : Text) : Option Measure × Text :=
  match t with
  | '*' :: t => (some .argument, t)
  | _ =>
    let digits := t.takeWhile Char.isDigit
    (if digits = [] then none else some (.number (valueIn 10 digits)), t.drop digits.length)

def readDirective (d : Dialect) (t : Text) : Piece × Text :=
  let flags := t.takeWhile "-+ #0".toList.contains
  let (width, after) := readMeasure (t.drop flags.length)
  let (precision, after) := match after with
    | '.' :: after =>
      let (measure, after) := readMeasure after
      (some (measure.getD (.number 0)), after)
    | _ => (none, after)
  match after with
  | [] => (.wrong (.unfinished ('%' :: t)), [])
  | c :: rest =>
    let marks := if precision.isSome then '.' :: flags else flags
    let isBare := t.length = rest.length + 1
    if isBare && d.bare.contains c || d.conversions.contains c && !marks.any fun f => (d.excluded f).contains c
    then (.directive ⟨flags, width, precision, c⟩, rest)
    else (.wrong (.invalid ('%' :: t.take (t.length - rest.length))), rest)

def readFormat (d : Dialect) : (length : Nat) → Text → List Piece
  | 0, _ => []
  | _, [] => []
  | n + 1, '%' :: '%' :: t => .text ['%'] :: readFormat d n t
  | n + 1, '%' :: t =>
    let (piece, rest) := readDirective d t
    piece :: readFormat d n rest
  | n + 1, '\\' :: 'c' :: t => if d.escapes.isStrict then [.stop] else .text ['\\', 'c'] :: readFormat d n t
  | n + 1, '\\' :: t =>
    match Escape.read d.escapes t with
    | .ok (octets, rest) => .text octets :: readFormat d n rest
    | .error wrong => [.wrong (.badEscape wrong)]
  | n + 1, c :: t => .text [c] :: readFormat d n t

inductive Report where
  | output (t : Text)
  | complaint (wrong : Wrong)

structure Outcome where
  reports : List Report := []
  args : List Text
  stops : Bool := false

def complaintsOf (arg rest : Text) (isOut : Bool) : List Wrong :=
  if isOut && rest = [] then [.outOfRange arg]
  else if rest = [] then []
  else if rest = arg then [.noNumber arg]
  else [.leftOver arg]

/-- The number that an argument writes. An argument in quotes is the number of its first octet. -/
def wholeNumber (signed : Bool) (arg : Text) : Int × List Wrong :=
  if arg.head? = some '"' || arg.head? = some '\'' then ((arg.tail.head?.map Char.toNat).getD 0, [])
  else
    let (n, rest) := (readSigned? readAnyBase? arg).getD (0, arg)
    let value := if signed then clamp n else n % (1 <<< 64)
    (value, complaintsOf arg rest (signed && value ≠ n))

def realNumber (d : Dialect) (arg : Text) : Real × List Wrong :=
  match Real.read? d.precision arg with
  | some (r, rest) => (r, complaintsOf arg rest false)
  | none => (.zero, complaintsOf arg arg false)

structure Shape where
  flags : Text
  left : Bool
  width : Nat
  precision : Option Nat
  conversion : Char

def Shape.has (s : Shape) (flag : Char) : Bool := s.flags.contains flag

def takeMeasure (measure : Measure) (args : List Text) : Int × List Wrong × List Text :=
  match measure with
  | .number n => (n, [], args)
  | .argument =>
    let (n, wrong) := wholeNumber true (args.headD ['0'])
    (n, wrong, args.tail)

def Directive.shape (x : Directive) (args : List Text) : Shape × List Wrong × List Text :=
  let (width, first, args) := match x.width with
    | some measure => takeMeasure measure args
    | none => (0, [], args)
  let (precision, second, args) := match x.precision with
    | some measure =>
      let (n, wrong, args) := takeMeasure measure args
      (if n < 0 then none else some n.toNat, wrong, args)
    | none => (none, [], args)
  (⟨x.flags, x.flags.contains '-' || width < 0, width.natAbs, precision, x.conversion⟩, first ++ second, args)

def pad (s : Shape) (t : Text) : Text :=
  let fill := List.replicate (s.width - t.length) ' '
  if s.left then t ++ fill else fill ++ t

def padNumber (s : Shape) (zeros : Bool) (lead digits : Text) : Text :=
  let fill := if s.has '0' && !s.left && zeros then
      List.replicate (s.width - (lead.length + digits.length)) '0' else []
  pad s (lead ++ fill ++ digits)

def signOf (s : Shape) (negative : Bool) : Text :=
  if negative then ['-'] else if s.has '+' then ['+'] else if s.has ' ' then [' '] else []

def formatWhole (s : Shape) (n : Int) : Text :=
  let isSigned := s.conversion = 'd' || s.conversion = 'i'
  let base := match s.conversion with
    | 'o' => 8
    | 'x' | 'X' => 16
    | _ => 10
  let digits := if n = 0 && s.precision = some 0 then [] else Nat.toDigits base n.natAbs
  let digits := if s.conversion = 'X' then digits.map Char.toUpper else digits
  let digits := List.replicate (s.precision.getD 1 - digits.length) '0' ++ digits
  let lead := if isSigned then signOf s (n < 0)
    else if base = 16 && s.has '#' && n ≠ 0 then ['0', s.conversion] else []
  padNumber s s.precision.isNone lead digits

def formatReal (d : Dialect) (s : Shape) (r : Real) : Text :=
  let t := r.write d.precision s.conversion s.precision
  let isFinite := match r with
    | .finite .. => true
    | _ => false
  let isHex := s.conversion = 'a' && isFinite
  let lead := signOf s r.isNegative ++ (if isHex then t.take 2 else [])
  padNumber s isFinite lead (if isHex then t.drop 2 else t)

/-- The reports of a directive with its argument, and whether it ends all output. -/
def useShape (d : Dialect) (s : Shape) (arg : Option Text) : List Report × Bool :=
  let cut := fun t : Text => match s.precision with
    | some n => t.take n
    | none => t
  let given := arg.getD []
  let number := arg.getD ['0']
  match s.conversion with
  | 's' => ([.output (pad s (cut given))], false)
  | 'q' => (arg.toList.map fun arg => .output (Quoting.asNeeded arg), false)
  | 'b' =>
    let u := Escape.unescape d.escapes given.length [] given
    (.output (pad s (cut u.octets)) :: (u.wrong.map fun w => Report.complaint (.badEscape w)).toList,
      u.stops)
  | 'c' => ([.output (pad s [given.headD '\x00'])], false)
  | c =>
    if "aefg".toList.contains c then
      let (r, wrong) := realNumber d number
      (wrong.map .complaint ++ [.output (formatReal d s r)], false)
    else
      let (n, wrong) := wholeNumber (c = 'd' || c = 'i') number
      (wrong.map .complaint ++ [.output (formatWhole s n)], false)

def usePieces (d : Dialect) : List Piece → List Text → Outcome
  | [], args => { args }
  | piece :: pieces, args =>
    match piece with
    | .text t =>
      let o := usePieces d pieces args
      { o with reports := .output t :: o.reports }
    | .wrong wrong => { reports := [.complaint wrong], args, stops := true }
    | .stop => { args, stops := true }
    | .directive x =>
      let (s, wrong, args) := x.shape args
      let (reports, stops) := useShape d s args.head?
      let reports := wrong.map Report.complaint ++ reports
      if stops then { reports, args := args.tail, stops }
      else
        let o := usePieces d pieces args.tail
        { o with reports := reports ++ o.reports }

def useAgain (d : Dialect) (pieces : List Piece) : (count : Nat) → List Text → Outcome
  | 0, args => { args }
  | n + 1, args =>
    let o := usePieces d pieces args
    if o.stops || o.args = [] || o.args.length = args.length then o
    else
      let more := useAgain d pieces n o.args
      { more with reports := o.reports ++ more.reports }

def printf (d : Dialect) (format : Text) (args : List Text) : Outcome :=
  useAgain d (readFormat d format.length format) (args.length + 1) args

end ScopedSheets.Format
