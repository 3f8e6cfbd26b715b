import ScopedSheets.Machine.Utility.Command

/-!
# Showing files
-/

namespace ScopedSheets.Utility

structure Show where
  numbers : Bool
  skipsEmpty : Bool
  squeezes : Bool
  ends : Bool
  tabs : Bool
  octets : Bool

def Show.changes (s : Show) : Bool := s.numbers || s.squeezes || s.ends || s.tabs || s.octets

/-- What the showing of lines has to remember from one file to the next: the last number, how many empty lines
have come in a row, and whether a line is unfinished. -/
structure Progress where
  number : Nat := 0
  emptyRow : Nat := 0
  isOpen : Bool := false

def visible (c : Char) : Text :=
  let plain := fun n : Nat =>
    if n < 32 then ['^', Char.ofNat (n + 64)] else if n = 127 then ['^', '?'] else [Char.ofNat n]
  if c.toNat < 128 then plain c.toNat else ['M', '-'] ++ plain (c.toNat - 128)

def Show.octet (s : Show) (c : Char) : Text :=
  if c = '\t' then if s.tabs then ['^', 'I'] else [c]
  else if s.octets then visible c
  else [c]

def Show.line (s : Show) (t : Text) (isComplete : Bool) : Text :=
  if s.ends && !s.octets && isComplete && t.getLast? = some '\r' then
    t.dropLast.flatMap s.octet ++ ['^', 'M']
  else t.flatMap s.octet

def numberText (n : Nat) : Text :=
  let digits := Text.ofNat n
  List.replicate (6 - digits.length) ' ' ++ digits ++ ['\t']

def Show.lines (s : Show) : Progress → (output : List Text) → List Text → Progress × List Text
  | p, output, [] => (p, output)
  | p, output, [last] =>
    if last = [] then (p, output)
    else
      let counts := s.numbers && !p.isOpen
      let p' := { p with number := if counts then p.number + 1 else p.number, emptyRow := 0, isOpen := true }
      (p', ((if counts then numberText p'.number else []) ++ s.line last false) :: output)
  | p, output, t :: rest =>
    let isEmpty := t = [] && !p.isOpen
    let emptyRow := if isEmpty then p.emptyRow + 1 else 0
    if s.squeezes && 1 < emptyRow then Show.lines s { p with emptyRow } output rest
    else
      let counts := s.numbers && !p.isOpen && !(s.skipsEmpty && isEmpty)
      let number := if counts then p.number + 1 else p.number
      let shown := (if counts then numberText number else []) ++ s.line t true
        ++ (if s.ends then ['$', '\n'] else ['\n'])
      Show.lines s { number, emptyRow, isOpen := false } (shown :: output) rest

def catOptions : List Known := "bnsvETAetu".toList.map fun c => { letter := some c }

/-- Whether reading from a descriptor would read what is written to the output. -/
def readsOutput (descriptor : Nat) : Work Bool :=
  Work.look fun pid m =>
    match m.openFile? pid descriptor, m.openFile? pid 1 with
    | some input, some output =>
      match input.target, output.target with
      | .file place, .file other =>
        place = other && input.offset < (((m.disk.readAt place).toOption).getD []).length
      | _, _ => false
    | _, _ => false

def maxPieces : Nat := 1000000000

def showInput (i : Invocation) (s : Show) (descriptor : Nat) : (pieces : Nat) → Progress →
    Work (Progress × Option SystemFault)
  | 0, p => return (p, none)
  | pieces + 1, p => do
    match ← Work.read descriptor (.upTo 131072) with
    | .error fault => return (p, some fault)
    | .ok [] => return (p, none)
    | .ok bytes =>
      let t := Octets.ofBytes bytes
      let (p, shown) := if s.changes then
          let (p, output) := s.lines p [] (t.splitOn '\n')
          (p, output.reverse.flatten)
        else (p, t)
      match ← Work.emit 1 (Octets.toBytes shown) with
      | .ok () => showInput i s descriptor pieces p
      | .error fault =>
        complain i ("write error: ".toList ++ fault.description)
        Work.exit 1

def cat (i : Invocation) : Work Nat := do
  match readWords catOptions i.args.length i.args.tail with
  | .error refusal => refuse i 1 refusal
  | .ok w =>
    let has := fun keys : List String => keys.any w.has
    let s : Show :=
      { numbers := has ["n", "b"], skipsEmpty := has ["b"], squeezes := has ["s"]
        ends := has ["A", "e", "E"], tabs := has ["A", "t", "T"], octets := has ["A", "e", "t", "v"] }
    if ← Work.look fun pid m => (m.openFile? pid 1).isNone then
      complain i ("standard output: ".toList ++ SystemFault.badDescriptor.description)
      return 1
    let mut status := 0
    let mut p : Progress := {}
    for name in (if w.operands = [] then ["-".toList] else w.operands) do
      let opened ← if name = "-".toList then pure (.ok 0)
        else Work.attempt fun pid m => m.openPath pid name .read
      match opened with
      | .error fault =>
        complain i (Quoting.beforeColon name ++ ": ".toList ++ fault.description)
        status := 1
      | .ok descriptor =>
        if ← readsOutput descriptor then
          complain i (Quoting.beforeColon name ++ ": input file is output file".toList)
          status := 1
        else
          let (p', fault) ← showInput i s descriptor maxPieces p
          p := p'
          if let some fault := fault then
            complain i (Quoting.beforeColon name ++ ": ".toList ++ fault.description)
            status := 1
        if name ≠ "-".toList then
          Work.act fun pid m => ((), m.close pid descriptor)
    let usesInput := w.operands = [] || w.operands.contains "-".toList
    if usesInput && (← Work.look fun pid m => (m.descriptor? pid 0).isNone) then
      complain i ("closing standard input: ".toList ++ SystemFault.badDescriptor.description)
      status := 1
    return status

end ScopedSheets.Utility
