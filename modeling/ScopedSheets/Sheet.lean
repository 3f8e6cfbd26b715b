import ScopedSheets.Fragment.Rule
import ScopedSheets.Position
import ScopedSheets.Sheet.Marker

/-!
# Style sheets with scoped blocks

A sheet is ordinary text with blocks in it, each between an opening and a closing marker. Laying a sheet
out cuts it into sections, a section being the text before a block together with the block, and says how
the sheet ends: with ordinary text, or with a block that is at fault. A block is at fault when it is
never closed, or when another one opens inside it. The scoped sheet has every block replaced by its rules
under the block's scope; all other text stays.
-/

namespace ScopedSheets

/-- A block of a sheet: its name, the text between its markers, and the offsets where the opening marker
begins and the closing marker ends. -/
structure Block where
  name : Text
  body : Text
  start : Nat
  stop : Nat
deriving DecidableEq, Repr

def Block.scope (b : Block) : Text := '.' :: b.name

inductive BlockFault where
  | unclosed
  | nested
deriving DecidableEq, Repr

def BlockFault.message : BlockFault → Text
  | unclosed => "unclosed block".toList
  | nested => "nested block".toList

structure SheetError where
  fault : BlockFault
  position : Position
deriving DecidableEq, Repr

def SheetError.message (e : SheetError) : Text := e.fault.message

structure Section where
  gap : Text
  opening : Opening
  body : Text
  closing : Closing
deriving DecidableEq, Repr

namespace Section

def text (s : Section) : Text := s.gap ++ s.opening.text ++ s.body ++ s.closing.text

def scope (s : Section) : Text := '.' :: s.opening.name

def withScope (s : Section) : Text := s.gap ++ applyScope s.scope s.body

def block (offset : Nat) (s : Section) : Block :=
  ⟨s.opening.name, s.body, offset + s.gap.length, offset + s.text.length⟩

end Section

inductive Ending where
  | plain (gap : Text)
  /-- A block at fault: the kind of fault, the text before the marker that shows it, and the text from
  that marker on. -/
  | faulty (fault : BlockFault) (before rest : Text)
deriving DecidableEq, Repr

def Ending.text : Ending → Text
  | plain gap => gap
  | faulty _ before rest => before ++ rest

/-- The first section of a text with the text after it, or the ending that the text is. -/
def firstSection (t : Text) : Except Ending (Section × Text) :=
  match findOpening? t with
  | none => .error (.plain t)
  | some (gap, opening, rest) =>
    match findClosing? rest with
    | none => .error (.faulty .unclosed gap (opening.text ++ rest))
    | some (body, closing, rest) =>
      match findOpening? body with
      | some (before, nested, after) =>
        .error (.faulty .nested (gap ++ opening.text ++ before)
          (nested.text ++ after ++ closing.text ++ rest))
      | none => .ok (⟨gap, opening, body, closing⟩, rest)

theorem eq_of_firstSection_ok {t rest : Text} {s : Section}
    (h : firstSection t = .ok (s, rest)) : t = s.text ++ rest := by
  simp only [firstSection] at h
  split at h
  · simp at h
  · next gap opening after ho =>
    split at h
    · simp at h
    · next body closing rest' hc =>
      split at h
      · simp at h
      · simp only [Except.ok.injEq, Prod.mk.injEq] at h
        obtain ⟨rfl, rfl⟩ := h
        rw [eq_of_findOpening? ho, eq_of_findClosing? hc]
        simp [Section.text]

theorem eq_of_firstSection_error {t : Text} {e : Ending} (h : firstSection t = .error e) :
    t = e.text := by
  simp only [firstSection] at h
  split at h
  · simp only [Except.error.injEq] at h
    rw [← h, Ending.text]
  · next gap opening after ho =>
    split at h
    · simp only [Except.error.injEq] at h
      rw [← h, eq_of_findOpening? ho]
      simp [Ending.text]
    · next body closing rest' hc =>
      split at h
      · next before nested after' hn =>
        simp only [Except.error.injEq] at h
        rw [← h, eq_of_findOpening? ho, eq_of_findClosing? hc, eq_of_findOpening? hn]
        simp [Ending.text]
      · simp at h

theorem length_lt_of_firstSection {t rest : Text} {s : Section}
    (h : firstSection t = .ok (s, rest)) : rest.length < t.length := by
  have hlen := congrArg List.length (eq_of_firstSection_ok h)
  have hpos := s.closing.length_text_pos
  simp only [Section.text, List.length_append] at hlen
  omega

def layout (t : Text) : List Section × Ending :=
  match h : firstSection t with
  | .error ending => ([], ending)
  | .ok (s, rest) =>
    have := length_lt_of_firstSection h
    (s :: (layout rest).1, (layout rest).2)
termination_by t.length

theorem layout_of_error {t : Text} {e : Ending} (h : firstSection t = .error e) :
    layout t = ([], e) := by
  rw [layout]
  split
  · simp_all
  · simp_all

theorem layout_of_ok {t rest : Text} {s : Section} (h : firstSection t = .ok (s, rest)) :
    layout t = (s :: (layout rest).1, (layout rest).2) := by
  rw [layout]
  split
  · simp_all
  · next s' rest' h' =>
    rw [h] at h'
    simp only [Except.ok.injEq, Prod.mk.injEq] at h'
    obtain ⟨rfl, rfl⟩ := h'
    rfl

/-- The sections and the ending, one after the other, are the sheet. -/
theorem text_layout (t : Text) : (layout t).1.flatMap Section.text ++ (layout t).2.text = t := by
  fun_induction layout t with
  | case1 t ending h => simp [eq_of_firstSection_error h]
  | case2 t s rest h _ ih =>
    rw [List.flatMap_cons, List.append_assoc, ih, ← eq_of_firstSection_ok h]

/-- The blocks of the sections, when the first section begins at `offset`. -/
def blocksFrom (offset : Nat) : List Section → List Block
  | [] => []
  | s :: rest => s.block offset :: blocksFrom (offset + s.text.length) rest

def Ending.error? (before : Text) : Ending → Option SheetError
  | plain _ => none
  | faulty fault gap _ => some ⟨fault, Position.after (before ++ gap)⟩

/-- The complete blocks before the first block at fault, and the error that this one is. -/
def findBlocks (t : Text) : List Block × Option SheetError :=
  let (sections, ending) := layout t
  (blocksFrom 0 sections, ending.error? (sections.flatMap Section.text))

/-- The sheet with every block under its scope and all other text as it is. -/
def scopeSheet (t : Text) : Except SheetError Text :=
  let (sections, ending) := layout t
  match ending.error? (sections.flatMap Section.text) with
  | some e => .error e
  | none => .ok (sections.flatMap Section.withScope ++ ending.text)

end ScopedSheets
