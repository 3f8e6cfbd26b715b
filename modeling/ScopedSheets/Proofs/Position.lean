import Mathlib.Data.List.Induction
import ScopedSheets.Position
import ScopedSheets.Proofs.Text.Cutting

/-!
# Positions and lines

A position points into the lines of the text, the text cut at line feeds: the line feed that ends a line
counts as one more character of it. So the lengths of the lines before it and the column give the offset
back (`locates_ofOffset`), and no two offsets have one position.
-/

namespace ScopedSheets

def Text.lengthOfLines : List Text → Nat
  | [] => 0
  | l :: lines => l.length + 1 + lengthOfLines lines

theorem Text.lengthOfLines_append (lines lines' : List Text) :
    lengthOfLines (lines ++ lines') = lengthOfLines lines + lengthOfLines lines' := by
  induction lines with
  | nil => rw [List.nil_append, lengthOfLines, Nat.zero_add]
  | cons l lines ih => rw [List.cons_append, lengthOfLines, lengthOfLines, ih, Nat.add_assoc (l.length + 1)]

namespace Position

/-- The position `pos` stands for the offset `p` of `t`: it is in a line of the text, or at its end, and
the lines before it, each with its line feed, and the column add up to the offset. -/
structure Locates (t : Text) (pos : Position) (p : Nat) : Prop where
  line_pos : 1 ≤ pos.line
  column_pos : 1 ≤ pos.column
  column_le : ∃ l, (t.splitOn '\n')[pos.line - 1]? = some l ∧ pos.column ≤ l.length + 1
  offset_eq : p = Text.lengthOfLines ((t.splitOn '\n').take (pos.line - 1)) + (pos.column - 1)

theorem Locates.unique {t : Text} {pos : Position} {p p' : Nat} (h : Locates t pos p)
    (h' : Locates t pos p') : p = p' := by
  rw [h.offset_eq, h'.offset_eq]

theorem exists_lines (before : Text) : ∃ lines last, before.splitOn '\n' = lines ++ [last] ∧
    after before = ⟨lines.length + 1, last.length + 1⟩ ∧
    before.length = Text.lengthOfLines lines + last.length := by
  induction before using List.reverseRecOn with
  | nil => exact ⟨[], [], rfl, rfl, rfl⟩
  | append_singleton before c ih =>
    obtain ⟨lines, last, hsplit, hafter, hlen⟩ := ih
    by_cases hc : c = '\n'
    · subst hc
      refine ⟨lines ++ [last], [], ?_, ?_, ?_⟩
      · rw [List.splitOn_append_cons_self, hsplit, List.splitOn_nil]
      · rw [after_concat_newline, hafter, List.length_append]
        rfl
      · rw [List.length_append, hlen, Text.lengthOfLines_append]
        rfl
    · refine ⟨lines, last ++ [c], ?_, ?_, ?_⟩
      · have hone : [c].splitOn '\n' = [[c]] := List.splitOn_eq_singleton (by simp [Ne.symm hc])
        exact Text.splitOn_append hsplit hone
      · rw [after_concat hc, hafter, List.length_append]
        rfl
      · rw [List.length_append, hlen, List.length_append, Nat.add_assoc]

theorem locates_ofOffset {t : Text} {p : Nat} (hp : p ≤ t.length) : Locates t (ofOffset t p) p := by
  obtain ⟨lines, last, hsplit, hafter, hlen⟩ := exists_lines (t.take p)
  rcases hrest : (t.drop p).splitOn '\n' with - | ⟨first, more⟩
  · exact absurd hrest (List.splitOn_ne_nil '\n' _)
  have hlines := Text.splitOn_append hsplit hrest
  rw [List.take_append_drop] at hlines
  have htake : (t.splitOn '\n').take lines.length = lines := by
    rw [hlines, List.take_left]
  rw [List.length_take_of_le hp] at hlen
  rw [ofOffset, hafter]
  refine ⟨Nat.le_add_left 1 _, Nat.le_add_left 1 _, ⟨last ++ first, ?_, ?_⟩, ?_⟩
  · rw [hlines, Nat.add_sub_cancel, List.getElem?_append_right (Nat.le_refl _), Nat.sub_self,
      List.getElem?_cons_zero]
  · show last.length + 1 ≤ (last ++ first).length + 1
    rw [List.length_append]
    omega
  · rw [Nat.add_sub_cancel, Nat.add_sub_cancel, htake, ← hlen]

theorem ofOffset_append (before rest : Text) :
    ofOffset (before ++ rest) before.length = after before := by
  rw [ofOffset, List.take_left]

theorem ofOffset_inj {t : Text} {p p' : Nat} (hp : p ≤ t.length) (hp' : p' ≤ t.length)
    (h : ofOffset t p = ofOffset t p') : p = p' := by
  have hlocates := locates_ofOffset hp
  rw [h] at hlocates
  exact hlocates.unique (locates_ofOffset hp')

end Position

end ScopedSheets
