import ScopedSheets.Proofs.Sheet.Appending
import ScopedSheets.Proofs.Sheet.MarkerEnd

/-!
# Opening markers in a body

A block is nested when an opening marker lies wholly inside a body. A marker may also begin in the body and
end behind it, and then all that it takes from the closing marker is the first slash
(`OpeningAt.end_le_of_closing`). So a marker that begins in a body is overlooked exactly when the body ends
with all of a marker but its last slash (`no_opening_in_body_iff`).
-/

namespace ScopedSheets

theorem dropLast_of_prefix_append {p a b : Text} (h : p <+: a ++ b) (hlen : p.length = a.length + 1) :
    p.dropLast = a := by
  obtain ⟨rest, hrest⟩ := h
  have hne : p ≠ [] := by
    intro hp
    rw [hp] at hlen
    simp at hlen
  rw [← List.dropLast_concat_getLast hne, List.append_assoc] at hrest
  have hsame : p.dropLast.length = a.length := by
    rw [List.length_dropLast]
    omega
  exact (List.append_inj hrest hsame).1

theorem Opening.dropLast_text (m : Opening) : m.text.dropLast
    = "/*".toList ++ m.lead ++ "SCOPE".toList ++ m.gap ++ m.name ++ m.trail ++ ['*'] := by
  have hw : m.text = ("/*".toList ++ m.lead ++ "SCOPE".toList ++ m.gap ++ m.name ++ m.trail ++ ['*'])
      ++ ['/'] := by
    simp [text]
  rw [hw, List.dropLast_concat]

theorem Opening.text_eq_dropLast_append (m : Opening) : m.text = m.text.dropLast ++ ['/'] := by
  rw [dropLast_text]
  simp [text]

theorem Opening.getLast?_dropLast (m : Opening) : m.text.dropLast.getLast? = some '*' := by
  rw [dropLast_text, List.getLast?_concat]

theorem Opening.length_dropLast_pos (m : Opening) : 0 < m.text.dropLast.length := by
  rw [dropLast_text, List.length_append, List.length_singleton]
  omega

/-- The body of the block `b` stands at offset `i` of `t`: the opening marker of the block ends there, and
its closing marker begins where the body ends. -/
structure Block.BodyAt (t : Text) (b : Block) (i : Nat) : Prop where
  opening : ∃ m, m.name = b.name ∧ OpeningAt t b.start m ∧ b.start + m.text.length = i
  body : b.body <+: t.drop i
  closing : ∃ n, ClosingAt t (i + b.body.length) n ∧ b.stop = i + b.body.length + n.text.length

theorem exists_bodyAt_of_mem_findBlocks {t : Text} {b : Block} (h : b ∈ (findBlocks t).1) :
    ∃ i, b.BodyAt t i ∧ ∀ m : Opening, m.WellFormed → ¬ m.text <:+: b.body := by
  obtain ⟨rest, hbegins, _⟩ := begins_layout t
  have hmem : b ∈ blocksFrom 0 (layout t).1 := h
  obtain ⟨before, s, after, hsections, rfl⟩ := mem_blocksFrom hmem
  obtain ⟨hopening, hclosing, hintact⟩ := hbegins.stands before s after hsections
  rw [Nat.zero_add]
  have hfront : (before.flatMap Section.text ++ (s.gap ++ s.opening.text)).length
      = (before.flatMap Section.text).length + (s.gap ++ s.opening.text).length :=
    List.length_append ..
  have ht : t = (before.flatMap Section.text ++ (s.gap ++ s.opening.text))
      ++ (s.body ++ (s.closing.text ++ (after.flatMap Section.text ++ rest))) := by
    conv => lhs; rw [hbegins.text_eq, hsections]
    simp [Section.text]
  refine ⟨(before.flatMap Section.text).length + (s.gap ++ s.opening.text).length,
    ⟨⟨s.opening, rfl, hopening.marker, ?_⟩, ?_, ⟨s.closing, hclosing.marker, ?_⟩⟩, hintact⟩
  · show (before.flatMap Section.text).length + s.gap.length + s.opening.text.length = _
    rw [List.length_append]
    omega
  · rw [← hfront]
    conv => rhs; rw [ht]
    rw [List.drop_left]
    exact List.prefix_append _ _
  · show (before.flatMap Section.text).length + s.text.length = _ + s.body.length + _
    simp only [Section.text, List.length_append]
    omega

section

variable {t : Text} {b : Block} {i k : Nat} {m : Opening}

theorem Block.BodyAt.dropLast_suffix (h : b.BodyAt t i) (hnone : ¬ m.text <:+: b.body)
    (hm : OpeningAt t k m) (hi : i ≤ k) (hk : k < i + b.body.length) :
    m.text.dropLast <:+ b.body := by
  obtain ⟨n, hclosing, _⟩ := h.closing
  obtain ⟨tail, htail⟩ := h.body
  have hend := hm.end_le_of_closing hclosing hk
  obtain ⟨j, rfl⟩ := Nat.exists_eq_add_of_le hi
  have hj : j < b.body.length := by omega
  have hdrop : t.drop (i + j) = b.body.drop j ++ tail := by
    rw [← List.drop_drop, ← htail, List.drop_append_of_le_length (by omega)]
  have hread : m.text <+: b.body.drop j ++ tail := by
    rw [← hdrop]
    exact hm.2
  have hlen : (b.body.drop j).length = b.body.length - j := List.length_drop ..
  have hlong : ¬ m.text.length ≤ (b.body.drop j).length := by
    intro hle
    have hin := List.prefix_of_prefix_length_le hread (List.prefix_append _ tail) hle
    exact hnone (hin.isInfix.trans (List.drop_suffix j b.body).isInfix)
  rw [dropLast_of_prefix_append hread (by omega)]
  exact List.drop_suffix j b.body

theorem Block.BodyAt.exists_openingAt (h : b.BodyAt t i) (hm : m.WellFormed)
    (hsuffix : m.text.dropLast <:+ b.body) :
    ∃ k, OpeningAt t k m ∧ i ≤ k ∧ k < i + b.body.length := by
  obtain ⟨front, hfront⟩ := hsuffix
  obtain ⟨n, hclosing, _⟩ := h.closing
  obtain ⟨tail, htail⟩ := h.body
  obtain ⟨after, hafter⟩ := hclosing.2
  have hlen : front.length + m.text.dropLast.length = b.body.length := by
    rw [← List.length_append, hfront]
  have hpos := m.length_dropLast_pos
  have hslash : tail = ['/'] ++ ('*' :: (n.lead ++ ("END".toList ++ (n.trail ++ ("*/".toList ++ after))))) := by
    rw [← List.drop_drop, ← htail, List.drop_left, Closing.text_append] at hafter
    exact hafter.symm
  have hdrop : t.drop (i + front.length) = m.text.dropLast ++ tail := by
    rw [← List.drop_drop, ← htail, ← hfront, List.append_assoc, List.drop_left]
  refine ⟨i + front.length, ⟨hm, ?_⟩, by omega, by omega⟩
  rw [hdrop, hslash, ← List.append_assoc, ← m.text_eq_dropLast_append]
  exact List.prefix_append _ _

end

/-- No opening marker of the sheet begins in the body of a block that is found, exactly when the body does not
end with an opening marker that only lacks its last slash. -/
theorem no_opening_in_body_iff {t : Text} {b : Block} (h : b ∈ (findBlocks t).1) :
    ∃ i, b.BodyAt t i ∧
      ((∀ k m, i ≤ k → k < i + b.body.length → ¬ OpeningAt t k m) ↔
        ¬ ∃ m : Opening, m.WellFormed ∧ m.text.dropLast <:+ b.body) := by
  obtain ⟨i, hbody, hintact⟩ := exists_bodyAt_of_mem_findBlocks h
  refine ⟨i, hbody, ?_⟩
  constructor
  · intro hnone hends
    obtain ⟨m, hm, hsuffix⟩ := hends
    obtain ⟨k, hk, hi, hlt⟩ := hbody.exists_openingAt hm hsuffix
    exact hnone k m hi hlt hk
  · intro hends k m hi hlt hm
    exact hends ⟨m, hm.1, hbody.dropLast_suffix (hintact m hm.1) hm hi hlt⟩

theorem no_opening_in_body_iff_blank :
    (⟨"a".toList, " /*SCOPE b * ".toList, 0, 33⟩ : Block)
      ∈ (findBlocks "/*SCOPE a*/ /*SCOPE b * /* END */".toList).1 ∧
    ∃ i, (⟨"a".toList, " /*SCOPE b * ".toList, 0, 33⟩ : Block).BodyAt
        "/*SCOPE a*/ /*SCOPE b * /* END */".toList i ∧
      ∀ k m, i ≤ k → k < i + 13 → ¬ OpeningAt "/*SCOPE a*/ /*SCOPE b * /* END */".toList k m := by
  have hfound : (⟨"a".toList, " /*SCOPE b * ".toList, 0, 33⟩ : Block)
      ∈ (findBlocks "/*SCOPE a*/ /*SCOPE b * /* END */".toList).1 := by decide +kernel
  obtain ⟨i, hbody, hiff⟩ := no_opening_in_body_iff hfound
  refine ⟨hfound, i, hbody, hiff.2 ?_⟩
  intro hends
  obtain ⟨m, _, front, hfront⟩ := hends
  -- a marker without its last slash ends with a star, and the body with a blank
  have hlast := congrArg List.getLast? hfront
  rw [List.getLast?_append, m.getLast?_dropLast] at hlast
  nomatch hlast

/-- Without the blank the marker in the body ends with the slash of the closing marker, and the block is found
with the marker in it. -/
theorem nested_marker_shares_slash :
    findBlocks "/*SCOPE a*/ /*SCOPE b */* END */".toList
      = ([⟨"a".toList, " /*SCOPE b *".toList, 0, 32⟩], none) ∧
    (⟨"a".toList, " /*SCOPE b *".toList, 0, 32⟩ : Block).BodyAt
      "/*SCOPE a*/ /*SCOPE b */* END */".toList 11 ∧
    OpeningAt "/*SCOPE a*/ /*SCOPE b */* END */".toList 12 ⟨[], [' '], ['b'], [' ']⟩ := by
  have hfound : findBlocks "/*SCOPE a*/ /*SCOPE b */* END */".toList
      = ([⟨"a".toList, " /*SCOPE b *".toList, 0, 32⟩], none) := by decide +kernel
  have hopening : OpeningAt "/*SCOPE a*/ /*SCOPE b */* END */".toList 0 ⟨[], [' '], ['a'], []⟩ :=
    ⟨⟨by decide, by decide, by decide, by decide, by decide, by decide⟩, by decide⟩
  have hclosing : ClosingAt "/*SCOPE a*/ /*SCOPE b */* END */".toList 23 ⟨[' '], [' ']⟩ :=
    ⟨⟨by decide, by decide, by decide, by decide⟩, by decide⟩
  refine ⟨hfound, ⟨⟨_, rfl, hopening, by decide⟩, by decide, ⟨_, hclosing, by decide⟩⟩, ?_⟩
  exact ⟨⟨by decide, by decide, by decide, by decide, by decide, by decide⟩, by decide⟩

end ScopedSheets
