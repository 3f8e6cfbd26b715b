import ScopedSheets.Proofs.Fragment.Reading
import ScopedSheets.Proofs.Sheet.Division

/-!
# Where an opening marker ends

An opening marker is written as a comment, but a comment ends at its first closer, and the name of a marker
is as long as it can be: it may run on past a closer, through rules and further comments, up to a later one.
A marker is one comment when its name holds no closer (`Opening.endsOnce_iff`). That is so exactly where
only one marker can be read and the name does not begin with the closer
(`block_marker_one_comment_iff`).
-/

namespace ScopedSheets

open Text (isBlank)

theorem hasCloser_append_of_no_star {a b : Text} (h : '*' ∉ a) :
    HasCloser (a ++ b) ↔ HasCloser b := by
  induction a with
  | nil => rfl
  | cons c a ih =>
    rw [List.mem_cons, not_or] at h
    rw [List.cons_append, hasCloser_cons_iff, ih h.2]
    constructor
    · rintro (⟨hc, _⟩ | hb)
      · exact absurd hc.symm h.1
      · exact hb
    · exact Or.inr

theorem hasCloser_append_of_no_slash {a b : Text} (h : '/' ∉ b) :
    HasCloser (a ++ b) ↔ HasCloser a := by
  have hhead : b.head? ≠ some '/' := by
    intro hb
    exact h (List.mem_of_mem_head? hb)
  have hnone : ¬ HasCloser b := by
    intro hb
    exact h (hb.subset (by simp))
  induction a with
  | nil => exact iff_of_false hnone not_hasCloser_nil
  | cons c a ih =>
    have hsame : (a ++ b).head? = some '/' ↔ a.head? = some '/' := by
      cases a with
      | nil => exact iff_of_false hhead (by simp)
      | cons d a => rfl
    rw [List.cons_append, hasCloser_cons_iff, hasCloser_cons_iff (t := a), hsame]
    exact or_congr_right ih

theorem closers_at_end_iff {t : Text} :
    (∀ k, ['*', '/'] <+: t.drop k → k + 2 = t.length) ↔ ¬ HasCloser t.dropLast := by
  constructor
  · rintro h ⟨a, b, hab⟩
    have ht : t ≠ [] := by
      rintro rfl
      simp at hab
    have hsplit := List.dropLast_concat_getLast ht
    rw [← hab] at hsplit
    have hlen := congrArg List.length hsplit
    have hk := h a.length (by rw [← hsplit]; simp)
    simp only [List.length_append, List.length_cons, List.length_nil] at hlen
    omega
  · rintro h k ⟨after, hafter⟩
    have hsplit := List.take_append_drop k t
    have hlen := congrArg List.length hafter
    rw [List.length_append, List.length_drop, List.length_cons, List.length_singleton] at hlen
    rcases List.eq_nil_or_concat after with rfl | ⟨init, c, rfl⟩
    · rw [List.length_nil] at hlen
      omega
    · refine absurd ⟨t.take k, init, ?_⟩ h
      have ht : t = (t.take k ++ ['*', '/'] ++ init) ++ [c] := by
        conv => lhs; rw [← hsplit, ← hafter]
        simp
      exact (ht ▸ List.dropLast_concat).symm

namespace Opening

variable {m m' : Opening}

def EndsOnce (m : Opening) : Prop := ∀ k, ['*', '/'] <+: m.text.drop k → k + 2 = m.text.length

theorem endsOnce_iff (h : m.WellFormed) : m.EndsOnce ↔ ¬ HasCloser m.name := by
  have hsplit : m.text.dropLast = '/' :: '*' ::
      ((m.lead ++ "SCOPE".toList ++ m.gap) ++ (m.name ++ (m.trail ++ ['*']))) := by
    have hw : m.text = '/' :: '*' ::
        ((m.lead ++ "SCOPE".toList ++ m.gap) ++ (m.name ++ (m.trail ++ ['*']))) ++ ['/'] := by
      simp [text]
    rw [hw, List.dropLast_concat]
  have hfront : '*' ∉ m.lead ++ "SCOPE".toList ++ m.gap := by
    have hstar : isBlank '*' = false := by decide
    have hlead := not_mem_of_all_blank hstar h.lead_blank
    have hgap := not_mem_of_all_blank hstar h.gap_blank
    simp [hlead, hgap]
  have htrail : '/' ∉ m.trail ++ ['*'] := by
    have hslash : isBlank '/' = false := by decide
    have htrail := not_mem_of_all_blank hslash h.trail_blank
    simp [htrail]
  -- the star of the opener is followed by white space or by the keyword
  have hopener : ((m.lead ++ "SCOPE".toList ++ m.gap) ++ (m.name ++ (m.trail ++ ['*']))).head?
      ≠ some '/' := by
    intro hhead
    rcases hl : m.lead with - | ⟨c, lead⟩
    · rw [hl] at hhead
      simp at hhead
    · have hblank := h.lead_blank
      rw [hl] at hhead hblank
      simp only [List.cons_append, List.head?_cons, Option.some.injEq] at hhead
      subst hhead
      rw [List.all_cons, Bool.and_eq_true] at hblank
      exact absurd hblank.1 (by decide)
  have hslash : '/' ≠ '*' := by decide
  rw [EndsOnce, closers_at_end_iff, hsplit, hasCloser_cons_iff, hasCloser_cons_iff,
    hasCloser_append_of_no_star hfront, hasCloser_append_of_no_slash htrail]
  simp only [hslash, hopener, false_and, and_false, false_or]

theorem exists_shorter (h : m.WellFormed) (hcloser : HasCloser m.name)
    (hfirst : ¬ ['*', '/'] <+: m.name) :
    ∃ m' : Opening, m'.WellFormed ∧ m'.text <+: m.text ∧ m'.name.length < m.name.length := by
  obtain ⟨name, more, hname⟩ := hcloser
  have hne : name ≠ [] := by
    rintro rfl
    exact hfirst ⟨more, hname⟩
  have hsolid : name.all (!isBlank ·) := by
    have hall := h.name_solid
    rw [← hname, List.append_assoc, List.all_append, Bool.and_eq_true] at hall
    exact hall.1
  refine ⟨⟨m.lead, m.gap, name, []⟩,
    ⟨h.lead_blank, h.gap_blank, h.gap_ne_nil, hsolid, hne, rfl⟩, ?_, ?_⟩
  · refine ⟨more ++ m.trail ++ "*/".toList, ?_⟩
    simp [text, ← hname]
  · have hlen := congrArg List.length hname
    rw [List.length_append, List.length_append, List.length_cons] at hlen
    show name.length < m.name.length
    omega

theorem eq_of_not_hasCloser {rest rest' : Text} (h : m.WellFormed) (h' : m'.WellFormed)
    (ht : m.text ++ rest = m'.text ++ rest') (hlen : m'.name.length ≤ m.name.length)
    (hnone : ¬ HasCloser m.name) : m' = m := by
  obtain ⟨_, _, hnames⟩ := lead_gap_eq h h' ht
  rcases List.append_eq_append_iff.1 hnames with ⟨w, hname', _⟩ | ⟨w, hname, hafter⟩
  · -- the other name is at least as long, so both are equal
    have hsame : m.name.length = m'.name.length := by
      have hle := congrArg List.length hname'
      rw [List.length_append] at hle
      omega
    exact (eq_of_length_name_eq h h' ht hsame).1.symm
  · cases w with
    | nil =>
      have hsame : m.name.length = m'.name.length := by rw [hname, List.append_nil]
      exact (eq_of_length_name_eq h h' ht hsame).1.symm
    | cons c w =>
      have hc : isBlank c = false := by
        have hall := List.all_eq_true.1 h.name_solid c (by rw [hname]; simp)
        simpa using hall
      -- what follows the shorter name is its closer, and the longer name goes on through it
      rcases htrail : m'.trail with - | ⟨d, trail⟩
      · rw [htrail, List.nil_append, List.cons_append, List.cons.injEq] at hafter
        obtain ⟨rfl, hslash⟩ := hafter
        cases w with
        | nil =>
          rcases hmtrail : m.trail with - | ⟨d, trail⟩
          · rw [hmtrail] at hslash
            simp at hslash
          · have hblank := List.all_eq_true.1 h.trail_blank d (by rw [hmtrail]; simp)
            rw [hmtrail] at hslash
            obtain ⟨rfl, _⟩ := List.cons.inj hslash
            nomatch hblank
        | cons d w =>
          obtain ⟨rfl, _⟩ := List.cons.inj hslash
          exact absurd ⟨m'.name, w, by rw [hname]; simp⟩ hnone
      · have hblank := List.all_eq_true.1 h'.trail_blank d (by rw [htrail]; simp)
        rw [htrail, List.cons_append, List.cons_append, List.cons.injEq] at hafter
        obtain ⟨rfl, _⟩ := hafter
        rw [hblank] at hc
        nomatch hc

end Opening

theorem not_hasCloser_iff_unique {t : Text} {o : Nat} {m : Opening} (h : OpeningAt t o m)
    (hlongest : ∀ m', OpeningAt t o m' → m'.name.length ≤ m.name.length) :
    ¬ HasCloser m.name ↔ (∀ m', OpeningAt t o m' → m' = m) ∧ ¬ ['*', '/'] <+: m.name := by
  constructor
  · intro hnone
    refine ⟨?_, fun hfirst => hnone hfirst.isInfix⟩
    intro m' hm'
    obtain ⟨rest, hrest⟩ := h.2
    obtain ⟨rest', hrest'⟩ := hm'.2
    exact Opening.eq_of_not_hasCloser h.1 hm'.1 (hrest.trans hrest'.symm) (hlongest m' hm') hnone
  · rintro ⟨hunique, hfirst⟩ hcloser
    obtain ⟨m', hm', hpre, hlt⟩ := Opening.exists_shorter h.1 hcloser hfirst
    have hsame := hunique m' ⟨hm', hpre.trans h.2⟩
    rw [hsame] at hlt
    exact Nat.lt_irrefl _ hlt

theorem mem_blocksFrom {offset : Nat} {ss : List Section} {b : Block} (h : b ∈ blocksFrom offset ss) :
    ∃ before s after, ss = before ++ s :: after ∧
      b = s.block (offset + (before.flatMap Section.text).length) := by
  induction ss generalizing offset with
  | nil => simp [blocksFrom] at h
  | cons s ss ih =>
    rcases List.mem_cons.1 h with rfl | h
    · exact ⟨[], s, ss, rfl, rfl⟩
    · obtain ⟨before, s', after, rfl, rfl⟩ := ih h
      refine ⟨s :: before, s', after, rfl, ?_⟩
      rw [List.flatMap_cons, List.length_append, Nat.add_assoc]

theorem exists_marker_of_mem_findBlocks {t : Text} {b : Block} (h : b ∈ (findBlocks t).1) :
    ∃ m, m.name = b.name ∧ OpeningAt t b.start m ∧ m.text ++ b.body <+: t.drop b.start ∧
      ∀ m', OpeningAt t b.start m' → m'.name.length ≤ m.name.length := by
  obtain ⟨rest, hbegins, _⟩ := begins_layout t
  obtain ⟨before, s, after, hsections, rfl⟩ := mem_blocksFrom (show b ∈ blocksFrom 0 (layout t).1 from h)
  obtain ⟨hfirst, hlongest⟩ := (hbegins.stands before s after hsections).opening
  rw [Nat.zero_add]
  refine ⟨s.opening, rfl, hfirst.marker, ?_, hlongest⟩
  have ht : t = (before.flatMap Section.text ++ s.gap) ++ ((s.opening.text ++ s.body)
      ++ (s.closing.text ++ (after.flatMap Section.text ++ rest))) := by
    conv => lhs; rw [hbegins.text_eq, hsections]
    simp [Section.text]
  have hstart : (s.block (before.flatMap Section.text).length).start
      = (before.flatMap Section.text ++ s.gap).length := (List.length_append ..).symm
  rw [hstart, ht, List.drop_left]
  exact List.prefix_append _ _

/-- The marker of a block is one comment, and its name without a comment closer, exactly when no other
marker can be read at its place and the name does not begin with a closer. -/
theorem block_marker_one_comment_iff {t : Text} {b : Block} (h : b ∈ (findBlocks t).1) :
    ∃ m, m.name = b.name ∧ OpeningAt t b.start m ∧ m.text ++ b.body <+: t.drop b.start ∧
      (m.EndsOnce ∧ ¬ HasCloser b.name ↔
        (∀ m', OpeningAt t b.start m' → m' = m) ∧ ¬ ['*', '/'] <+: b.name) := by
  obtain ⟨m, hname, hm, hbody, hlongest⟩ := exists_marker_of_mem_findBlocks h
  refine ⟨m, hname, hm, hbody, ?_⟩
  rw [← hname, Opening.endsOnce_iff hm.1, and_self_iff]
  exact not_hasCloser_iff_unique hm hlongest

theorem block_marker_one_comment_iff_tight :
    (⟨"a".toList, " b/**/ ".toList, 0, 27⟩ : Block)
      ∈ (findBlocks "/*SCOPE a*/ b/**/ /* END */".toList).1 ∧
    ∃ m, m.name = "a".toList ∧ OpeningAt "/*SCOPE a*/ b/**/ /* END */".toList 0 m ∧ m.EndsOnce ∧
      ∀ m', OpeningAt "/*SCOPE a*/ b/**/ /* END */".toList 0 m' → m' = m := by
  have hfound : (⟨"a".toList, " b/**/ ".toList, 0, 27⟩ : Block)
      ∈ (findBlocks "/*SCOPE a*/ b/**/ /* END */".toList).1 := by decide +kernel
  obtain ⟨m, hname, hm, _, hiff⟩ := block_marker_one_comment_iff hfound
  have hnone : ¬ HasCloser "a".toList := by
    unfold HasCloser
    decide
  have honce : m.EndsOnce := (Opening.endsOnce_iff hm.1).2 (hname ▸ hnone)
  exact ⟨hfound, m, hname, hm, honce, (hiff.1 ⟨honce, hnone⟩).1⟩

/-- Without a blank between them the marker goes on through a rule to the end of the next comment. -/
theorem marker_swallows_rule :
    findBlocks "/*SCOPE a*/x\x7b\x7d/*b*/ y\x7b\x7d /* END */".toList
      = ([⟨"a*/x\x7b\x7d/*b".toList, " y\x7b\x7d ".toList, 0, 33⟩], none) ∧
    HasCloser "a*/x\x7b\x7d/*b".toList ∧
    ∃ m, m.name = "a*/x\x7b\x7d/*b".toList ∧
      OpeningAt "/*SCOPE a*/x\x7b\x7d/*b*/ y\x7b\x7d /* END */".toList 0 m ∧ ¬ m.EndsOnce := by
  have hfound : findBlocks "/*SCOPE a*/x\x7b\x7d/*b*/ y\x7b\x7d /* END */".toList
      = ([⟨"a*/x\x7b\x7d/*b".toList, " y\x7b\x7d ".toList, 0, 33⟩], none) := by decide +kernel
  have hcloser : HasCloser "a*/x\x7b\x7d/*b".toList := ⟨['a'], "x\x7b\x7d/*b".toList, by decide⟩
  obtain ⟨m, hname, hm, _, _⟩ :=
    exists_marker_of_mem_findBlocks (by rw [hfound]; exact List.mem_cons_self ..)
  refine ⟨hfound, hcloser, m, hname, hm, ?_⟩
  rw [Opening.endsOnce_iff hm.1, not_not, hname]
  exact hcloser

end ScopedSheets
