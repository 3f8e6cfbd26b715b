import ScopedSheets.Proofs.Sheet.Marker
import ScopedSheets.Sheet

/-!
# The division of a sheet into blocks

A sheet without fault is ordinary text with blocks in it, and which text is which is settled by the
markers alone: a block opens where the first opening marker stands, with the longest name that can be
read there, it closes at the first closing marker after that, and no opening marker lies in between. There
is at most one such division (`layout_eq_plain_iff`), the blocks found are its blocks, and scoping
replaces their bodies.
-/

namespace ScopedSheets

/-- At offset `i` of `t` the section `s` stands as the markers of `t` require: no opening marker begins in
its gap, its own is the longest that can be read there, no closing marker begins in its body, and no
opening marker lies wholly inside its body. -/
structure Section.StandsAt (t : Text) (i : Nat) (s : Section) : Prop where
  opening : FirstOpening t i (i + s.gap.length) s.opening
  closing : FirstClosing t (i + (s.gap ++ s.opening.text).length)
    (i + (s.gap ++ s.opening.text).length + s.body.length) s.closing
  body_intact : ∀ m : Opening, m.WellFormed → ¬ m.text <:+: s.body

/-- The text `t` begins with the sections `ss`, each as the markers of `t` require, and `rest` follows
them. -/
structure Begins (t : Text) (ss : List Section) (rest : Text) : Prop where
  text_eq : t = ss.flatMap Section.text ++ rest
  stands : ∀ before s after, ss = before ++ s :: after →
    s.StandsAt t (before.flatMap Section.text).length

/-- The text `t` is the sections `ss`, each as the markers of `t` require, and then `last`, in which no
opening marker begins. -/
structure Divides (t : Text) (ss : List Section) (last : Text) : Prop extends Begins t ss last where
  last_plain : ∀ k, (ss.flatMap Section.text).length ≤ k → ∀ m, ¬ OpeningAt t k m

theorem findOpening?_eq_none_iff_infix {t : Text} :
    findOpening? t = none ↔ ∀ m : Opening, m.WellFormed → ¬ m.text <:+: t := by
  rw [findOpening?_eq_none_iff]
  constructor
  · rintro h m hm ⟨a, b, rfl⟩
    have ha : OpeningAt (a ++ (m.text ++ b)) a.length m :=
      markerAt_length.2 ⟨hm, List.prefix_append _ _⟩
    rw [← List.append_assoc] at ha
    exact h a.length m ha
  · intro h i m hm
    exact h m hm.1 (hm.2.isInfix.trans (List.drop_suffix i t).isInfix)

theorem Section.text_eq (s : Section) (rest : Text) :
    s.text ++ rest = s.gap ++ (s.opening.text ++ (s.body ++ (s.closing.text ++ rest))) := by
  simp [Section.text]

theorem Section.standsAt_append {a b : Text} {i : Nat} {s : Section} :
    s.StandsAt (a ++ b) (a.length + i) ↔ s.StandsAt b i := by
  constructor
  · rintro ⟨ho, hc, hb⟩
    rw [Nat.add_assoc] at ho
    rw [Nat.add_assoc, Nat.add_assoc, Nat.add_assoc, ← Nat.add_assoc i] at hc
    exact ⟨firstOpening_append.1 ho, firstMarker_append.1 hc, hb⟩
  · rintro ⟨ho, hc, hb⟩
    refine ⟨?_, ?_, hb⟩
    · rw [Nat.add_assoc]
      exact firstOpening_append.2 ho
    · rw [Nat.add_assoc, Nat.add_assoc, Nat.add_assoc, ← Nat.add_assoc i]
      exact firstMarker_append.2 hc

theorem firstSection_eq_ok_iff {t rest : Text} {s : Section} :
    firstSection t = .ok (s, rest) ↔ t = s.text ++ rest ∧ s.StandsAt t 0 := by
  constructor
  · intro h
    have ht := eq_of_firstSection_ok h
    refine ⟨ht, ?_⟩
    simp only [firstSection] at h
    split at h
    · simp at h
    · next gap opening rest₁ ho =>
      split at h
      · simp at h
      · next body closing rest₂ hc =>
        split at h
        · simp at h
        · next hn =>
          simp only [Except.ok.injEq, Prod.mk.injEq] at h
          obtain ⟨rfl, rfl⟩ := h
          obtain ⟨ht₁, hopening⟩ := findOpening?_eq_some_iff.1 ho
          obtain ⟨ht₂, hclosing⟩ := findClosing?_eq_some_iff.1 hc
          have hclosing := firstMarker_append (a := gap ++ opening.text).2 hclosing
          rw [List.append_assoc, ← ht₁, Nat.add_zero] at hclosing
          refine ⟨?_, ?_, findOpening?_eq_none_iff_infix.1 hn⟩
          · rw [Nat.zero_add]
            exact hopening
          · rw [Nat.zero_add]
            exact hclosing
  · rintro ⟨ht, hopening, hclosing, hbody⟩
    rw [Section.text_eq] at ht
    rw [Nat.zero_add] at hopening
    have ho := findOpening?_eq_some_iff.2 ⟨ht, hopening⟩
    rw [Nat.zero_add, ht, ← List.append_assoc] at hclosing
    have hc := findClosing?_eq_some_iff.2 ⟨rfl, firstMarker_append (i := 0).1 hclosing⟩
    simp only [firstSection, ho, hc, findOpening?_eq_none_iff_infix.2 hbody]

theorem firstSection_eq_plain_iff {t last : Text} :
    firstSection t = .error (.plain last) ↔ t = last ∧ ∀ k m, ¬ OpeningAt t k m := by
  rw [← findOpening?_eq_none_iff]
  constructor
  · intro h
    have ht := eq_of_firstSection_error h
    simp only [firstSection] at h
    split at h
    · next ho => exact ⟨ht, ho⟩
    · split at h
      · simp at h
      · split at h
        · simp at h
        · simp at h
  · rintro ⟨rfl, ho⟩
    simp only [firstSection, ho]

theorem begins_nil_iff {t rest : Text} : Begins t [] rest ↔ t = rest := by
  constructor
  · intro h
    exact h.text_eq
  · intro h
    refine ⟨h, ?_⟩
    intro before s after he
    simp at he

theorem begins_cons_iff {t rest : Text} {s : Section} {ss : List Section} :
    Begins t (s :: ss) rest ↔
      ∃ mid, t = s.text ++ mid ∧ s.StandsAt t 0 ∧ Begins mid ss rest := by
  constructor
  · rintro ⟨rfl, hstands⟩
    have hs := hstands [] s ss rfl
    rw [List.flatMap_cons, List.append_assoc] at *
    refine ⟨ss.flatMap Section.text ++ rest, rfl, hs, rfl, ?_⟩
    rintro before s' after rfl
    have h := hstands (s :: before) s' after rfl
    rw [List.flatMap_cons, List.length_append] at h
    exact Section.standsAt_append.1 h
  · rintro ⟨mid, rfl, hs, rfl, hstands⟩
    refine ⟨?_, ?_⟩
    · rw [List.flatMap_cons, List.append_assoc]
    · intro before s' after he
      rcases List.cons_eq_append_iff.1 he with ⟨rfl, he'⟩ | ⟨before', rfl, he'⟩
      · obtain ⟨rfl, -⟩ := List.cons.inj he'
        exact hs
      · rw [List.flatMap_cons, List.length_append]
        exact Section.standsAt_append.2 (hstands before' s' after he')

theorem Begins.concat {t rest rest' : Text} {s : Section} {ss : List Section}
    (h : Begins t ss rest) (hs : firstSection rest = .ok (s, rest')) :
    Begins t (ss ++ [s]) rest' := by
  obtain ⟨hrest, hstands⟩ := firstSection_eq_ok_iff.1 hs
  induction ss generalizing t with
  | nil =>
    rw [begins_nil_iff] at h
    rw [List.nil_append, begins_cons_iff, h]
    exact ⟨rest', hrest, hstands, begins_nil_iff.2 rfl⟩
  | cons s' ss ih =>
    obtain ⟨mid, ht, hs', hmid⟩ := begins_cons_iff.1 h
    rw [List.cons_append, begins_cons_iff]
    exact ⟨mid, ht, hs', ih hmid⟩

theorem Begins.layout_eq {t rest : Text} {ss : List Section} (h : Begins t ss rest) :
    layout t = (ss ++ (layout rest).1, (layout rest).2) := by
  induction ss generalizing t with
  | nil =>
    rw [begins_nil_iff] at h
    rw [h, List.nil_append]
  | cons s ss ih =>
    obtain ⟨mid, ht, hs, hmid⟩ := begins_cons_iff.1 h
    have hfirst := firstSection_eq_ok_iff.2 ⟨ht, hs⟩
    rw [layout_of_ok hfirst, ih hmid, List.cons_append]

theorem begins_layout (t : Text) :
    ∃ rest, Begins t (layout t).1 rest ∧ firstSection rest = .error (layout t).2 := by
  fun_induction layout t with
  | case1 t ending h => exact ⟨t, begins_nil_iff.2 rfl, h⟩
  | case2 t s rest h _ ih =>
    obtain ⟨rest', hbegins, hend⟩ := ih
    obtain ⟨ht, hs⟩ := firstSection_eq_ok_iff.1 h
    exact ⟨rest', begins_cons_iff.2 ⟨rest, ht, hs, hbegins⟩, hend⟩

theorem Begins.divides_iff {t last : Text} {ss : List Section} (h : Begins t ss last) :
    Divides t ss last ↔ ∀ k m, ¬ OpeningAt last k m := by
  have ht := h.text_eq
  constructor
  · intro hd k m hm
    refine hd.last_plain ((ss.flatMap Section.text).length + k) (Nat.le_add_right _ _) m ?_
    rw [ht]
    exact markerAt_append.2 hm
  · intro hlast
    refine ⟨h, ?_⟩
    intro k hk m hm
    obtain ⟨k, rfl⟩ := Nat.exists_eq_add_of_le hk
    rw [ht] at hm
    exact hlast k m (markerAt_append.1 hm)

theorem layout_eq_plain_iff {t last : Text} {ss : List Section} :
    layout t = (ss, .plain last) ↔ Divides t ss last := by
  constructor
  · intro h
    obtain ⟨rest, hbegins, hend⟩ := begins_layout t
    rw [h] at hbegins hend
    obtain ⟨rfl, hlast⟩ := firstSection_eq_plain_iff.1 hend
    exact hbegins.divides_iff.2 hlast
  · intro h
    have hlast := h.toBegins.divides_iff.1 h
    have hend := layout_of_error (firstSection_eq_plain_iff.2 ⟨rfl, hlast⟩)
    rw [h.toBegins.layout_eq, hend, List.append_nil]

/-- The blocks `bs` are those of the sections `ss`: each has the name and the body of its section, starts
where the opening marker starts and stops where the closing marker ends. -/
structure BlocksOf (ss : List Section) (bs : List Block) : Prop where
  length_eq : bs.length = ss.length
  block : ∀ before s after, ss = before ++ s :: after →
    bs[before.length]? = some ⟨s.opening.name, s.body, (before.flatMap Section.text ++ s.gap).length,
      (before.flatMap Section.text ++ s.text).length⟩

theorem length_blocksFrom (offset : Nat) (ss : List Section) :
    (blocksFrom offset ss).length = ss.length := by
  induction ss generalizing offset with
  | nil => rfl
  | cons s ss ih => rw [blocksFrom, List.length_cons, List.length_cons, ih]

theorem blocksFrom_append (offset : Nat) (ss ss' : List Section) : blocksFrom offset (ss ++ ss')
    = blocksFrom offset ss ++ blocksFrom (offset + (ss.flatMap Section.text).length) ss' := by
  induction ss generalizing offset with
  | nil => simp [blocksFrom]
  | cons s ss ih =>
    rw [List.cons_append, blocksFrom, blocksFrom, ih, List.cons_append, List.flatMap_cons,
      List.length_append, Nat.add_assoc]

theorem blocksOf_blocksFrom (ss : List Section) : BlocksOf ss (blocksFrom 0 ss) := by
  refine ⟨length_blocksFrom 0 ss, ?_⟩
  rintro before s after rfl
  have hlen := length_blocksFrom 0 before
  rw [blocksFrom_append, Nat.zero_add, blocksFrom, List.getElem?_append_right (by omega), hlen,
    Nat.sub_self, List.getElem?_cons_zero, Section.block, List.length_append, List.length_append]

theorem BlocksOf.unique {ss : List Section} {bs bs' : List Block} (h : BlocksOf ss bs)
    (h' : BlocksOf ss bs') : bs = bs' := by
  apply List.ext_getElem?
  intro i
  by_cases hi : i < ss.length
  · have hsplit : ss = ss.take i ++ ss[i] :: ss.drop (i + 1) := by
      rw [List.getElem_cons_drop, List.take_append_drop]
    have hlen : (ss.take i).length = i := List.length_take_of_le (by omega)
    have hb := h.block _ _ _ hsplit
    have hb' := h'.block _ _ _ hsplit
    rw [hlen] at hb hb'
    rw [hb, hb']
  · have hl := h.length_eq
    have hl' := h'.length_eq
    rw [List.getElem?_eq_none (by omega), List.getElem?_eq_none (by omega)]

theorem findBlocks_eq_none_iff {t : Text} {bs : List Block} : findBlocks t = (bs, none) ↔
    ∃ ss last, layout t = (ss, .plain last) ∧ blocksFrom 0 ss = bs := by
  rcases hl : layout t with ⟨ss, last | ⟨fault, gap, rest⟩⟩
  · simp [findBlocks, hl, Ending.error?]
  · simp [findBlocks, hl, Ending.error?]

theorem scopeSheet_of_layout {t last : Text} {ss : List Section} (h : layout t = (ss, .plain last)) :
    scopeSheet t = .ok (ss.flatMap Section.withScope ++ last) := by
  simp only [scopeSheet, h, Ending.error?, Ending.text]

/-- The blocks of a sheet are found exactly when it can be divided, and they are the blocks of its
division. There is one division at most; scoping puts each body of it under the class of its name and
leaves every gap as it is, so a sheet without blocks stays the same. -/
theorem blocks_match_division (t : Text) :
    (∀ bs, findBlocks t = (bs, none) ↔ ∃ ss last, Divides t ss last ∧ BlocksOf ss bs) ∧
    (∀ ss last ss' last', Divides t ss last → Divides t ss' last' → ss = ss' ∧ last = last') ∧
    (∀ ss last, Divides t ss last → scopeSheet t = .ok
      (ss.flatMap (fun s => s.gap ++ applyScope ('.' :: s.opening.name) s.body) ++ last)) ∧
    (findBlocks t = ([], none) → scopeSheet t = .ok t) := by
  refine ⟨?_, ?_, ?_, ?_⟩
  · intro bs
    rw [findBlocks_eq_none_iff]
    constructor
    · rintro ⟨ss, last, hl, rfl⟩
      exact ⟨ss, last, layout_eq_plain_iff.1 hl, blocksOf_blocksFrom ss⟩
    · rintro ⟨ss, last, hd, hb⟩
      exact ⟨ss, last, layout_eq_plain_iff.2 hd, (blocksOf_blocksFrom ss).unique hb⟩
  · intro ss last ss' last' hd hd'
    have hl := layout_eq_plain_iff.2 hd
    rw [layout_eq_plain_iff.2 hd', Prod.mk.injEq, Ending.plain.injEq] at hl
    exact ⟨hl.1.symm, hl.2.symm⟩
  · intro ss last hd
    exact scopeSheet_of_layout (layout_eq_plain_iff.2 hd)
  · intro h
    obtain ⟨ss, last, hl, hb⟩ := findBlocks_eq_none_iff.1 h
    have hlen := length_blocksFrom 0 ss
    rw [hb] at hlen
    obtain rfl := List.length_eq_zero_iff.1 hlen.symm
    have ht := text_layout t
    rw [hl] at ht
    rw [scopeSheet_of_layout hl, ← ht]
    rfl

theorem blocks_match_division_one_block :
    (∃ ss last, Divides "a/* SCOPE x */b/* END */c".toList ss last ∧
      BlocksOf ss [⟨"x".toList, "b".toList, 1, 24⟩] ∧
      (∀ ss' last', Divides "a/* SCOPE x */b/* END */c".toList ss' last' → ss' = ss ∧ last' = last) ∧
      scopeSheet "a/* SCOPE x */b/* END */c".toList = .ok
        (ss.flatMap (fun s => s.gap ++ applyScope ('.' :: s.opening.name) s.body) ++ last)) ∧
    scopeSheet "a".toList = .ok "a".toList := by
  obtain ⟨hblocks, hunique, hscoped, -⟩ := blocks_match_division "a/* SCOPE x */b/* END */c".toList
  have hfirst : firstSection "a/* SCOPE x */b/* END */c".toList
      = .ok (⟨['a'], ⟨[' '], [' '], ['x'], [' ']⟩, ['b'], ⟨[' '], [' ']⟩⟩, ['c']) := rfl
  have hrest : firstSection ['c'] = .error (.plain ['c']) := rfl
  have hfound : findBlocks "a/* SCOPE x */b/* END */c".toList
      = ([⟨"x".toList, "b".toList, 1, 24⟩], none) := by
    rw [findBlocks, layout_of_ok hfirst, layout_of_error hrest]
    rfl
  obtain ⟨ss, last, hd, hb⟩ := (hblocks _).1 hfound
  have hgap : firstSection "a".toList = .error (.plain "a".toList) := rfl
  have hplain : findBlocks "a".toList = ([], none) := by
    rw [findBlocks, layout_of_error hgap]
    rfl
  exact ⟨⟨ss, last, hd, hb, fun ss' last' hd' => hunique ss' last' ss last hd' hd, hscoped ss last hd⟩,
    (blocks_match_division "a".toList).2.2.2 hplain⟩

end ScopedSheets
