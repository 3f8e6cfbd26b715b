import ScopedSheets.Proofs.Position
import ScopedSheets.Proofs.Sheet.Division

/-!
# The first fault of a sheet

Going through a sheet means to take the first opening marker, to skip its block when the marker is
complete, and to go on behind the block. A sheet is at fault when this walk meets a marker that is not
complete. The fault is found at that marker or at the one nested in it, and the text before the marker
is a sheet without fault with all the blocks found so far.
-/

namespace ScopedSheets

/-- An opening marker stands at `k`, and all of it lies between the offsets `i` and `j`. -/
def OpeningWithin (t : Text) (i j k : Nat) : Prop :=
  ∃ m, OpeningAt t k m ∧ i ≤ k ∧ k + m.text.length ≤ j

/-- The opening marker `m` at `o` is complete, with a block that ends at `stop`: a closing marker follows
it, and no opening marker lies between it and the first one that does. -/
def Complete (t : Text) (o : Nat) (m : Opening) (stop : Nat) : Prop :=
  ∃ c n, FirstClosing t (o + m.text.length) c n ∧
    (∀ k, ¬ OpeningWithin t (o + m.text.length) c k) ∧ stop = c + n.text.length

theorem Complete.unique {t : Text} {o stop stop' : Nat} {m : Opening} (h : Complete t o m stop)
    (h' : Complete t o m stop') : stop = stop' := by
  obtain ⟨c, n, hc, _, rfl⟩ := h
  obtain ⟨c', n', hc', _, rfl⟩ := h'
  obtain ⟨rfl, rfl⟩ := hc.unique hc'
  rfl

/-- The offsets that the walk through `t` comes to: the beginning, and the end of the block of each
complete marker that it meets. -/
inductive Reached (t : Text) : Nat → Prop
  | start : Reached t 0
  | block {i o stop : Nat} {m : Opening} : Reached t i → FirstOpening t i o m →
      Complete t o m stop → Reached t stop

def Meets (t : Text) (o : Nat) (m : Opening) : Prop := ∃ i, Reached t i ∧ FirstOpening t i o m

/-- The wording and the place of the fault of a marker `m` at `o` that is not complete. -/
inductive FaultAt (t : Text) (o : Nat) (m : Opening) : Text → Nat → Prop
  | unclosed : (∀ k n, o + m.text.length ≤ k → ¬ ClosingAt t k n) →
      FaultAt t o m "unclosed block".toList o
  /-- The first opening marker that lies between `m` and the first closing marker after it. -/
  | nested {c p : Nat} {n : Closing} : FirstClosing t (o + m.text.length) c n →
      OpeningWithin t (o + m.text.length) c p →
      (∀ k, k < p → ¬ OpeningWithin t (o + m.text.length) c k) →
      FaultAt t o m "nested block".toList p

theorem FaultAt.not_complete {t message : Text} {o p stop : Nat} {m : Opening}
    (h : FaultAt t o m message p) : ¬ Complete t o m stop := by
  rintro ⟨c, n, hc, hnone, _⟩
  cases h with
  | unclosed hno => exact hno c n hc.le hc.marker
  | nested hc' hin _ =>
    obtain ⟨rfl, _⟩ := hc.unique hc'
    exact hnone p hin

theorem FirstOpening.exists_around {t : Text} {i o : Nat} {m : Opening} (h : FirstOpening t i o m) :
    ∃ front gap after, t = front ++ after ∧ front.length = o + m.text.length ∧ i + gap.length = o ∧
      findOpening? (t.drop i) = some (gap, m, after) := by
  obtain ⟨after, hafter⟩ := h.marker.2
  have hend := h.marker.end_le m.length_text_pos
  have hle := h.le
  have hlead : (t.take i).length = i := List.length_take_of_le (by omega)
  have hgap : ((t.drop i).take (o - i)).length = o - i := by
    rw [List.length_take, List.length_drop]
    omega
  have ho : i + (o - i) = o := by omega
  have hrest : t.drop i = (t.drop i).take (o - i) ++ (m.text ++ after) := by
    have hdrop : t.drop o = (t.drop i).drop (o - i) := by rw [List.drop_drop, ho]
    rw [hafter, hdrop, List.take_append_drop]
  refine ⟨t.take i ++ ((t.drop i).take (o - i) ++ m.text), (t.drop i).take (o - i), after, ?_, ?_, ?_, ?_⟩
  · rw [List.append_assoc, List.append_assoc, ← hrest, List.take_append_drop]
  · rw [List.length_append, List.length_append, hlead, hgap]
    omega
  · rw [hgap, ho]
  · refine findOpening?_eq_some_iff.2 ⟨hrest, firstOpening_append (a := t.take i).1 ?_⟩
    rw [List.take_append_drop, hlead, hgap, ho, Nat.add_zero]
    exact h

theorem openingAt_body {lead body rest : Text} {k : Nat} {m : Opening} :
    OpeningAt body k m ↔ OpeningAt (lead ++ (body ++ rest)) (lead.length + k) m ∧
      lead.length + k + m.text.length ≤ lead.length + body.length := by
  have htake : (lead ++ (body ++ rest)).take (lead.length + body.length) = lead ++ body := by
    rw [← List.append_assoc, ← List.length_append, List.take_left]
  rw [← markerAt_take m.length_text_pos, htake, markerAt_append]

theorem openingWithin_body {lead body rest : Text} {j : Nat} :
    OpeningWithin (lead ++ (body ++ rest)) lead.length (lead.length + body.length) j ↔
      ∃ k m, j = lead.length + k ∧ OpeningAt body k m := by
  constructor
  · rintro ⟨m, hm, hi, hj⟩
    obtain ⟨k, rfl⟩ := Nat.exists_eq_add_of_le hi
    exact ⟨k, m, rfl, openingAt_body.2 ⟨hm, hj⟩⟩
  · rintro ⟨k, m, rfl, hm⟩
    obtain ⟨hat, hend⟩ := openingAt_body.1 hm
    exact ⟨m, hat, Nat.le_add_right _ _, hend⟩

theorem FirstOpening.step {t : Text} {i o : Nat} {m : Opening} (h : FirstOpening t i o m) :
    (∃ s stop, firstSection (t.drop i) = .ok (s, t.drop stop) ∧ Complete t o m stop) ∨
    ∃ fault gap rest, firstSection (t.drop i) = .error (.faulty fault gap rest) ∧
      FaultAt t o m fault.message (i + gap.length) := by
  obtain ⟨front, gap, after, rfl, hfront, rfl, hfind⟩ := h.exists_around
  rcases hc : findClosing? after with - | ⟨body, n, rest⟩
  · refine Or.inr ⟨.unclosed, gap, m.text ++ after, ?_, .unclosed ?_⟩
    · simp only [firstSection, hfind, hc]
    · intro k n hk hn
      rw [← hfront] at hk
      obtain ⟨k, rfl⟩ := Nat.exists_eq_add_of_le hk
      exact findClosing?_eq_none_iff.1 hc k n (markerAt_append.1 hn)
  · obtain ⟨rfl, hfirst⟩ := findClosing?_eq_some_iff.1 hc
    have hclosing := firstMarker_append (a := front).2 hfirst
    rw [Nat.add_zero] at hclosing
    rcases hn : findOpening? body with - | ⟨before, nested, tail⟩
    · have hrest : (front ++ (body ++ (n.text ++ rest))).drop
          (front.length + body.length + n.text.length) = rest := by
        rw [Nat.add_assoc, List.drop_length_add_append, List.drop_length_add_append, List.drop_left]
      refine Or.inl ⟨⟨gap, m, body, n⟩, front.length + body.length + n.text.length, ?_, ?_⟩
      · rw [hrest]
        simp only [firstSection, hfind, hc, hn]
      · rw [Complete, ← hfront]
        refine ⟨_, n, hclosing, ?_, rfl⟩
        intro k hk
        obtain ⟨k, m', rfl, hm'⟩ := openingWithin_body.1 hk
        exact findOpening?_eq_none_iff.1 hn k m' hm'
    · obtain ⟨_, hnested⟩ := findOpening?_eq_some_iff.1 hn
      have hplace : i + (gap ++ m.text ++ before).length = front.length + before.length := by
        rw [List.length_append, List.length_append, hfront]
        omega
      refine Or.inr ⟨.nested, gap ++ m.text ++ before, nested.text ++ tail ++ n.text ++ rest, ?_, ?_⟩
      · simp only [firstSection, hfind, hc, hn]
      · rw [hplace]
        rw [hfront] at hclosing
        refine .nested hclosing ?_ ?_
        · rw [← hfront]
          exact openingWithin_body.2 ⟨before.length, nested, rfl, hnested.marker⟩
        · intro j hj hin
          rw [← hfront] at hin
          obtain ⟨k, m', rfl, hm'⟩ := openingWithin_body.1 hin
          exact hnested.none_before k (Nat.zero_le k) (by omega) m' hm'

theorem Complete.stop_le {t : Text} {o stop : Nat} {m : Opening} (h : Complete t o m stop) :
    stop ≤ t.length := by
  obtain ⟨c, n, hc, _, rfl⟩ := h
  exact hc.marker.end_le n.length_text_pos

theorem Reached.begins {t : Text} {i : Nat} (h : Reached t i) :
    i ≤ t.length ∧ ∃ ss, Begins t ss (t.drop i) := by
  induction h with
  | start => exact ⟨Nat.zero_le _, [], begins_nil_iff.2 rfl⟩
  | block _ hfirst hcomplete ih =>
    obtain ⟨_, ss, hbegins⟩ := ih
    rcases hfirst.step with ⟨s, stop, hs, hc⟩ | ⟨fault, gap, rest, _, hfault⟩
    · obtain rfl := hc.unique hcomplete
      exact ⟨hc.stop_le, ss ++ [s], hbegins.concat hs⟩
    · exact absurd hcomplete hfault.not_complete

theorem Begins.length_eq {t : Text} {i : Nat} {ss : List Section} (h : Begins t ss (t.drop i))
    (hi : i ≤ t.length) : (ss.flatMap Section.text).length = i := by
  have hlen := congrArg List.length h.text_eq
  rw [List.length_append, List.length_drop] at hlen
  omega

theorem exists_firstOpening {t : Text} {i : Nat} (hi : i ≤ t.length)
    (h : ∀ last, firstSection (t.drop i) ≠ .error (.plain last)) : ∃ o m, FirstOpening t i o m := by
  rcases hf : findOpening? (t.drop i) with - | ⟨gap, m, rest⟩
  · refine absurd ?_ (h (t.drop i))
    simp only [firstSection, hf]
  · have hfirst := firstOpening_append (a := t.take i).2 (findOpening?_eq_some_iff.1 hf).2
    rw [List.take_append_drop, List.length_take_of_le hi] at hfirst
    exact ⟨i + gap.length, m, hfirst⟩

theorem exists_meets_of_faulty {t gap rest : Text} {fault : BlockFault}
    (h : (layout t).2 = .faulty fault gap rest) :
    ∃ o m, Meets t o m ∧ ¬ ∃ stop, Complete t o m stop := by
  have key : ∀ u i, t.drop i = u → Reached t i → (layout u).2 = .faulty fault gap rest →
      ∃ o m, Meets t o m ∧ ¬ ∃ stop, Complete t o m stop := by
    intro u
    fun_induction layout u with
    | case1 u ending hu =>
      intro i hi hreached hfaulty
      obtain rfl : ending = .faulty fault gap rest := hfaulty
      rw [← hi] at hu
      obtain ⟨o, m, hfirst⟩ := exists_firstOpening hreached.begins.1 (by rw [hu]; simp)
      refine ⟨o, m, ⟨i, hreached, hfirst⟩, ?_⟩
      rintro ⟨stop, hcomplete⟩
      rcases hfirst.step with ⟨s, stop', hs, _⟩ | ⟨_, _, _, _, hfault⟩
      · rw [hu] at hs
        simp at hs
      · exact hfault.not_complete hcomplete
    | case2 u s rest' hu _ ih =>
      intro i hi hreached hfaulty
      rw [← hi] at hu
      obtain ⟨o, m, hfirst⟩ := exists_firstOpening hreached.begins.1 (by rw [hu]; simp)
      rcases hfirst.step with ⟨s', stop, hs, hcomplete⟩ | ⟨_, _, _, hs, _⟩
      · rw [hu, Except.ok.injEq, Prod.mk.injEq] at hs
        exact ih stop hs.2.symm (hreached.block hfirst hcomplete) hfaulty
      · rw [hu] at hs
        simp at hs
  exact key t 0 rfl .start h

theorem Section.StandsAt.take {t : Text} {i n : Nat} {s : Section} (h : s.StandsAt t i)
    (hn : i + s.text.length ≤ n) : s.StandsAt (t.take n) i := by
  have hlen : s.text.length
      = s.gap.length + s.opening.text.length + s.body.length + s.closing.text.length := by
    rw [Section.text, List.length_append, List.length_append, List.length_append]
  refine ⟨h.opening.take ?_, h.closing.take s.closing.length_text_pos ?_, h.body_intact⟩
  · omega
  · rw [List.length_append]
    omega

theorem Begins.take {t rest : Text} {ss : List Section} {n : Nat} (h : Begins t ss rest)
    (hn : (ss.flatMap Section.text).length ≤ n) :
    Begins (t.take n) ss ((t.take n).drop (ss.flatMap Section.text).length) := by
  constructor
  · have hfirst : (t.take n).take (ss.flatMap Section.text).length = ss.flatMap Section.text := by
      rw [List.take_take, Nat.min_eq_left hn, h.text_eq, List.take_left]
    conv => lhs; rw [← List.take_append_drop (ss.flatMap Section.text).length (t.take n), hfirst]
  · intro before s after he
    apply (h.stands before s after he).take
    rw [he, List.flatMap_append, List.flatMap_cons, List.length_append, List.length_append] at hn
    omega

theorem Begins.layout_take {t : Text} {i o : Nat} {m : Opening} {ss : List Section}
    (h : Begins t ss (t.drop i)) (hi : i ≤ t.length) (hfirst : FirstOpening t i o m) :
    ∃ last, layout (t.take o) = (ss, .plain last) := by
  have hlen := h.length_eq hi
  have hcut := h.take (n := o) (by rw [hlen]; exact hfirst.le)
  refine ⟨_, layout_eq_plain_iff.2 ⟨hcut, ?_⟩⟩
  intro k hk m' hm'
  rw [hlen] at hk
  have hpos := m'.length_text_pos
  obtain ⟨hat, hend⟩ := (markerAt_take hpos).1 hm'
  exact hfirst.none_before k hk (by omega) m' hat

theorem layout_of_meets {t : Text} {o : Nat} {m : Opening} (h : Meets t o m)
    (hnot : ¬ ∃ stop, Complete t o m stop) :
    ∃ ss fault gap rest, layout t = (ss, .faulty fault gap rest) ∧
      FaultAt t o m fault.message (ss.flatMap Section.text ++ gap).length ∧
      ∃ last, layout (t.take o) = (ss, .plain last) := by
  obtain ⟨i, hreached, hfirst⟩ := h
  obtain ⟨hi, ss, hbegins⟩ := hreached.begins
  rcases hfirst.step with ⟨s, stop, _, hcomplete⟩ | ⟨fault, gap, rest, hs, hfault⟩
  · exact absurd ⟨stop, hcomplete⟩ hnot
  · refine ⟨ss, fault, gap, rest, ?_, ?_, hbegins.layout_take hi hfirst⟩
    · rw [hbegins.layout_eq, layout_of_error hs, List.append_nil]
    · rw [List.length_append, hbegins.length_eq hi]
      exact hfault

theorem scopeSheet_eq_error_iff {t : Text} {e : SheetError} :
    scopeSheet t = .error e ↔ (findBlocks t).2 = some e := by
  rcases hl : layout t with ⟨ss, last | ⟨fault, gap, rest⟩⟩
  · simp [scopeSheet, findBlocks, hl, Ending.error?]
  · simp [scopeSheet, findBlocks, hl, Ending.error?]

theorem findBlocks_of_faulty {t gap rest : Text} {ss : List Section} {fault : BlockFault}
    (h : layout t = (ss, .faulty fault gap rest)) : findBlocks t
      = (blocksFrom 0 ss, some ⟨fault, Position.after (ss.flatMap Section.text ++ gap)⟩) := by
  simp only [findBlocks, h, Ending.error?]

theorem exists_error_iff {t : Text} : (∃ e, (findBlocks t).2 = some e) ↔
    ∃ o m, Meets t o m ∧ ¬ ∃ stop, Complete t o m stop := by
  constructor
  · rintro ⟨e, he⟩
    rcases hl : layout t with ⟨ss, last | ⟨fault, gap, rest⟩⟩
    · simp [findBlocks, hl, Ending.error?] at he
    · exact exists_meets_of_faulty (congrArg Prod.snd hl)
  · rintro ⟨o, m, hmeets, hnot⟩
    obtain ⟨ss, fault, gap, rest, hl, _⟩ := layout_of_meets hmeets hnot
    exact ⟨_, congrArg Prod.snd (findBlocks_of_faulty hl)⟩

/-- A sheet is at fault exactly when the walk through it meets a marker that is not complete, for the
blocks as for the scoped sheet. The blocks found are those of the text before that marker, the fault is
the marker's own, and its line and column stand for the place where it shows and for no other. -/
theorem fault_matches_walk (t : Text) :
    ((∃ e, (findBlocks t).2 = some e) ↔ ∃ o m, Meets t o m ∧ ¬ ∃ stop, Complete t o m stop) ∧
    (∀ e, scopeSheet t = .error e ↔ (findBlocks t).2 = some e) ∧
    ∀ o m, Meets t o m → (¬ ∃ stop, Complete t o m stop) →
      findBlocks (t.take o) = ((findBlocks t).1, none) ∧
      ∃ e p, (findBlocks t).2 = some e ∧ FaultAt t o m e.message p ∧
        e.position = Position.ofOffset t p ∧ Position.Locates t e.position p ∧
        ∀ p', p' ≤ t.length → Position.ofOffset t p' = e.position → p' = p := by
  refine ⟨exists_error_iff, fun e => scopeSheet_eq_error_iff, ?_⟩
  intro o m hmeets hnot
  obtain ⟨ss, fault, gap, rest, hl, hfault, last, hcut⟩ := layout_of_meets hmeets hnot
  have hblocks := findBlocks_of_faulty hl
  have hbefore : findBlocks (t.take o) = (blocksFrom 0 ss, none) := by
    simp only [findBlocks, hcut, Ending.error?]
  have ht : ss.flatMap Section.text ++ gap ++ rest = t := by
    have htext := text_layout t
    rw [hl] at htext
    rw [List.append_assoc]
    exact htext
  have hle : (ss.flatMap Section.text ++ gap).length ≤ t.length := by
    have hlen := congrArg List.length ht
    rw [List.length_append] at hlen
    omega
  have hposition : Position.after (ss.flatMap Section.text ++ gap)
      = Position.ofOffset t (ss.flatMap Section.text ++ gap).length := by
    rw [Position.ofOffset, ← ht, List.take_left]
  have hlocates := Position.locates_ofOffset hle
  rw [← hposition] at hlocates
  rw [hblocks, hbefore]
  refine ⟨rfl, _, _, rfl, hfault, hposition, hlocates, ?_⟩
  intro p' hp' he
  have hlocates' := Position.locates_ofOffset hp'
  rw [he] at hlocates'
  exact hlocates'.unique hlocates

theorem fault_matches_walk_unclosed :
    Meets "\n/* SCOPE a */".toList 1 ⟨[' '], [' '], ['a'], [' ']⟩ ∧
    ∃ e p, (findBlocks "\n/* SCOPE a */".toList).2 = some e ∧ e.position = ⟨2, 1⟩ ∧
      FaultAt "\n/* SCOPE a */".toList 1 ⟨[' '], [' '], ['a'], [' ']⟩ e.message p ∧
      findBlocks ("\n/* SCOPE a */".toList.take 1)
        = ((findBlocks "\n/* SCOPE a */".toList).1, none) := by
  have hfound : findOpening? "\n/* SCOPE a */".toList
      = some (['\n'], ⟨[' '], [' '], ['a'], [' ']⟩, []) := by decide +kernel
  have hmeets : Meets "\n/* SCOPE a */".toList 1 ⟨[' '], [' '], ['a'], [' ']⟩ :=
    ⟨0, .start, (findOpening?_eq_some_iff.1 hfound).2⟩
  have hclosing : findClosing? "\n/* SCOPE a */".toList = none := by decide +kernel
  have hnot : ¬ ∃ stop, Complete "\n/* SCOPE a */".toList 1 ⟨[' '], [' '], ['a'], [' ']⟩ stop := by
    rintro ⟨_, c, n, hc, _⟩
    exact findClosing?_eq_none_iff.1 hclosing c n hc.marker
  obtain ⟨hbefore, e, p, he, hfault, hposition, _⟩ :=
    (fault_matches_walk "\n/* SCOPE a */".toList).2.2 1 _ hmeets hnot
  have hplace : p = 1 := by
    generalize e.message = message at hfault
    cases hfault with
    | unclosed _ => rfl
    | nested hc _ _ => exact absurd hc.marker (findClosing?_eq_none_iff.1 hclosing _ _)
  refine ⟨hmeets, e, p, he, ?_, hfault, hbefore⟩
  rw [hposition, hplace]
  decide +kernel

end ScopedSheets
