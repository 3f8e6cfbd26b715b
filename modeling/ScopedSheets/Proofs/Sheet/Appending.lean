import Mathlib.Tactic.ByContra
import ScopedSheets.Proofs.Sheet.Fault

/-!
# A sheet after a sheet

What is appended to a sheet can make a marker longer and bring new ones about, but not before the end of
a block: a marker that begins before a closing marker has ended at the latest with the slash that the
closing marker begins with (`OpeningAt.end_le_of_closing`). So sections stay as they are when text is
appended, and behind a sheet that ends with a block the other sheet is read by itself
(`findBlocks_append`).
-/

namespace ScopedSheets

open Text (isBlank)

theorem exists_of_append_eq_of_not_mem {a b front rest : Text} {c : Char} (hc : c ∉ a)
    (h : a ++ b = front ++ c :: rest) : ∃ front', front = a ++ front' ∧ b = front' ++ c :: rest := by
  rcases List.append_eq_append_iff.1 h with ⟨front', hf, hb⟩ | ⟨w, ha, hw⟩
  · exact ⟨front', hf, hb⟩
  · rcases List.cons_eq_append_iff.1 hw with ⟨rfl, rfl⟩ | ⟨w', rfl, _⟩
    · rw [List.append_nil] at ha
      exact ⟨[], by rw [ha, List.append_nil], rfl⟩
    · exact absurd (ha ▸ List.mem_append_right _ (List.mem_cons_self ..)) hc

theorem ClosingAt.exists_inside {t written : Text} {k c : Nat} {n : Closing} (hc : ClosingAt t c n)
    (hw : written <+: t.drop k) (hk : k < c) (hlong : c + 1 < k + written.length) :
    ∃ front rest after after', written = front ++ '/' :: '*' :: rest ∧ front ≠ [] ∧
      rest ++ after = n.lead ++ ("END".toList ++ after') := by
  obtain ⟨after, hafter⟩ := hw
  obtain ⟨tail, htail⟩ := hc.2
  have hdrop : (t.drop k).drop (c - k) = t.drop c := by
    rw [List.drop_drop]
    congr 1
    omega
  have hcut : written.drop (c - k) ++ after
      = '/' :: '*' :: (n.lead ++ ("END".toList ++ (n.trail ++ ("*/".toList ++ tail)))) := by
    rw [← hafter, List.drop_append_of_le_length (by omega), ← htail, Closing.text_append] at hdrop
    exact hdrop
  have hfront := List.take_append_drop (c - k) written
  have hlen : (written.drop (c - k)).length = written.length - (c - k) := List.length_drop ..
  have hne : written.take (c - k) ≠ [] := by
    intro h
    have hzero := congrArg List.length h
    rw [List.length_take, List.length_nil] at hzero
    omega
  rcases hinside : written.drop (c - k) with - | ⟨x, - | ⟨y, rest⟩⟩
  · rw [hinside, List.length_nil] at hlen
    omega
  · rw [hinside, List.length_singleton] at hlen
    omega
  · rw [hinside, List.cons_append, List.cons_append, List.cons.injEq, List.cons.injEq] at hcut
    obtain ⟨rfl, rfl, hrest⟩ := hcut
    rw [hinside] at hfront
    exact ⟨_, rest, after, _, hfront.symm, hne, hrest⟩

theorem not_opener_before_closer {a front rest : Text} (ha : '/' ∉ a) :
    a ++ ['*', '/'] ≠ front ++ '/' :: '*' :: rest := by
  intro h
  obtain ⟨front', _, hend⟩ := exists_of_append_eq_of_not_mem ha h
  rcases front' with - | ⟨x, - | ⟨y, front'⟩⟩
  · simp at hend
  · simp at hend
  · simp at hend

theorem ClosingAt.end_le_of_closing {t : Text} {k c : Nat} {m n : Closing} (hm : ClosingAt t k m)
    (hc : ClosingAt t c n) (hk : k < c) : k + m.text.length ≤ c + 1 := by
  by_contra hlong
  obtain ⟨front, rest, _, _, htext, hne, _⟩ := hc.exists_inside hm.2 hk (by omega)
  obtain ⟨f, front, rfl⟩ := List.exists_cons_of_ne_nil hne
  have hslash : isBlank '/' = false := by decide
  have hsolid : '/' ∉ '*' :: (m.lead ++ ("END".toList ++ m.trail)) := by
    have hlead := not_mem_of_all_blank hslash hm.1.lead_blank
    have htrail := not_mem_of_all_blank hslash hm.1.trail_blank
    simp [hlead, htrail]
  have hw : ('*' :: (m.lead ++ ("END".toList ++ m.trail))) ++ ['*', '/']
      = front ++ '/' :: '*' :: rest := by
    simpa [Closing.text] using congrArg List.tail htext
  exact not_opener_before_closer hsolid hw

theorem name_ne_closing {w trail lead after after' : Text} (hw : ∀ c ∈ w, (!isBlank c) = true)
    (htrail : ∀ c ∈ trail, isBlank c) (hlead : ∀ c ∈ lead, isBlank c) (hne : lead ≠ []) :
    w ++ (trail ++ '*' :: '/' :: after) ≠ ['/', '*'] ++ (lead ++ ("END".toList ++ after')) := by
  intro h
  have hstar := head_solid (c := '*') (by decide) ('/' :: after)
  have hend := head_solid (c := 'E') (by decide) ("ND".toList ++ after')
  have hopener : ∀ c ∈ ['/', '*'], (!isBlank c) = true := List.all_eq_true.1 rfl
  have hhead {a : Text} (ha : ∀ c ∈ a, isBlank c) (hne : a ≠ []) (x : Text) :
      ∀ c, (a ++ x).head? = some c → (!isBlank c) = false := by
    intro c hc
    obtain ⟨d, a, rfl⟩ := List.exists_cons_of_ne_nil hne
    rw [List.cons_append, List.head?_cons, Option.some.injEq] at hc
    rw [← hc, ha d (List.mem_cons_self ..)]
    rfl
  by_cases ht : trail = []
  · -- the run of characters goes on through the closer, while a closing marker has a blank there
    have hrun := congrArg (List.takeWhile (!isBlank ·)) h
    rw [ht, List.nil_append, List.takeWhile_append_of_pos hw, List.takeWhile_cons_of_pos (by decide),
      List.takeWhile_cons_of_pos (by decide),
      Text.takeWhile_append_of_head hopener (hhead hlead hne _)] at hrun
    rcases w with - | ⟨x, - | ⟨y, w⟩⟩
    · simp at hrun
    · simp at hrun
    · simp at hrun
  · obtain ⟨_, hrest⟩ := Text.run_unique hw hopener (hhead htrail ht _) (hhead hlead hne _) h
    obtain ⟨_, hkey⟩ := Text.run_unique htrail hlead hstar hend hrest
    simp at hkey

theorem OpeningAt.end_le_of_closing {t : Text} {k c : Nat} {m : Opening} {n : Closing}
    (hm : OpeningAt t k m) (hc : ClosingAt t c n) (hk : k < c) : k + m.text.length ≤ c + 1 := by
  by_contra hlong
  obtain ⟨front, rest, after, after', htext, hne, hrest⟩ := hc.exists_inside hm.2 hk (by omega)
  obtain ⟨f, front, rfl⟩ := List.exists_cons_of_ne_nil hne
  have hslash : isBlank '/' = false := by decide
  have htrail := not_mem_of_all_blank hslash hm.1.trail_blank
  have hsolid : '/' ∉ '*' :: (m.lead ++ ("SCOPE".toList ++ m.gap)) := by
    have hlead := not_mem_of_all_blank hslash hm.1.lead_blank
    have hgap := not_mem_of_all_blank hslash hm.1.gap_blank
    simp [hlead, hgap]
  have hw : ('*' :: (m.lead ++ ("SCOPE".toList ++ m.gap))) ++ (m.name ++ (m.trail ++ ['*', '/']))
      = front ++ '/' :: '*' :: rest := by
    simpa [Opening.text] using congrArg List.tail htext
  obtain ⟨front', _, hname⟩ := exists_of_append_eq_of_not_mem hsolid hw
  rcases List.append_eq_append_iff.1 hname with ⟨w, _, hend⟩ | ⟨w, hw', hend⟩
  · exact not_opener_before_closer htrail hend
  · have hsuffix : ∀ d ∈ w, (!isBlank d) = true := by
      intro d hd
      apply List.all_eq_true.1 hm.1.name_solid
      rw [hw']
      exact List.mem_append_right _ hd
    have hall : w ++ (m.trail ++ '*' :: '/' :: after)
        = ['/', '*'] ++ (n.lead ++ ("END".toList ++ after')) := by
      have hafter := congrArg (· ++ after) hend
      simp only [List.cons_append, hrest, List.append_assoc] at hafter
      exact hafter.symm
    exact name_ne_closing hsuffix (List.all_eq_true.1 hm.1.trail_blank)
      (List.all_eq_true.1 hc.1.lead_blank) hc.1.lead_ne_nil hall

section Markers

variable {M : Type} {text : M → Text} {wf : M → Prop} {t : Text} {i o : Nat} {m : M}

theorem markerAt_append_right (hpos : 0 < (text m).length) (b : Text) :
    MarkerAt text wf t i m ↔
      MarkerAt text wf (t ++ b) i m ∧ i + (text m).length ≤ t.length := by
  rw [← markerAt_take hpos, List.take_left]

theorem FirstMarker.append (h : FirstMarker text wf t i o m) (hpos : ∀ m, 0 < (text m).length)
    (b : Text) (hends : ∀ k m', k < o → MarkerAt text wf (t ++ b) k m' →
      k + (text m').length ≤ t.length) : FirstMarker text wf (t ++ b) i o m := by
  refine ⟨h.le, ((markerAt_append_right (hpos m) b).1 h.marker).1, ?_⟩
  intro k hi ho m' hm'
  exact h.none_before k hi ho m' ((markerAt_append_right (hpos m') b).2 ⟨hm', hends k m' ho hm'⟩)

end Markers

theorem Section.StandsAt.append {t : Text} {i : Nat} {s : Section} (h : s.StandsAt t i) (b : Text) :
    s.StandsAt (t ++ b) i := by
  obtain ⟨ho, hc, hbody⟩ := h
  have hstop := hc.marker.end_le s.closing.length_text_pos
  have hpos := s.closing.length_text_pos
  have hclosing := ((markerAt_append_right hpos b).1 hc.marker).1
  have hlt : i + s.gap.length
      < i + (s.gap ++ s.opening.text).length + s.body.length := by
    have hopen := s.opening.length_text_pos
    rw [List.length_append]
    omega
  have hopening : ∀ k m, k ≤ i + s.gap.length → OpeningAt (t ++ b) k m →
      k + m.text.length ≤ t.length := by
    intro k m hk hm
    have hend := OpeningAt.end_le_of_closing hm hclosing (by omega)
    omega
  refine ⟨⟨ho.toFirstMarker.append Opening.length_text_pos b fun k m hk => hopening k m (by omega), ?_⟩,
    hc.append Closing.length_text_pos b ?_, hbody⟩
  · intro m hm
    exact ho.longest m ((markerAt_append_right m.length_text_pos b).2
      ⟨hm, hopening _ m (Nat.le_refl _) hm⟩)
  · intro k m hk hm
    have hend := ClosingAt.end_le_of_closing hm hclosing hk
    omega

theorem Begins.append {t rest : Text} {ss : List Section} (h : Begins t ss rest) (b : Text) :
    Begins (t ++ b) ss (rest ++ b) := by
  refine ⟨?_, fun before s after he => (h.stands before s after he).append b⟩
  rw [← List.append_assoc, ← h.text_eq]

def Block.shift (n : Nat) (b : Block) : Block := { b with start := n + b.start, stop := n + b.stop }

theorem blocksFrom_shift (n offset : Nat) (ss : List Section) :
    blocksFrom (n + offset) ss = (blocksFrom offset ss).map (Block.shift n) := by
  induction ss generalizing offset with
  | nil => rfl
  | cons s ss ih =>
    rw [blocksFrom, blocksFrom, List.map_cons, Nat.add_assoc n, ih]
    simp only [Block.shift, Section.block, Nat.add_assoc]

theorem stop_of_getLast?_blocksFrom {offset : Nat} {ss : List Section} {last : Block}
    (h : (blocksFrom offset ss).getLast? = some last) :
    last.stop = offset + (ss.flatMap Section.text).length := by
  rcases List.eq_nil_or_concat ss with rfl | ⟨ss, s, rfl⟩
  · nomatch h
  · rw [List.concat_eq_append, blocksFrom_append, blocksFrom, blocksFrom, List.getLast?_concat,
      Option.some.injEq] at h
    rw [← h, List.concat_eq_append, List.flatMap_append, List.flatMap_singleton, List.length_append,
      ← Nat.add_assoc]
    rfl

theorem begins_of_last_stop {a : Text} {bs : List Block} {last : Block}
    (ha : findBlocks a = (bs, none)) (hlast : bs.getLast? = some last) (hstop : last.stop = a.length) :
    ∃ ss, Begins a ss [] ∧ blocksFrom 0 ss = bs ∧ a = ss.flatMap Section.text ∧
      layout a = (ss, .plain []) := by
  obtain ⟨ss, gap, hl, rfl⟩ := findBlocks_eq_none_iff.1 ha
  have hbegins := (layout_eq_plain_iff.1 hl).toBegins
  have hend := stop_of_getLast?_blocksFrom hlast
  have hlen := congrArg List.length hbegins.text_eq
  rw [List.length_append] at hlen
  obtain rfl : gap = [] := List.length_eq_zero_iff.1 (by omega)
  have htext := hbegins.text_eq
  rw [List.append_nil] at htext
  exact ⟨ss, hbegins, rfl, htext, hl⟩

/-- Behind a sheet that ends with a block another sheet is read by itself: its blocks come after those of
the first, moved by the length of the first, its fault shows at the place moved likewise, and without
fault the two scoped sheets follow each other. -/
theorem findBlocks_append {a : Text} {bs : List Block} {last : Block} (ha : findBlocks a = (bs, none))
    (hlast : bs.getLast? = some last) (hstop : last.stop = a.length) (b : Text) :
    (findBlocks (a ++ b)).1 = bs ++ (findBlocks b).1.map (Block.shift a.length) ∧
    ((findBlocks b).2 = none → (findBlocks (a ++ b)).2 = none) ∧
    (∀ e, (findBlocks b).2 = some e → ∃ p, p ≤ b.length ∧ e.position = Position.ofOffset b p ∧
      (∀ p', p' ≤ b.length → Position.ofOffset b p' = e.position → p' = p) ∧
      (findBlocks (a ++ b)).2 = some ⟨e.fault, Position.ofOffset (a ++ b) (a.length + p)⟩) ∧
    ∃ u, scopeSheet a = .ok u ∧
      ∀ v, scopeSheet b = .ok v → scopeSheet (a ++ b) = .ok (u ++ v) := by
  obtain ⟨ss, hbegins, rfl, htext, hla⟩ := begins_of_last_stop ha hlast hstop
  have hlayout := (hbegins.append b).layout_eq
  rw [List.nil_append] at hlayout
  have hblocks (ss' : List Section) : blocksFrom 0 (ss ++ ss')
      = blocksFrom 0 ss ++ (blocksFrom 0 ss').map (Block.shift a.length) := by
    rw [blocksFrom_append, ← htext, Nat.zero_add, ← blocksFrom_shift, Nat.add_zero]
  have hscoped := scopeSheet_of_layout hla
  rw [List.append_nil] at hscoped
  rcases hlb : layout b with ⟨ss', gap | ⟨fault, gap, rest⟩⟩
  · rw [hlb] at hlayout
    have hfound : findBlocks b = (blocksFrom 0 ss', none) :=
      findBlocks_eq_none_iff.2 ⟨ss', gap, hlb, rfl⟩
    have hboth : findBlocks (a ++ b) = (blocksFrom 0 (ss ++ ss'), none) :=
      findBlocks_eq_none_iff.2 ⟨_, gap, hlayout, rfl⟩
    rw [hfound, hboth, hblocks]
    refine ⟨rfl, fun _ => rfl, by simp, _, hscoped, ?_⟩
    intro v hv
    rw [scopeSheet_of_layout hlb, Except.ok.injEq] at hv
    rw [scopeSheet_of_layout hlayout, ← hv, List.flatMap_append, List.append_assoc]
  · replace hlayout : layout (a ++ b) = (ss ++ ss', .faulty fault gap rest) := by rw [hlayout, hlb]
    have hfound := findBlocks_of_faulty hlb
    rw [hfound, findBlocks_of_faulty hlayout, hblocks]
    refine ⟨rfl, by simp, ?_, _, hscoped, ?_⟩
    · intro e he
      obtain rfl := Option.some.inj he
      have hb : ss'.flatMap Section.text ++ gap ++ rest = b := by
        have hb := text_layout b
        rw [hlb] at hb
        rw [List.append_assoc]
        exact hb
      have hplace := Position.ofOffset_append (ss'.flatMap Section.text ++ gap) rest
      have hplace' := Position.ofOffset_append (a ++ (ss'.flatMap Section.text ++ gap)) rest
      rw [hb] at hplace
      rw [List.append_assoc, hb, List.length_append] at hplace'
      have hle : (ss'.flatMap Section.text ++ gap).length ≤ b.length := by
        rw [← hb]
        exact (List.prefix_append _ rest).length_le
      refine ⟨_, hle, hplace.symm, ?_, ?_⟩
      · intro p' hp' he'
        exact Position.ofOffset_inj hp' hle (he'.trans hplace.symm)
      · rw [hplace', List.flatMap_append, ← htext, List.append_assoc]
    · intro v hv
      rw [scopeSheet_eq_error_iff.2 (congrArg Prod.snd hfound)] at hv
      nomatch hv

theorem findBlocks_append_slash :
    findBlocks "/* SCOPE x */b/* END */".toList = ([⟨"x".toList, "b".toList, 0, 23⟩], none) ∧
    findBlocks ("/* SCOPE x */b/* END */".toList ++ "*SCOPE y*/\n/* SCOPE z */".toList)
      = ([⟨"x".toList, "b".toList, 0, 23⟩], some ⟨.unclosed, ⟨2, 1⟩⟩) ∧
    ∃ u, scopeSheet "/* SCOPE x */b/* END */".toList = .ok u ∧
      ∀ v, scopeSheet "*SCOPE y*/".toList = .ok v →
        scopeSheet ("/* SCOPE x */b/* END */".toList ++ "*SCOPE y*/".toList) = .ok (u ++ v) := by
  have ha : findBlocks "/* SCOPE x */b/* END */".toList
      = ([⟨"x".toList, "b".toList, 0, 23⟩], none) := by decide +kernel
  have hb : findBlocks "*SCOPE y*/\n/* SCOPE z */".toList = ([], some ⟨.unclosed, ⟨2, 1⟩⟩) := by
    decide +kernel
  obtain ⟨hblocks, _, hfault, _⟩ := findBlocks_append ha rfl rfl "*SCOPE y*/\n/* SCOPE z */".toList
  obtain ⟨_, _, _, hscoped⟩ := findBlocks_append ha rfl rfl "*SCOPE y*/".toList
  obtain ⟨p, hp, hposition, _, herror⟩ := hfault _ (congrArg Prod.snd hb)
  obtain rfl : p = 11 := Position.ofOffset_inj hp (by decide) (hposition.symm.trans (by decide))
  refine ⟨ha, Prod.ext ?_ ?_, hscoped⟩
  · rw [hblocks, hb]
    rfl
  · rw [herror]
    decide

end ScopedSheets
