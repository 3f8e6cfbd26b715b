import Mathlib.Data.Option.Basic
import ScopedSheets.Sheet.Marker

/-!
# What the marker readers read

A marker is a value, and a text may begin with several opening markers, which differ in their names. The
reader takes the one with the longest name (`Opening.read?_eq_some_iff`) and fails only when the text
begins with none (`Opening.read?_eq_none_iff`). A closing marker leaves no choice. A search answers the
first place where something can be read (`Text.find?_eq_some_iff`).
-/

namespace ScopedSheets

open Text (isBlank)

namespace Text

variable {p : Char → Bool}

theorem takeWhile_append_of_head {a b : Text} (ha : ∀ c ∈ a, p c)
    (hb : ∀ c, b.head? = some c → p c = false) : (a ++ b).takeWhile p = a := by
  rw [List.takeWhile_append_of_pos ha]
  cases b with
  | nil => simp
  | cons c b =>
    have hc := hb c rfl
    simp [hc]

theorem dropWhile_append_of_head {a b : Text} (ha : ∀ c ∈ a, p c)
    (hb : ∀ c, b.head? = some c → p c = false) : (a ++ b).dropWhile p = b := by
  rw [List.dropWhile_append_of_pos ha]
  cases b with
  | nil => rfl
  | cons c b =>
    have hc := hb c rfl
    simp [hc]

theorem run_unique {a b x y : Text} (ha : ∀ c ∈ a, p c) (hb : ∀ c ∈ b, p c)
    (hx : ∀ c, x.head? = some c → p c = false) (hy : ∀ c, y.head? = some c → p c = false)
    (h : a ++ x = b ++ y) : a = b ∧ x = y := by
  have htake := congrArg (List.takeWhile p) h
  have hdrop := congrArg (List.dropWhile p) h
  rw [takeWhile_append_of_head ha hx, takeWhile_append_of_head hb hy] at htake
  rw [dropWhile_append_of_head ha hx, dropWhile_append_of_head hb hy] at hdrop
  exact ⟨htake, hdrop⟩

section Search

variable {α : Type} {matcher : Text → Option (α × Text)}

theorem find?_of_matcher {t rest : Text} {a : α} (h : matcher t = some (a, rest)) :
    find? matcher t = some ([], a, rest) := by
  cases t with
  | nil => rw [find?, h, Option.map_some]
  | cons c t => rw [find?, h]

theorem find?_cons_of_none {c : Char} {t : Text} (h : matcher (c :: t) = none) :
    find? matcher (c :: t) = (find? matcher t).map fun (before, a, rest) => (c :: before, a, rest) := by
  rw [find?, h]

theorem find?_eq_none_iff {t : Text} :
    find? matcher t = none ↔ ∀ i, i ≤ t.length → matcher (t.drop i) = none := by
  induction t with
  | nil =>
    rw [find?, Option.map_eq_none_iff]
    constructor
    · intro h i _
      rwa [List.drop_nil]
    · intro h
      exact h 0 (Nat.le_refl 0)
  | cons c t ih =>
    rcases hm : matcher (c :: t) with - | ⟨a, rest⟩
    · rw [find?_cons_of_none hm, Option.map_eq_none_iff, ih]
      constructor
      · intro h i hi
        cases i with
        | zero => exact hm
        | succ i => exact h i (by simpa using hi)
      · intro h i hi
        exact h (i + 1) (by simpa using hi)
    · rw [find?_of_matcher hm]
      constructor
      · intro h
        simp at h
      · intro h
        have h0 := h 0 (Nat.zero_le _)
        simp [hm] at h0

theorem find?_eq_some_iff {t before rest : Text} {a : α} :
    find? matcher t = some (before, a, rest) ↔
      ∃ tail, t = before ++ tail ∧ matcher tail = some (a, rest) ∧
        ∀ i, i < before.length → matcher (t.drop i) = none := by
  constructor
  · intro h
    induction t generalizing before with
    | nil =>
      obtain ⟨⟨a', rest'⟩, hm, he⟩ := Option.map_eq_some_iff.1 h
      simp only [Prod.mk.injEq] at he
      obtain ⟨rfl, rfl, rfl⟩ := he
      exact ⟨[], rfl, hm, by simp⟩
    | cons c t ih =>
      rcases hm : matcher (c :: t) with - | ⟨a', rest'⟩
      · rw [find?_cons_of_none hm] at h
        obtain ⟨⟨before', a', rest'⟩, hs, he⟩ := Option.map_eq_some_iff.1 h
        simp only [Prod.mk.injEq] at he
        obtain ⟨rfl, rfl, rfl⟩ := he
        obtain ⟨tail, rfl, hread, hnone⟩ := ih hs
        refine ⟨tail, rfl, hread, ?_⟩
        intro i hi
        cases i with
        | zero => exact hm
        | succ i => exact hnone i (by simpa using hi)
      · rw [find?_of_matcher hm, Option.some.injEq, Prod.mk.injEq, Prod.mk.injEq] at h
        obtain ⟨rfl, rfl, rfl⟩ := h
        exact ⟨c :: t, rfl, hm, by simp⟩
  · rintro ⟨tail, rfl, hread, hnone⟩
    induction before with
    | nil => exact find?_of_matcher hread
    | cons c before ih =>
      have hc := hnone 0 (by simp)
      rw [List.drop_zero, List.cons_append] at hc
      rw [List.cons_append, find?_cons_of_none hc, ih, Option.map_some]
      intro i hi
      exact hnone (i + 1) (by simpa using hi)

end Search

end Text

/-! ### The name of an opening marker -/

theorem head_solid {c : Char} (h : isBlank c = false) (t : Text) :
    ∀ d, (c :: t).head? = some d → isBlank d = false := by
  intro d hd
  rw [List.head?_cons, Option.some.injEq] at hd
  rwa [← hd]

theorem not_mem_of_all_blank {t : Text} {c : Char} (hc : isBlank c = false) (h : t.all isBlank) :
    c ∉ t := by
  intro hm
  rw [List.all_eq_true.1 h c hm] at hc
  cases hc

theorem head_scope (t : Text) :
    ∀ d, ("SCOPE".toList ++ t).head? = some d → isBlank d = false := by
  have hs : "SCOPE".toList ++ t = 'S' :: ("COPE".toList ++ t) := by simp
  rw [hs]
  exact head_solid (by decide) _

theorem exists_cutLastCloser (a b : Text) :
    ∃ before rest, cutLastCloser? (a ++ '*' :: '/' :: b) = some (before, rest) ∧
      a.length ≤ before.length := by
  induction a with
  | nil =>
    rcases hs : cutLastCloser? ('/' :: b) with - | ⟨before, rest⟩
    · refine ⟨[], b, ?_, Nat.le_refl 0⟩
      rw [List.nil_append, cutLastCloser?, hs]
      rfl
    · refine ⟨'*' :: before, rest, ?_, Nat.zero_le _⟩
      rw [List.nil_append, cutLastCloser?, hs]
  | cons c a ih =>
    obtain ⟨before, rest, hs, hlen⟩ := ih
    refine ⟨c :: before, rest, ?_, by simpa using hlen⟩
    rw [List.cons_append, cutLastCloser?, hs]

namespace Opening

theorem exists_readName {name trail : Text} (hsolid : ∀ c ∈ name, (!isBlank c) = true)
    (hne : name ≠ []) (htrail : ∀ c ∈ trail, isBlank c) (rest : Text) :
    ∃ name' trail' rest', readName? (name ++ (trail ++ '*' :: '/' :: rest))
        = some ((name', trail'), rest') ∧ name.length ≤ name'.length := by
  by_cases ht : trail = []
  · subst ht
    rw [List.nil_append]
    -- the run of characters goes on at least through the closer
    have hrun : (name ++ '*' :: '/' :: rest).takeWhile (!isBlank ·)
        = name ++ '*' :: '/' :: rest.takeWhile (!isBlank ·) := by
      rw [List.takeWhile_append_of_pos hsolid, List.takeWhile_cons_of_pos (by decide),
        List.takeWhile_cons_of_pos (by decide)]
    rw [readName?]
    split
    · next rest' hs =>
      rw [if_neg (by rw [hrun]; simp)]
      refine ⟨_, _, _, rfl, ?_⟩
      rw [hrun, List.length_append]
      omega
    · next hs =>
      obtain ⟨c, name', rfl⟩ := List.exists_cons_of_ne_nil hne
      rw [hrun]
      obtain ⟨before, after, hcut, hlen⟩ :=
        exists_cutLastCloser name' (rest.takeWhile (!isBlank ·))
      simp only [List.cons_append, hcut, Option.map_some]
      exact ⟨c :: before, [], _, rfl, by simpa using hlen⟩
  · have hhead : ∀ c, (trail ++ '*' :: '/' :: rest).head? = some c → (!isBlank c) = false := by
      intro c hc
      obtain ⟨d, trail', rfl⟩ := List.exists_cons_of_ne_nil ht
      simp only [List.cons_append, List.head?_cons, Option.some.injEq] at hc
      rw [← hc, htrail d (List.mem_cons_self ..)]
      rfl
    have hrun := Text.takeWhile_append_of_head hsolid hhead
    have hafter := Text.dropWhile_append_of_head hsolid hhead
    have hstar := head_solid (c := '*') (by decide) ('/' :: rest)
    refine ⟨name, trail, rest, ?_, Nat.le_refl _⟩
    have hcloser : "*/".toList.isPrefixOf? ('*' :: '/' :: rest) = some rest :=
      Text.isPrefixOf?_append "*/".toList rest
    simp only [readName?, hrun, hafter, Text.dropWhile_append_of_head htrail hstar,
      Text.takeWhile_append_of_head htrail hstar, hcloser, if_neg hne]

theorem wellFormed_of_readName? {t name trail rest : Text}
    (h : readName? t = some ((name, trail), rest)) :
    name.all (!isBlank ·) ∧ name ≠ [] ∧ trail.all isBlank := by
  have hrun : (t.takeWhile (!isBlank ·)).all (!isBlank ·) := List.all_takeWhile
  simp only [readName?] at h
  split at h
  · split at h
    · simp at h
    · next hne =>
      simp only [Option.some.injEq, Prod.mk.injEq] at h
      obtain ⟨⟨rfl, rfl⟩, rfl⟩ := h
      exact ⟨hrun, hne, List.all_takeWhile⟩
  · split at h
    · simp at h
    · next c run hr =>
      obtain ⟨⟨name', rest'⟩, hc, he⟩ := Option.map_eq_some_iff.1 h
      simp only [Prod.mk.injEq] at he
      obtain ⟨⟨rfl, rfl⟩, rfl⟩ := he
      rw [hr, eq_of_cutLastCloser? hc, List.append_assoc, ← List.cons_append, List.all_append,
        Bool.and_eq_true] at hrun
      exact ⟨hrun.1, by simp, rfl⟩

theorem wellFormed_of_read? {t rest : Text} {m : Opening} (h : read? t = some (m, rest)) :
    m.WellFormed := by
  obtain ⟨t₁, h₁, h⟩ := Option.bind_eq_some_iff.1 h
  obtain ⟨t₂, h₂, h⟩ := Option.bind_eq_some_iff.1 h
  obtain ⟨_, hgap, h⟩ := Option.bind_eq_some_iff.1 h
  obtain ⟨⟨⟨name, trail⟩, rest'⟩, h₃, he⟩ := Option.bind_eq_some_iff.1 h
  simp only [Option.pure_def, Option.some.injEq, Prod.mk.injEq] at he
  obtain ⟨rfl, rfl⟩ := he
  obtain ⟨hsolid, hne, htrail⟩ := wellFormed_of_readName? h₃
  have hgap' : t₂.takeWhile isBlank ≠ [] := (Option.guard_eq_some' _).1 hgap
  exact ⟨List.all_takeWhile, List.all_takeWhile, hgap', hsolid, hne, htrail⟩

theorem text_append (m : Opening) (rest : Text) : m.text ++ rest
    = "/*".toList ++ (m.lead ++ ("SCOPE".toList ++ (m.gap ++ (m.name ++ (m.trail ++ '*' :: '/' :: rest))))) := by
  simp [text]

theorem head?_name {m : Opening} (h : m.WellFormed) (rest : Text) :
    ∀ c, (m.name ++ rest).head? = some c → isBlank c = false := by
  intro c hc
  obtain ⟨d, name, hd⟩ := List.exists_cons_of_ne_nil h.name_ne_nil
  have hsolid := h.name_solid
  rw [hd] at hc hsolid
  simp only [List.cons_append, List.head?_cons, Option.some.injEq] at hc
  rw [List.all_cons, Bool.and_eq_true, Bool.not_eq_true'] at hsolid
  rw [← hc]
  exact hsolid.1

theorem exists_read {m : Opening} (h : m.WellFormed) (rest : Text) :
    ∃ m' rest', read? (m.text ++ rest) = some (m', rest') ∧ m.name.length ≤ m'.name.length := by
  have hlead : ∀ c ∈ m.lead, isBlank c := List.all_eq_true.1 h.lead_blank
  have hgap : ∀ c ∈ m.gap, isBlank c := List.all_eq_true.1 h.gap_blank
  have hname := head?_name h (m.trail ++ '*' :: '/' :: rest)
  obtain ⟨name, trail, rest', hread, hlen⟩ := exists_readName (List.all_eq_true.1 h.name_solid)
    h.name_ne_nil (List.all_eq_true.1 h.trail_blank) rest
  refine ⟨⟨m.lead, m.gap, name, trail⟩, rest', ?_, hlen⟩
  rw [text_append, read?]
  simp only [Text.isPrefixOf?_append, Option.bind_eq_bind, Option.bind_some,
    Text.takeWhile_append_of_head hlead (head_scope _), Text.dropWhile_append_of_head hlead (head_scope _),
    Text.takeWhile_append_of_head hgap hname, Text.dropWhile_append_of_head hgap hname, hread,
    (Option.guard_eq_some' ()).2 h.gap_ne_nil, Option.pure_def]

theorem lead_gap_eq {m m' : Opening} {rest rest' : Text} (h : m.WellFormed)
    (h' : m'.WellFormed) (ht : m.text ++ rest = m'.text ++ rest') :
    m.lead = m'.lead ∧ m.gap = m'.gap ∧
      m.name ++ (m.trail ++ '*' :: '/' :: rest) = m'.name ++ (m'.trail ++ '*' :: '/' :: rest') := by
  rw [text_append, text_append] at ht
  obtain ⟨hlead, ht⟩ := Text.run_unique (List.all_eq_true.1 h.lead_blank)
    (List.all_eq_true.1 h'.lead_blank) (head_scope _) (head_scope _)
    (List.append_cancel_left ht)
  obtain ⟨hgap, ht⟩ := Text.run_unique (List.all_eq_true.1 h.gap_blank)
    (List.all_eq_true.1 h'.gap_blank) (head?_name h _) (head?_name h' _)
    (List.append_cancel_left ht)
  exact ⟨hlead, hgap, ht⟩

theorem eq_of_length_name_eq {m m' : Opening} {rest rest' : Text} (h : m.WellFormed)
    (h' : m'.WellFormed) (ht : m.text ++ rest = m'.text ++ rest')
    (hlen : m.name.length = m'.name.length) : m = m' ∧ rest = rest' := by
  obtain ⟨hlead, hgap, ht⟩ := lead_gap_eq h h' ht
  obtain ⟨hname, ht⟩ := List.append_inj ht hlen
  obtain ⟨htrail, ht⟩ := Text.run_unique (List.all_eq_true.1 h.trail_blank)
    (List.all_eq_true.1 h'.trail_blank) (head_solid (by decide) _)
    (head_solid (by decide) _) ht
  refine ⟨?_, by simpa using ht⟩
  cases m
  cases m'
  simp_all

theorem read?_eq_some_iff {t rest : Text} {m : Opening} :
    read? t = some (m, rest) ↔
      m.WellFormed ∧ t = m.text ++ rest ∧
        ∀ m' : Opening, m'.WellFormed → m'.text <+: t → m'.name.length ≤ m.name.length := by
  constructor
  · intro h
    refine ⟨wellFormed_of_read? h, (text_append_of_read? h).symm, ?_⟩
    rintro m' hm' ⟨rest', rfl⟩
    obtain ⟨m₂, rest₂, h₂, hlen⟩ := exists_read hm' rest'
    rw [h, Option.some.injEq, Prod.mk.injEq] at h₂
    rw [h₂.1]
    exact hlen
  · rintro ⟨hm, rfl, hmax⟩
    obtain ⟨m₂, rest₂, h₂, hlen⟩ := exists_read hm rest
    have ht := text_append_of_read? h₂
    have hm₂ := wellFormed_of_read? h₂
    have hle := hmax m₂ hm₂ ⟨rest₂, ht⟩
    obtain ⟨rfl, rfl⟩ := eq_of_length_name_eq hm hm₂ ht.symm (by omega)
    exact h₂

theorem read?_eq_none_iff {t : Text} :
    read? t = none ↔ ∀ m : Opening, m.WellFormed → ¬ m.text <+: t := by
  constructor
  · rintro h m hm ⟨rest, rfl⟩
    obtain ⟨m', rest', h', _⟩ := exists_read hm rest
    rw [h] at h'
    nomatch h'
  · intro h
    rcases hr : read? t with - | ⟨m, rest⟩
    · rfl
    · exact absurd ⟨rest, text_append_of_read? hr⟩ (h m (wellFormed_of_read? hr))

end Opening

namespace Closing

theorem wellFormed_of_read? {t rest : Text} {m : Closing} (h : read? t = some (m, rest)) :
    m.WellFormed := by
  obtain ⟨t₁, h₁, h⟩ := Option.bind_eq_some_iff.1 h
  obtain ⟨_, hlead, h⟩ := Option.bind_eq_some_iff.1 h
  obtain ⟨t₂, h₂, h⟩ := Option.bind_eq_some_iff.1 h
  obtain ⟨_, htrail, h⟩ := Option.bind_eq_some_iff.1 h
  obtain ⟨rest', h₃, he⟩ := Option.bind_eq_some_iff.1 h
  simp only [Option.pure_def, Option.some.injEq, Prod.mk.injEq] at he
  obtain ⟨rfl, rfl⟩ := he
  exact ⟨List.all_takeWhile, (Option.guard_eq_some' _).1 hlead, List.all_takeWhile,
    (Option.guard_eq_some' _).1 htrail⟩

theorem text_append (m : Closing) (rest : Text) : m.text ++ rest
    = "/*".toList ++ (m.lead ++ ("END".toList ++ (m.trail ++ ("*/".toList ++ rest)))) := by
  simp [text]

theorem read?_text_append {m : Closing} (h : m.WellFormed) (rest : Text) :
    read? (m.text ++ rest) = some (m, rest) := by
  have hlead : ∀ c ∈ m.lead, isBlank c := List.all_eq_true.1 h.lead_blank
  have htrail : ∀ c ∈ m.trail, isBlank c := List.all_eq_true.1 h.trail_blank
  have hkey (x : Text) : ∀ c, ("END".toList ++ x).head? = some c → isBlank c = false := by
    have he : "END".toList ++ x = 'E' :: ("ND".toList ++ x) := by simp
    rw [he]
    exact head_solid (by decide) _
  have hstar : ∀ c, ("*/".toList ++ rest).head? = some c → isBlank c = false := by
    have he : "*/".toList ++ rest = '*' :: '/' :: rest := by simp
    rw [he]
    exact head_solid (by decide) _
  rw [text_append, read?]
  simp only [Text.isPrefixOf?_append, Option.bind_eq_bind, Option.bind_some,
    Text.takeWhile_append_of_head hlead (hkey _), Text.dropWhile_append_of_head hlead (hkey _),
    Text.takeWhile_append_of_head htrail hstar, Text.dropWhile_append_of_head htrail hstar,
    (Option.guard_eq_some' ()).2 h.lead_ne_nil, (Option.guard_eq_some' ()).2 h.trail_ne_nil,
    Option.pure_def]

theorem read?_eq_some_iff {t rest : Text} {m : Closing} :
    read? t = some (m, rest) ↔ m.WellFormed ∧ t = m.text ++ rest := by
  constructor
  · intro h
    exact ⟨wellFormed_of_read? h, (text_append_of_read? h).symm⟩
  · rintro ⟨hm, rfl⟩
    exact read?_text_append hm rest

theorem read?_eq_none_iff {t : Text} :
    read? t = none ↔ ∀ m : Closing, m.WellFormed → ¬ m.text <+: t := by
  constructor
  · rintro h m hm ⟨rest, rfl⟩
    rw [read?_text_append hm] at h
    nomatch h
  · intro h
    rcases hr : read? t with - | ⟨m, rest⟩
    · rfl
    · exact absurd ⟨rest, text_append_of_read? hr⟩ (h m (wellFormed_of_read? hr))

end Closing

/-! ### Markers at offsets -/

section Markers

-- a kind of markers: how one is written and which are well formed
variable {M : Type} {text : M → Text} {wf : M → Prop} {t a b : Text} {i o n : Nat} {m m' : M}

def MarkerAt (text : M → Text) (wf : M → Prop) (t : Text) (i : Nat) (m : M) : Prop :=
  wf m ∧ text m <+: t.drop i

/-- Of the markers at or after offset `i` the first begins at `o`, where `m` is written. -/
structure FirstMarker (text : M → Text) (wf : M → Prop) (t : Text) (i o : Nat) (m : M) : Prop where
  le : i ≤ o
  marker : MarkerAt text wf t o m
  none_before : ∀ k, i ≤ k → k < o → ∀ m', ¬ MarkerAt text wf t k m'

theorem MarkerAt.end_le (h : MarkerAt text wf t i m) (hpos : 0 < (text m).length) :
    i + (text m).length ≤ t.length := by
  have hlen := h.2.length_le
  rw [List.length_drop] at hlen
  omega

theorem markerAt_append :
    MarkerAt text wf (a ++ b) (a.length + i) m ↔ MarkerAt text wf b i m := by
  rw [MarkerAt, MarkerAt, List.drop_length_add_append]

theorem markerAt_length : MarkerAt text wf (a ++ b) a.length m ↔ wf m ∧ text m <+: b := by
  rw [MarkerAt, List.drop_left]

theorem markerAt_take (hpos : 0 < (text m).length) :
    MarkerAt text wf (t.take n) i m ↔ MarkerAt text wf t i m ∧ i + (text m).length ≤ n := by
  rw [MarkerAt, MarkerAt, List.drop_take, List.prefix_take_iff]
  constructor
  · rintro ⟨hm, hp, hlen⟩
    exact ⟨⟨hm, hp⟩, by omega⟩
  · rintro ⟨⟨hm, hp⟩, hlen⟩
    exact ⟨hm, hp, by omega⟩

theorem MarkerAt.of_take (h : MarkerAt text wf (t.take n) i m) : MarkerAt text wf t i m := by
  have hp := h.2
  rw [List.drop_take] at hp
  exact ⟨h.1, hp.trans (List.take_prefix _ _)⟩

theorem FirstMarker.offset_unique {o' : Nat} (h : FirstMarker text wf t i o m)
    (h' : FirstMarker text wf t i o' m') : o = o' := by
  have hle : ¬ o < o' := fun hlt => h'.none_before o h.le hlt m h.marker
  have hge : ¬ o' < o := fun hlt => h.none_before o' h'.le hlt m' h'.marker
  omega

theorem FirstMarker.take (h : FirstMarker text wf t i o m) (hpos : 0 < (text m).length)
    (hn : o + (text m).length ≤ n) : FirstMarker text wf (t.take n) i o m := by
  refine ⟨h.le, (markerAt_take hpos).2 ⟨h.marker, hn⟩, ?_⟩
  intro k hi ho m' hm'
  exact h.none_before k hi ho m' hm'.of_take

theorem firstMarker_append : FirstMarker text wf (a ++ b) (a.length + i) (a.length + o) m
    ↔ FirstMarker text wf b i o m := by
  constructor
  · rintro ⟨hle, hm, hnone⟩
    refine ⟨by omega, markerAt_append.1 hm, ?_⟩
    intro k hi ho m' hm'
    exact hnone (a.length + k) (by omega) (by omega) m' (markerAt_append.2 hm')
  · rintro ⟨hle, hm, hnone⟩
    refine ⟨by omega, markerAt_append.2 hm, ?_⟩
    intro k hi ho m' hm'
    obtain ⟨k, rfl⟩ := Nat.exists_eq_add_of_le (show a.length ≤ k by omega)
    exact hnone k (by omega) (by omega) m' (markerAt_append.1 hm')

variable {read? : Text → Option (M × Text)}

theorem find?_eq_none_iff_markerAt (hnone : ∀ u, read? u = none ↔ ∀ m, wf m → ¬ text m <+: u) :
    t.find? read? = none ↔ ∀ i m, ¬ MarkerAt text wf t i m := by
  rw [Text.find?_eq_none_iff]
  constructor
  · intro h i m hm
    have hdrop : t.drop i = t.drop (min i t.length) := by
      rcases Nat.le_total i t.length with hi | hi
      · rw [Nat.min_eq_left hi]
      · rw [Nat.min_eq_right hi, List.drop_of_length_le hi, List.drop_length]
    have hread := h (min i t.length) (Nat.min_le_right _ _)
    rw [← hdrop] at hread
    exact (hnone _).1 hread m hm.1 hm.2
  · intro h i _
    exact (hnone _).2 fun m hm hp => h i m ⟨hm, hp⟩

theorem find?_eq_some_iff_firstMarker {before rest : Text}
    (hnone : ∀ u, read? u = none ↔ ∀ m, wf m → ¬ text m <+: u)
    (hsome : ∀ u rest m, read? u = some (m, rest) → wf m ∧ u = text m ++ rest) :
    t.find? read? = some (before, m, rest) ↔ t = before ++ (text m ++ rest) ∧
      read? (text m ++ rest) = some (m, rest) ∧ FirstMarker text wf t 0 before.length m := by
  rw [Text.find?_eq_some_iff]
  constructor
  · rintro ⟨tail, rfl, hread, hbefore⟩
    obtain ⟨hm, rfl⟩ := hsome _ _ _ hread
    refine ⟨rfl, hread, Nat.zero_le _, markerAt_length.2 ⟨hm, List.prefix_append _ _⟩, ?_⟩
    intro k _ hk m' hm'
    exact (hnone _).1 (hbefore k hk) m' hm'.1 hm'.2
  · rintro ⟨rfl, hread, hfirst⟩
    refine ⟨text m ++ rest, rfl, hread, ?_⟩
    intro k hk
    exact (hnone _).2 fun m' hm' hp => hfirst.none_before k (Nat.zero_le k) hk m' ⟨hm', hp⟩

end Markers

abbrev OpeningAt : Text → Nat → Opening → Prop := MarkerAt Opening.text Opening.WellFormed

abbrev ClosingAt : Text → Nat → Closing → Prop := MarkerAt Closing.text Closing.WellFormed

/-- Of the opening markers at or after offset `i` the first is at `o`, and among those at `o` the one
with the longest name is `m`. -/
structure FirstOpening (t : Text) (i o : Nat) (m : Opening) : Prop
    extends FirstMarker Opening.text Opening.WellFormed t i o m where
  longest : ∀ m', OpeningAt t o m' → m'.name.length ≤ m.name.length

abbrev FirstClosing : Text → Nat → Nat → Closing → Prop :=
  FirstMarker Closing.text Closing.WellFormed

theorem Opening.length_text_pos (m : Opening) : 0 < m.text.length := by
  simp [Opening.text]

theorem FirstOpening.take {t : Text} {n i o : Nat} {m : Opening} (h : FirstOpening t i o m)
    (hn : o + m.text.length ≤ n) : FirstOpening (t.take n) i o m := by
  refine ⟨h.toFirstMarker.take m.length_text_pos hn, ?_⟩
  intro m' hm'
  exact h.longest m' hm'.of_take

theorem firstOpening_append {a b : Text} {i o : Nat} {m : Opening} :
    FirstOpening (a ++ b) (a.length + i) (a.length + o) m ↔ FirstOpening b i o m := by
  constructor
  · rintro ⟨hfirst, hlongest⟩
    exact ⟨firstMarker_append.1 hfirst, fun m' hm' => hlongest m' (markerAt_append.2 hm')⟩
  · rintro ⟨hfirst, hlongest⟩
    exact ⟨firstMarker_append.2 hfirst, fun m' hm' => hlongest m' (markerAt_append.1 hm')⟩

theorem ClosingAt.unique {t : Text} {i : Nat} {m m' : Closing} (h : ClosingAt t i m)
    (h' : ClosingAt t i m') : m = m' := by
  obtain ⟨rest, hrest⟩ := h.2
  obtain ⟨rest', hrest'⟩ := h'.2
  have hread := Closing.read?_eq_some_iff.2 ⟨h.1, hrest.symm⟩
  rw [Closing.read?_eq_some_iff.2 ⟨h'.1, hrest'.symm⟩, Option.some.injEq, Prod.mk.injEq] at hread
  exact hread.1.symm

theorem FirstClosing.unique {t : Text} {i c c' : Nat} {m m' : Closing} (h : FirstClosing t i c m)
    (h' : FirstClosing t i c' m') : c = c' ∧ m = m' := by
  obtain rfl := h.offset_unique h'
  exact ⟨rfl, ClosingAt.unique h.marker h'.marker⟩

theorem findOpening?_eq_none_iff {t : Text} :
    findOpening? t = none ↔ ∀ i m, ¬ OpeningAt t i m :=
  find?_eq_none_iff_markerAt fun _ => Opening.read?_eq_none_iff

theorem findClosing?_eq_none_iff {t : Text} :
    findClosing? t = none ↔ ∀ i m, ¬ ClosingAt t i m :=
  find?_eq_none_iff_markerAt fun _ => Closing.read?_eq_none_iff

theorem findOpening?_eq_some_iff {t before rest : Text} {m : Opening} :
    findOpening? t = some (before, m, rest) ↔
      t = before ++ (m.text ++ rest) ∧ FirstOpening t 0 before.length m := by
  have hsome (u rest : Text) (m : Opening) (h : Opening.read? u = some (m, rest)) :
      m.WellFormed ∧ u = m.text ++ rest :=
    ⟨Opening.wellFormed_of_read? h, (Opening.text_append_of_read? h).symm⟩
  rw [findOpening?, find?_eq_some_iff_firstMarker (fun _ => Opening.read?_eq_none_iff) hsome]
  constructor
  · rintro ⟨rfl, hread, hfirst⟩
    refine ⟨rfl, hfirst, ?_⟩
    intro m' hm'
    obtain ⟨hw, hp⟩ := markerAt_length.1 hm'
    exact (Opening.read?_eq_some_iff.1 hread).2.2 m' hw hp
  · rintro ⟨rfl, hfirst, hlongest⟩
    refine ⟨rfl, Opening.read?_eq_some_iff.2 ⟨hfirst.marker.1, rfl, ?_⟩, hfirst⟩
    intro m' hm' hp
    exact hlongest m' (markerAt_length.2 ⟨hm', hp⟩)

theorem findClosing?_eq_some_iff {t before rest : Text} {m : Closing} :
    findClosing? t = some (before, m, rest) ↔
      t = before ++ (m.text ++ rest) ∧ FirstClosing t 0 before.length m := by
  rw [findClosing?, find?_eq_some_iff_firstMarker (fun _ => Closing.read?_eq_none_iff)
    fun _ _ _ => Closing.read?_eq_some_iff.1]
  constructor
  · rintro ⟨ht, _, hfirst⟩
    exact ⟨ht, hfirst⟩
  · rintro ⟨ht, hfirst⟩
    exact ⟨ht, Closing.read?_text_append hfirst.marker.1 rest, hfirst⟩

end ScopedSheets
