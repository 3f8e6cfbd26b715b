import ScopedSheets.Proofs.Sheet.Marker

/-!
# Which name an opening marker takes

After the keyword and its white space stands a run of characters that goes on to the next white space. Either
that run is the name, when the closer follows behind white space, or the name ends where the last closer inside
the run begins. Of all ways to read a marker at a place this is the one with the longest name, and it is the one
that a reader comes to first which takes as much as it can and goes back when it is stuck (`Opening.attempts`). A
search between two offsets answers the first place where some marker ends before the second offset
(`opening_reads_longest`).
-/

namespace ScopedSheets

open Text (isBlank)

def whiteSpace : List Nat :=
  [0x09, 0x0A, 0x0B, 0x0C, 0x0D, 0x1C, 0x1D, 0x1E, 0x1F, 0x20, 0x85, 0xA0, 0x1680, 0x2000, 0x2001, 0x2002,
   0x2003, 0x2004, 0x2005, 0x2006, 0x2007, 0x2008, 0x2009, 0x200A, 0x2028, 0x2029, 0x202F, 0x205F, 0x3000]

theorem isBlank_iff {c : Char} : isBlank c = true ↔ c.toNat ∈ whiteSpace := by
  have hlist : whiteSpace
      = Text.blankRanges.flatMap fun range => List.range' range.1 (range.2 + 1 - range.1) := by decide
  rw [hlist, List.mem_flatMap, isBlank, List.any_eq_true]
  refine exists_congr fun range => and_congr_right fun _ => ?_
  simp only [Bool.and_eq_true, decide_eq_true_eq, List.mem_range'_1]
  omega

/-- The text begins with the opener, white space, the keyword, white space and a run of other characters. The run
goes on to the end of the text or to white space. -/
structure BeginsName (u lead gap run after : Text) : Prop where
  text_eq : u = "/*".toList ++ (lead ++ ("SCOPE".toList ++ (gap ++ (run ++ after))))
  lead_blank : lead.all isBlank
  gap_blank : gap.all isBlank
  gap_ne_nil : gap ≠ []
  run_solid : run.all (!isBlank ·)
  run_ne_nil : run ≠ []
  after_blank : ∀ c, after.head? = some c → isBlank c = true

def ClosesAfter (after trail rest : Text) : Prop := trail.all isBlank ∧ after = trail ++ '*' :: '/' :: rest

def ClosesInside (run : Text) (k : Nat) : Prop := 1 ≤ k ∧ ['*', '/'] <+: run.drop k

theorem solid_of_all {t : Text} {c : Char} (h : t.all (!isBlank ·)) (hc : c ∈ t) : isBlank c = false := by
  simpa using List.all_eq_true.1 h c hc

namespace BeginsName

variable {u lead gap run after trail rest : Text} {k : Nat} {m : Opening}

theorem head?_run (h : BeginsName u lead gap run after) :
    ∀ c, (run ++ after).head? = some c → isBlank c = false := by
  cases hrun : run with
  | nil => exact absurd hrun h.run_ne_nil
  | cons d run =>
    have hsolid := h.run_solid
    rw [hrun] at hsolid
    exact head_solid (solid_of_all hsolid (List.mem_cons_self ..)) _

theorem opening_after (h : BeginsName u lead gap run after) (hclose : ClosesAfter after trail rest) :
    (⟨lead, gap, run, trail⟩ : Opening).WellFormed ∧ u = (⟨lead, gap, run, trail⟩ : Opening).text ++ rest := by
  refine ⟨⟨h.lead_blank, h.gap_blank, h.gap_ne_nil, h.run_solid, h.run_ne_nil, hclose.1⟩, ?_⟩
  rw [Opening.text_append, h.text_eq, hclose.2]

theorem opening_inside (h : BeginsName u lead gap run after) (hclose : ClosesInside run k) :
    (⟨lead, gap, run.take k, []⟩ : Opening).WellFormed ∧
      u = (⟨lead, gap, run.take k, []⟩ : Opening).text ++ (run.drop (k + 2) ++ after) := by
  obtain ⟨hk, tail, htail⟩ := hclose
  have hsplit := List.take_append_drop k run
  have hdrop : run.drop (k + 2) = tail := by
    rw [← List.drop_drop, ← htail]
    rfl
  have hlen := congrArg List.length htail
  simp only [List.length_append, List.length_cons, List.length_nil, List.length_drop] at hlen
  have hsolid : (run.take k).all (!isBlank ·) := by
    have hall := h.run_solid
    rw [← hsplit, List.all_append, Bool.and_eq_true] at hall
    exact hall.1
  have hne : run.take k ≠ [] := by
    intro hnil
    have hzero := congrArg List.length hnil
    rw [List.length_take, List.length_nil] at hzero
    omega
  refine ⟨⟨h.lead_blank, h.gap_blank, h.gap_ne_nil, hsolid, hne, rfl⟩, ?_⟩
  rw [Opening.text_append, h.text_eq, hdrop]
  conv => lhs; rw [← hsplit, ← htail]
  simp

theorem marker_cases (h : BeginsName u lead gap run after) (hm : m.WellFormed) (ht : u = m.text ++ rest) :
    m.lead = lead ∧ m.gap = gap ∧ ((m.name = run ∧ ClosesAfter after m.trail rest) ∨
      ∃ k, ClosesInside run k ∧ m.name = run.take k) := by
  have htext := h.text_eq
  rw [ht, Opening.text_append] at htext
  obtain ⟨hlead, htext⟩ := Text.run_unique (List.all_eq_true.1 hm.lead_blank)
    (List.all_eq_true.1 h.lead_blank) (head_scope _) (head_scope _) (List.append_cancel_left htext)
  obtain ⟨hgap, hnames⟩ := Text.run_unique (List.all_eq_true.1 hm.gap_blank)
    (List.all_eq_true.1 h.gap_blank) (Opening.head?_name hm _) h.head?_run (List.append_cancel_left htext)
  refine ⟨hlead, hgap, ?_⟩
  cases List.append_eq_append_iff.1 hnames with
  | inl hshort =>
    obtain ⟨w, hrun, hrest⟩ := hshort
    cases w with
    | nil =>
      rw [List.append_nil] at hrun
      exact Or.inl ⟨hrun.symm, hm.trail_blank, hrest.symm⟩
    | cons c w =>
      right
      -- the run goes on behind the name, so no white space stands there
      have hc : isBlank c = false := solid_of_all h.run_solid (by rw [hrun]; simp)
      cases htrail : m.trail with
      | cons d trail =>
        have hd := List.all_eq_true.1 hm.trail_blank d (by rw [htrail]; simp)
        rw [htrail] at hrest
        obtain ⟨rfl, _⟩ := List.cons.inj hrest
        rw [hd] at hc
        nomatch hc
      | nil =>
        rw [htrail] at hrest
        obtain ⟨rfl, hslash⟩ := List.cons.inj hrest
        cases w with
        | nil =>
          have hhead : after.head? = some '/' := congrArg List.head? hslash.symm
          nomatch h.after_blank '/' hhead
        | cons d w =>
          obtain ⟨rfl, _⟩ := List.cons.inj hslash
          have hpos := List.length_pos_iff.2 hm.name_ne_nil
          refine ⟨m.name.length, ⟨hpos, w, ?_⟩, ?_⟩
          · rw [hrun, List.drop_left]
            rfl
          · rw [hrun, List.take_left]
  | inr hlong =>
    obtain ⟨w, hname, hafter⟩ := hlong
    cases w with
    | nil =>
      rw [List.append_nil] at hname
      exact Or.inl ⟨hname, hm.trail_blank, hafter⟩
    | cons c w =>
      have hblank := h.after_blank c (by rw [hafter]; rfl)
      have hsolid := solid_of_all hm.name_solid (show c ∈ m.name by rw [hname]; simp)
      rw [hblank] at hsolid
      nomatch hsolid

theorem of_wellFormed (hm : m.WellFormed) (rest : Text) : ∃ run after,
    BeginsName (m.text ++ rest) m.lead m.gap run after := by
  refine ⟨(m.name ++ (m.trail ++ '*' :: '/' :: rest)).takeWhile (!isBlank ·),
    (m.name ++ (m.trail ++ '*' :: '/' :: rest)).dropWhile (!isBlank ·), ?_, hm.lead_blank, hm.gap_blank,
    hm.gap_ne_nil, List.all_takeWhile, ?_, ?_⟩
  · rw [List.takeWhile_append_dropWhile, Opening.text_append]
  · cases hname : m.name with
    | nil => exact absurd hname hm.name_ne_nil
    | cons c name =>
      have hc := solid_of_all hm.name_solid (show c ∈ m.name by rw [hname]; simp)
      simp [hc]
  · intro c hc
    have hnot := List.head?_dropWhile_not (!isBlank ·) (m.name ++ (m.trail ++ '*' :: '/' :: rest))
    rw [hc] at hnot
    simpa using hnot

theorem read?_after (h : BeginsName u lead gap run after) (hclose : ClosesAfter after trail rest) :
    Opening.read? u = some (⟨lead, gap, run, trail⟩, rest) := by
  obtain ⟨hm, ht⟩ := h.opening_after hclose
  refine Opening.read?_eq_some_iff.2 ⟨hm, ht, ?_⟩
  intro m' hm' hp
  obtain ⟨rest', hrest⟩ := hp
  obtain ⟨_, _, hname⟩ := h.marker_cases hm' hrest.symm
  cases hname with
  | inl hall => exact Nat.le_of_eq (congrArg List.length hall.1)
  | inr hpart =>
    obtain ⟨k, _, hname⟩ := hpart
    rw [hname]
    exact (List.take_sublist k run).length_le

theorem read?_inside (h : BeginsName u lead gap run after)
    (hopen : ¬ ∃ trail rest, ClosesAfter after trail rest) (hclose : ClosesInside run k)
    (hlast : ∀ j, k < j → ¬ ClosesInside run j) :
    Opening.read? u = some (⟨lead, gap, run.take k, []⟩, run.drop (k + 2) ++ after) := by
  obtain ⟨hm, ht⟩ := h.opening_inside hclose
  refine Opening.read?_eq_some_iff.2 ⟨hm, ht, ?_⟩
  intro m' hm' hp
  obtain ⟨rest', hrest⟩ := hp
  obtain ⟨_, _, hname⟩ := h.marker_cases hm' hrest.symm
  cases hname with
  | inl hall => exact absurd ⟨_, _, hall.2⟩ hopen
  | inr hpart =>
    obtain ⟨j, hj, hname⟩ := hpart
    have hle : ¬ k < j := fun hlt => hlast j hlt hj
    rw [hname, List.length_take]
    show min j run.length ≤ (run.take k).length
    rw [List.length_take]
    omega

end BeginsName

theorem Opening.exists_read_iff {u : Text} : (∃ m rest, Opening.read? u = some (m, rest)) ↔
    ∃ lead gap run after, BeginsName u lead gap run after ∧
      ((∃ trail rest, ClosesAfter after trail rest) ∨ ∃ k, ClosesInside run k) := by
  constructor
  · intro h
    obtain ⟨m, rest, hread⟩ := h
    obtain ⟨hm, ht, _⟩ := Opening.read?_eq_some_iff.1 hread
    obtain ⟨run, after, hbegins⟩ := BeginsName.of_wellFormed hm rest
    rw [← ht] at hbegins
    obtain ⟨_, _, hname⟩ := hbegins.marker_cases hm ht
    refine ⟨m.lead, m.gap, run, after, hbegins, ?_⟩
    cases hname with
    | inl hall => exact Or.inl ⟨_, _, hall.2⟩
    | inr hpart =>
      obtain ⟨k, hk, _⟩ := hpart
      exact Or.inr ⟨k, hk⟩
  · intro h
    obtain ⟨lead, gap, run, after, hbegins, hclose⟩ := h
    have hmarker : ∃ (m : Opening) (rest : Text), m.WellFormed ∧ u = m.text ++ rest := by
      cases hclose with
      | inl hafter =>
        obtain ⟨trail, rest, hafter⟩ := hafter
        exact ⟨_, _, hbegins.opening_after hafter⟩
      | inr hinside =>
        obtain ⟨k, hk⟩ := hinside
        exact ⟨_, _, hbegins.opening_inside hk⟩
    obtain ⟨m, rest, hm, ht⟩ := hmarker
    obtain ⟨m', rest', hread, _⟩ := Opening.exists_read hm rest
    rw [ht]
    exact ⟨m', rest', hread⟩

/-! ### Taking as much as possible and going back -/

/-- The beginnings of a text that are made of a class of characters, with what follows each: the longest first. -/
def runs (p : Char → Bool) : Text → List (Text × Text)
  | [] => [([], [])]
  | c :: t => (if p c then (runs p t).map fun (run, rest) => (c :: run, rest) else []) ++ [([], c :: t)]

namespace Opening

def attemptsAfterName (lead gap name t : Text) : List (Opening × Text) :=
  (runs isBlank t).flatMap fun (trail, t) =>
    ("*/".toList.isPrefixOf? t).toList.map fun rest => (⟨lead, gap, name, trail⟩, rest)

def attemptsAfterGap (lead gap t : Text) : List (Opening × Text) :=
  ((runs (!isBlank ·) t).filter (·.1 ≠ [])).flatMap fun (name, t) => attemptsAfterName lead gap name t

def attemptsAfterLead (lead t : Text) : List (Opening × Text) :=
  ("SCOPE".toList.isPrefixOf? t).toList.flatMap fun t =>
    ((runs isBlank t).filter (·.1 ≠ [])).flatMap fun (gap, t) => attemptsAfterGap lead gap t

/-- The ways to read an opening marker at the beginning of a text, in the order in which they are come to when
each part takes as much as it can at first and gives back what the parts after it need. -/
def attempts (t : Text) : List (Opening × Text) :=
  ("/*".toList.isPrefixOf? t).toList.flatMap fun t =>
    (runs isBlank t).flatMap fun (lead, t) => attemptsAfterLead lead t

end Opening

section Attempts

variable {p : Char → Bool} {t run rest : Text}

theorem runs_cons_of_pos {c : Char} (hp : p c = true) (t : Text) : runs p (c :: t)
    = ((runs p t).map fun (run, rest) => (c :: run, rest)) ++ [([], c :: t)] := by
  rw [runs, if_pos hp]

theorem runs_cons_of_neg {c : Char} (hp : ¬ p c = true) (t : Text) : runs p (c :: t) = [([], c :: t)] := by
  rw [runs, if_neg hp, List.nil_append]

theorem mem_runs : (run, rest) ∈ runs p t ↔ t = run ++ rest ∧ ∀ c ∈ run, p c := by
  induction t generalizing run with
  | nil => cases run <;> cases rest <;> simp [runs]
  | cons c t ih =>
    by_cases hp : p c
    · rw [runs_cons_of_pos hp, List.mem_append, List.mem_map, List.mem_singleton, Prod.mk.injEq]
      cases run with
      | nil => simp [@eq_comm _ rest]
      | cons d run =>
        simp only [Prod.exists, Prod.mk.injEq, List.cons.injEq, reduceCtorEq, false_and, or_false,
          List.cons_append, List.forall_mem_cons]
        constructor
        · intro h
          obtain ⟨run', rest', hcut, ⟨rfl, rfl⟩, rfl⟩ := h
          obtain ⟨ht, hrun⟩ := ih.1 hcut
          exact ⟨⟨rfl, ht⟩, hp, hrun⟩
        · intro h
          obtain ⟨⟨rfl, ht⟩, _, hrun⟩ := h
          exact ⟨run, rest, ih.2 ⟨ht, hrun⟩, ⟨rfl, rfl⟩, rfl⟩
    · rw [runs_cons_of_neg hp, List.mem_singleton, Prod.mk.injEq]
      cases run with
      | nil => simp [@eq_comm _ rest]
      | cons d run =>
        refine iff_of_false (fun h => nomatch h.1) ?_
        intro h
        obtain ⟨rfl, _⟩ := List.cons.inj h.1
        exact hp (h.2 _ (List.mem_cons_self ..))

theorem pairwise_runs (p : Char → Bool) (t : Text) :
    (runs p t).Pairwise fun a b => b.1.length < a.1.length := by
  induction t with
  | nil => simp [runs]
  | cons c t ih =>
    by_cases hp : p c
    · rw [runs_cons_of_pos hp, List.pairwise_append, List.pairwise_map]
      refine ⟨ih.imp fun h => by simpa using h, List.pairwise_singleton .., ?_⟩
      intro a ha b hb
      obtain ⟨cut, _, rfl⟩ := List.mem_map.1 ha
      rw [List.mem_singleton.1 hb]
      simp
    · rw [runs_cons_of_neg hp]
      exact List.pairwise_singleton ..

theorem mem_prefix_toList {word : Text} : rest ∈ (word.isPrefixOf? t).toList ↔ t = word ++ rest := by
  rw [Option.mem_toList]
  constructor
  · exact Text.eq_append_of_isPrefixOf?
  · intro h
    rw [h, Text.isPrefixOf?_append]

namespace Opening

theorem mem_attempts {m : Opening} : (m, rest) ∈ attempts t ↔ m.WellFormed ∧ t = m.text ++ rest := by
  simp only [attempts, attemptsAfterLead, attemptsAfterGap, attemptsAfterName, List.mem_flatMap,
    List.mem_map, List.mem_filter, mem_prefix_toList, Prod.exists, mem_runs, decide_eq_true_eq]
  constructor
  · intro h
    obtain ⟨t₁, ht, lead, t₂, ⟨ht₁, hlead⟩, t₃, ht₂, gap, t₄, ⟨⟨ht₃, hgap⟩, hgap'⟩, name, t₅,
      ⟨⟨ht₄, hname⟩, hname'⟩, trail, t₆, ⟨ht₅, htrail⟩, rest', ht₆, he⟩ := h
    obtain ⟨rfl, rfl⟩ := Prod.mk.inj he
    refine ⟨⟨List.all_eq_true.2 hlead, List.all_eq_true.2 hgap, hgap', List.all_eq_true.2 hname, hname',
      List.all_eq_true.2 htrail⟩, ?_⟩
    rw [text_append, ht, ht₁, ht₂, ht₃, ht₄, ht₅, ht₆]
    rfl
  · intro h
    obtain ⟨hm, ht⟩ := h
    exact ⟨_, ht.trans (m.text_append rest), m.lead, _, ⟨rfl, List.all_eq_true.1 hm.lead_blank⟩, _, rfl,
      m.gap, _, ⟨⟨rfl, List.all_eq_true.1 hm.gap_blank⟩, hm.gap_ne_nil⟩, m.name, _,
      ⟨⟨rfl, List.all_eq_true.1 hm.name_solid⟩, hm.name_ne_nil⟩, m.trail, _,
      ⟨rfl, List.all_eq_true.1 hm.trail_blank⟩, rest, rfl, rfl⟩

/-- One marker comes before another when the first part in which they differ is longer in it. -/
def Before (m m' : Opening) : Prop :=
  m'.lead.length < m.lead.length ∨ m.lead = m'.lead ∧
    (m'.gap.length < m.gap.length ∨ m.gap = m'.gap ∧ m'.name.length ≤ m.name.length)

section

variable {lead gap name : Text} {a : Opening × Text}

theorem of_mem_attemptsAfterName (h : a ∈ attemptsAfterName lead gap name t) :
    a.1.lead = lead ∧ a.1.gap = gap ∧ a.1.name = name := by
  obtain ⟨cut, _, hcut⟩ := List.mem_flatMap.1 h
  obtain ⟨rest, _, rfl⟩ := List.mem_map.1 hcut
  exact ⟨rfl, rfl, rfl⟩

theorem of_mem_attemptsAfterGap (h : a ∈ attemptsAfterGap lead gap t) : a.1.lead = lead ∧ a.1.gap = gap := by
  obtain ⟨cut, _, hcut⟩ := List.mem_flatMap.1 h
  obtain ⟨hlead, hgap, _⟩ := of_mem_attemptsAfterName hcut
  exact ⟨hlead, hgap⟩

theorem of_mem_attemptsAfterLead (h : a ∈ attemptsAfterLead lead t) : a.1.lead = lead := by
  obtain ⟨t', _, ht⟩ := List.mem_flatMap.1 h
  obtain ⟨cut, _, hcut⟩ := List.mem_flatMap.1 ht
  exact (of_mem_attemptsAfterGap hcut).1

theorem pairwise_attemptsAfterName (lead gap name t : Text) :
    (attemptsAfterName lead gap name t).Pairwise fun a b => Before a.1 b.1 := by
  apply List.Pairwise.imp_of_mem _ (List.pairwise_of_forall fun _ _ => trivial)
  intro a b ha hb _
  obtain ⟨hlead, hgap, hname⟩ := of_mem_attemptsAfterName ha
  obtain ⟨hlead', hgap', hname'⟩ := of_mem_attemptsAfterName hb
  have hsame : b.1.name = a.1.name := hname'.trans hname.symm
  exact Or.inr ⟨hlead.trans hlead'.symm, Or.inr ⟨hgap.trans hgap'.symm, Nat.le_of_eq (congrArg _ hsame)⟩⟩

theorem pairwise_attemptsAfterGap (lead gap t : Text) :
    (attemptsAfterGap lead gap t).Pairwise fun a b => Before a.1 b.1 := by
  rw [attemptsAfterGap, List.pairwise_flatMap]
  refine ⟨fun cut _ => pairwise_attemptsAfterName lead gap cut.1 cut.2, ?_⟩
  refine ((pairwise_runs _ t).filter _).imp ?_
  intro cut cut' hlen a ha b hb
  obtain ⟨hlead, hgap, hname⟩ := of_mem_attemptsAfterName ha
  obtain ⟨hlead', hgap', hname'⟩ := of_mem_attemptsAfterName hb
  refine Or.inr ⟨hlead.trans hlead'.symm, Or.inr ⟨hgap.trans hgap'.symm, ?_⟩⟩
  rw [hname, hname']
  exact Nat.le_of_lt hlen

theorem pairwise_attemptsAfterLead (lead t : Text) :
    (attemptsAfterLead lead t).Pairwise fun a b => Before a.1 b.1 := by
  unfold attemptsAfterLead
  cases "SCOPE".toList.isPrefixOf? t with
  | none => exact List.Pairwise.nil
  | some t =>
    rw [Option.toList_some, List.flatMap_singleton, List.pairwise_flatMap]
    refine ⟨fun cut _ => pairwise_attemptsAfterGap lead cut.1 cut.2, ?_⟩
    refine ((pairwise_runs _ t).filter _).imp ?_
    intro cut cut' hlen a ha b hb
    obtain ⟨hlead, hgap⟩ := of_mem_attemptsAfterGap ha
    obtain ⟨hlead', hgap'⟩ := of_mem_attemptsAfterGap hb
    refine Or.inr ⟨hlead.trans hlead'.symm, Or.inl ?_⟩
    rw [hgap, hgap']
    exact hlen

theorem pairwise_attempts (t : Text) : (attempts t).Pairwise fun a b => Before a.1 b.1 := by
  unfold attempts
  cases "/*".toList.isPrefixOf? t with
  | none => exact List.Pairwise.nil
  | some t =>
    rw [Option.toList_some, List.flatMap_singleton, List.pairwise_flatMap]
    refine ⟨fun cut _ => pairwise_attemptsAfterLead cut.1 cut.2, (pairwise_runs _ t).imp ?_⟩
    intro cut cut' hlen a ha b hb
    left
    rw [of_mem_attemptsAfterLead ha, of_mem_attemptsAfterLead hb]
    exact hlen

end

theorem read?_eq_head?_attempts (t : Text) : read? t = (attempts t).head? := by
  cases hattempts : attempts t with
  | nil =>
    rw [List.head?_nil, read?_eq_none_iff]
    intro m hm hp
    obtain ⟨rest, hrest⟩ := hp
    have hmem := mem_attempts.2 ⟨hm, hrest.symm⟩
    rw [hattempts] at hmem
    nomatch hmem
  | cons a others =>
    obtain ⟨m, rest⟩ := a
    have hpairs := pairwise_attempts t
    rw [hattempts, List.pairwise_cons] at hpairs
    obtain ⟨hm, ht⟩ := mem_attempts.1 (show (m, rest) ∈ attempts t by rw [hattempts]; exact List.mem_cons_self ..)
    rw [List.head?_cons, read?_eq_some_iff]
    refine ⟨hm, ht, ?_⟩
    intro m' hm' hp
    obtain ⟨rest', hrest⟩ := hp
    have hmem := mem_attempts.2 ⟨hm', hrest.symm⟩
    rw [hattempts] at hmem
    cases List.mem_cons.1 hmem with
    | inl hsame =>
      obtain ⟨rfl, _⟩ := Prod.mk.inj hsame
      exact Nat.le_refl _
    | inr hlater =>
      -- both have the same white space around the keyword, so the order is that of the names
      obtain ⟨hlead, hgap, _⟩ := lead_gap_eq hm hm' (ht.symm.trans hrest.symm)
      have hbefore : Before m m' := hpairs.1 _ hlater
      unfold Before at hbefore
      rw [hlead, hgap] at hbefore
      omega

end Opening

end Attempts

/-! ### Searching between two offsets -/

/-- Of the opening markers of `t` that begin at `start` or later and end at `stop` or earlier the first begins at
`o`, and among those at `o` the one with the longest name is `m`. -/
structure FirstWithin (t : Text) (start stop o : Nat) (m : Opening) : Prop where
  le : start ≤ o
  marker : OpeningAt t o m
  end_le : o + m.text.length ≤ stop
  longest : ∀ m', OpeningAt t o m' → o + m'.text.length ≤ stop → m' ≠ m → m'.name.length < m.name.length
  none_before : ∀ k m', start ≤ k → k < o → OpeningAt t k m' → stop < k + m'.text.length

section Search

variable {t : Text} {start stop o : Nat} {m : Opening}

theorem openingAt_drop_take {k : Nat} : OpeningAt ((t.take stop).drop start) k m ↔
    OpeningAt t (start + k) m ∧ start + k + m.text.length ≤ stop := by
  rw [← markerAt_take m.length_text_pos]
  unfold OpeningAt MarkerAt
  rw [List.drop_drop]

theorem OpeningAt.name_lt {m' : Opening} (hm : OpeningAt t o m) (hm' : OpeningAt t o m')
    (hle : m'.name.length ≤ m.name.length) (hne : m' ≠ m) : m'.name.length < m.name.length := by
  obtain ⟨rest, hrest⟩ := hm.2
  obtain ⟨rest', hrest'⟩ := hm'.2
  have hlen : m'.name.length ≠ m.name.length := by
    intro h
    exact hne (Opening.eq_of_length_name_eq hm'.1 hm.1 (hrest'.trans hrest.symm) h).1
  omega

theorem searchOpening?_eq_some_iff :
    searchOpening? t start stop = some (o, m) ↔ FirstWithin t start stop o m := by
  unfold searchOpening?
  rw [Option.map_eq_some_iff]
  constructor
  · intro h
    obtain ⟨⟨before, m', rest⟩, hfind, he⟩ := h
    obtain ⟨rfl, rfl⟩ := Prod.mk.inj he
    obtain ⟨_, hfirst, hlongest⟩ := findOpening?_eq_some_iff.1 hfind
    obtain ⟨hm, hend⟩ := openingAt_drop_take.1 hfirst.marker
    refine ⟨Nat.le_add_right .., hm, hend, ?_, ?_⟩
    · intro m'' hm'' hend' hne
      exact hm.name_lt hm'' (hlongest m'' (openingAt_drop_take.2 ⟨hm'', hend'⟩)) hne
    · intro k m'' hstart hk hm''
      obtain ⟨j, rfl⟩ := Nat.exists_eq_add_of_le hstart
      have hnot : ¬ start + j + m''.text.length ≤ stop := fun hend' =>
        hfirst.none_before j (Nat.zero_le j) (by omega) m'' (openingAt_drop_take.2 ⟨hm'', hend'⟩)
      omega
  · intro h
    obtain ⟨k, rfl⟩ := Nat.exists_eq_add_of_le h.le
    have hm := openingAt_drop_take.2 ⟨h.marker, h.end_le⟩
    obtain ⟨rest, hrest⟩ := hm.2
    have hlen : ((t.take stop).drop start |>.take k).length = k := by
      have hend := hm.end_le m.length_text_pos
      rw [List.length_take]
      omega
    refine ⟨⟨((t.take stop).drop start).take k, m, rest⟩, findOpening?_eq_some_iff.2 ⟨?_, ?_⟩, ?_⟩
    · rw [hrest, List.take_append_drop]
    · rw [hlen]
      refine ⟨⟨Nat.zero_le k, hm, ?_⟩, ?_⟩
      · intro j _ hj m' hm'
        obtain ⟨hat, hend⟩ := openingAt_drop_take.1 hm'
        have hbehind := h.none_before (start + j) m' (Nat.le_add_right ..) (by omega) hat
        omega
      · intro m' hm'
        obtain ⟨hat, hend⟩ := openingAt_drop_take.1 hm'
        by_cases hsame : m' = m
        · exact Nat.le_of_eq (congrArg (·.name.length) hsame)
        · exact Nat.le_of_lt (h.longest m' hat hend hsame)
    · simp only [hlen]

theorem searchOpening?_eq_none_iff : searchOpening? t start stop = none ↔
    ∀ k m, start ≤ k → OpeningAt t k m → stop < k + m.text.length := by
  unfold searchOpening?
  rw [Option.map_eq_none_iff, findOpening?_eq_none_iff]
  constructor
  · intro h k m hstart hm
    obtain ⟨j, rfl⟩ := Nat.exists_eq_add_of_le hstart
    have hnot : ¬ start + j + m.text.length ≤ stop := fun hend =>
      h j m (openingAt_drop_take.2 ⟨hm, hend⟩)
    omega
  · intro h k m hm
    obtain ⟨hat, hend⟩ := openingAt_drop_take.1 hm
    have hbehind := h (start + k) m (Nat.le_add_right ..) hat
    omega

end Search

/-- How an opening marker at the beginning of `u` is read: if one can be read, and which. -/
structure MarkerReading (u : Text) : Prop where
  first_attempt : Opening.read? u = (Opening.attempts u).head?
  exists_iff : (∃ m rest, Opening.read? u = some (m, rest)) ↔
    ∃ lead gap run after, BeginsName u lead gap run after ∧
      ((∃ trail rest, ClosesAfter after trail rest) ∨ ∃ k, ClosesInside run k)
  whole_run : ∀ lead gap run after trail rest, BeginsName u lead gap run after →
    ClosesAfter after trail rest → Opening.read? u = some (⟨lead, gap, run, trail⟩, rest)
  last_closer : ∀ lead gap run after k, BeginsName u lead gap run after →
    (¬ ∃ trail rest, ClosesAfter after trail rest) → ClosesInside run k →
    (∀ j, k < j → ¬ ClosesInside run j) →
    Opening.read? u = some (⟨lead, gap, run.take k, []⟩, run.drop (k + 2) ++ after)
  longest : ∀ m rest, Opening.read? u = some (m, rest) → u = m.text ++ rest ∧ m.WellFormed ∧
    ∀ m' : Opening, m'.WellFormed → m'.text <+: u → m' ≠ m → m'.name.length < m.name.length

theorem markerReading (u : Text) : MarkerReading u := by
  refine ⟨Opening.read?_eq_head?_attempts u, Opening.exists_read_iff, ?_, ?_, ?_⟩
  · intro lead gap run after trail rest h hclose
    exact h.read?_after hclose
  · intro lead gap run after k h hopen hclose hlast
    exact h.read?_inside hopen hclose hlast
  · intro m rest hread
    obtain ⟨hm, ht, hlongest⟩ := Opening.read?_eq_some_iff.1 hread
    refine ⟨ht, hm, ?_⟩
    intro m' hm' hp hne
    have hat : OpeningAt u 0 m := ⟨hm, by rw [ht]; exact List.prefix_append _ _⟩
    exact hat.name_lt ⟨hm', hp⟩ (hlongest m' hm' hp) hne

/-- At each place of a text a marker is read as the run behind the keyword requires, with the longest name of all.
A search between two offsets, which is a search of the text between them, answers the least place where some
marker ends before the second offset. White space is that of all scripts. -/
theorem opening_reads_longest (t : Text) :
    (∀ i, MarkerReading (t.drop i)) ∧
    (∀ start stop o m, searchOpening? t start stop = some (o, m) ↔ FirstWithin t start stop o m) ∧
    (∀ start stop, searchOpening? t start stop = none ↔
      ∀ k m, start ≤ k → OpeningAt t k m → stop < k + m.text.length) ∧
    (∀ a body b, t = a ++ (body ++ b) → searchOpening? t a.length (a.length + body.length)
      = (findOpening? body).map fun (before, m, _) => (a.length + before.length, m)) ∧
    ∀ c, isBlank c = true ↔ c.toNat ∈ whiteSpace := by
  refine ⟨fun i => markerReading _, fun _ _ _ _ => searchOpening?_eq_some_iff,
    fun _ _ => searchOpening?_eq_none_iff, ?_, fun _ => isBlank_iff⟩
  intro a body b ht
  rw [ht, searchOpening?_append]

theorem opening_reads_longest_two_closers :
    Opening.read? "/*SCOPE a*/b*/c".toList = some (⟨[], [' '], "a*/b".toList, []⟩, ['c']) ∧
    searchOpening? "/*SCOPE a*/b*/c".toList 0 11 = some (0, ⟨[], [' '], ['a'], []⟩) ∧
    FirstWithin "/*SCOPE a*/b*/c".toList 0 11 0 ⟨[], [' '], ['a'], []⟩ := by
  obtain ⟨hread, hsearch, _⟩ := opening_reads_longest "/*SCOPE a*/b*/c".toList
  have hbegins : BeginsName "/*SCOPE a*/b*/c".toList [] [' '] "a*/b*/c".toList [] :=
    ⟨rfl, rfl, rfl, by decide, rfl, by decide, by simp⟩
  have hopen : ¬ ∃ trail rest, ClosesAfter [] trail rest := by
    intro h
    obtain ⟨trail, rest, _, h⟩ := h
    simp at h
  have hlast : ∀ j, 4 < j → ¬ ClosesInside "a*/b*/c".toList j := by
    intro j hj h
    have hlen := h.2.length_le
    simp only [List.length_drop, List.length_cons, List.length_nil] at hlen
    have htwo : "a*/b*/c".toList.length = 7 := rfl
    obtain rfl : j = 5 := by omega
    exact absurd h.2 (by decide)
  have hfound : searchOpening? "/*SCOPE a*/b*/c".toList 0 11 = some (0, ⟨[], [' '], ['a'], []⟩) := by
    decide +kernel
  exact ⟨(hread 0).last_closer [] [' '] "a*/b*/c".toList [] 4 hbegins hopen ⟨by decide, by decide⟩ hlast,
    hfound, (hsearch 0 11 0 _).1 hfound⟩

end ScopedSheets
