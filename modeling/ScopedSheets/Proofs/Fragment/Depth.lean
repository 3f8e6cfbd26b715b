import Mathlib.Tactic.ByContra
import ScopedSheets.Fragment.Braces
import ScopedSheets.Proofs.Fragment.Reading

/-!
# Brace depth

Outside comments an opening brace raises the depth by one and a closing brace lowers it by one. In these
terms the cuts at braces have exact answers: a header is what holds no opening brace, a body is what
never sinks below the depth it starts from and ends there (`firstRule?_eq_some_iff`), and no rule is left
when no brace opens or the first one that opens is never closed (`firstRule?_eq_none_iff`).
-/

namespace ScopedSheets

def Piece.depth : Piece → Int
  | .char '{' => 1
  | .char '}' => -1
  | _ => 0

def depth : List Piece → Int
  | [] => 0
  | p :: ps => p.depth + depth ps

@[simp] theorem depth_nil : depth [] = 0 := rfl

@[simp] theorem depth_cons (p : Piece) (ps : List Piece) :
    depth (p :: ps) = p.depth + depth ps := rfl

@[simp] theorem depth_append (ps qs : List Piece) : depth (ps ++ qs) = depth ps + depth qs := by
  induction ps with
  | nil => rw [List.nil_append, depth_nil, Int.zero_add]
  | cons p ps ih => rw [List.cons_append, depth_cons, depth_cons, ih, Int.add_assoc]

@[simp] theorem depth_open : (Piece.char '{').depth = 1 := rfl

@[simp] theorem depth_close : (Piece.char '}').depth = -1 := rfl

theorem Piece.Braceless.depth_eq_zero {p : Piece} (h : p.Braceless) : p.depth = 0 := by
  rw [Piece.depth]
  · intro hp
    exact h.1 hp
  · intro hp
    exact h.2 hp

theorem depth_eq_zero {ps : List Piece} (h : ∀ p ∈ ps, p.Braceless) : depth ps = 0 := by
  induction ps with
  | nil => rfl
  | cons p ps ih =>
    rw [depth_cons, (h p (List.mem_cons_self ..)).depth_eq_zero,
      ih (fun q hq => h q (List.mem_cons_of_mem _ hq))]
    rfl

theorem depth_le_zero_of_ne {p : Piece} (h : p ≠ .char '{') : p.depth ≤ 0 := by
  by_cases hp : p = .char '}'
  · rw [hp, depth_close]
    omega
  · have hzero := Piece.Braceless.depth_eq_zero ⟨h, hp⟩
    omega

theorem eq_close_of_depth_neg {p : Piece} (h : p.depth < 0) : p = .char '}' := by
  by_contra hp
  by_cases ho : p = .char '{'
  · rw [ho, depth_open] at h
    omega
  · rw [Piece.Braceless.depth_eq_zero ⟨ho, hp⟩] at h
    omega

/-! ### Pieces that never sink below the start -/

def StaysOpen (d : Int) (ps : List Piece) : Prop := ∀ qs, qs <+: ps → 0 ≤ d + depth qs

theorem staysOpen_nil {d : Int} (h : 0 ≤ d) : StaysOpen d [] := by
  intro qs hq
  rw [List.prefix_nil.1 hq, depth_nil]
  omega

theorem StaysOpen.nonneg {d : Int} {ps : List Piece} (h : StaysOpen d ps) : 0 ≤ d := by
  have hnil := h [] List.nil_prefix
  rw [depth_nil] at hnil
  omega

theorem staysOpen_cons_iff {d : Int} {p : Piece} {ps : List Piece} :
    StaysOpen d (p :: ps) ↔ 0 ≤ d ∧ StaysOpen (d + p.depth) ps := by
  constructor
  · intro h
    refine ⟨h.nonneg, fun qs hq => ?_⟩
    have hp := h (p :: qs) (by simpa using hq)
    rw [depth_cons] at hp
    omega
  · rintro ⟨hd, h⟩ qs hq
    rcases List.prefix_cons_iff.1 hq with rfl | ⟨qs', rfl, hq'⟩
    · rw [depth_nil]
      omega
    · have hp := h qs' hq'
      rw [depth_cons]
      omega

theorem staysOpen_append_iff {d : Int} {ps qs : List Piece} :
    StaysOpen d (ps ++ qs) ↔ StaysOpen d ps ∧ StaysOpen (d + depth ps) qs := by
  induction ps generalizing d with
  | nil =>
    rw [List.nil_append, depth_nil, Int.add_zero]
    exact ⟨fun h => ⟨staysOpen_nil h.nonneg, h⟩, fun h => h.2⟩
  | cons p ps ih =>
    rw [List.cons_append, staysOpen_cons_iff, staysOpen_cons_iff, ih, depth_cons, and_assoc,
      Int.add_assoc]

theorem StaysOpen.of_braceless {d : Int} {ps : List Piece} (hd : 0 ≤ d)
    (h : ∀ p ∈ ps, p.Braceless) : StaysOpen d ps := by
  intro qs hq
  rw [depth_eq_zero (fun p hp => h p (hq.subset hp))]
  omega

/-- Pieces whose braces pair up. -/
structure Balanced (ps : List Piece) : Prop where
  staysOpen : StaysOpen 0 ps
  depth_eq : depth ps = 0

theorem balanced_of_braceless {ps : List Piece} (h : ∀ p ∈ ps, p.Braceless) : Balanced ps :=
  ⟨StaysOpen.of_braceless (Int.le_refl 0) h, depth_eq_zero h⟩

theorem balanced_nil : Balanced [] := balanced_of_braceless (by simp)

theorem Balanced.append {ps qs : List Piece} (hp : Balanced ps) (hq : Balanced qs) :
    Balanced (ps ++ qs) := by
  constructor
  · rw [staysOpen_append_iff, hp.depth_eq]
    exact ⟨hp.staysOpen, hq.staysOpen⟩
  · rw [depth_append, hp.depth_eq, hq.depth_eq, Int.add_zero]

theorem Balanced.staysOpen_of_le {d : Int} {ps : List Piece} (h : Balanced ps) (hd : 0 ≤ d) :
    StaysOpen d ps := by
  intro qs hq
  have h0 := h.staysOpen qs hq
  omega

theorem Balanced.enclose {ps : List Piece} (h : Balanced ps) :
    Balanced (.char '{' :: ps ++ [.char '}']) := by
  constructor
  · rw [List.cons_append, staysOpen_cons_iff, staysOpen_append_iff, h.depth_eq]
    refine ⟨Int.le_refl 0, h.staysOpen_of_le (by decide), ?_⟩
    rw [staysOpen_cons_iff]
    exact ⟨by decide, staysOpen_nil (by decide)⟩
  · rw [List.cons_append, depth_cons, depth_append, h.depth_eq]
    rfl

theorem Balanced.of_append {ps qs : List Piece} (h : Balanced (ps ++ qs))
    (hq : ∀ p ∈ qs, p.Braceless) : Balanced ps := by
  have hdepth := h.depth_eq
  rw [depth_append, depth_eq_zero hq, Int.add_zero] at hdepth
  exact ⟨(staysOpen_append_iff.1 h.staysOpen).1, hdepth⟩

theorem braceless_of_staysOpen {ps : List Piece} (h : StaysOpen 0 ps) (ho : .char '{' ∉ ps) :
    ∀ p ∈ ps, p.Braceless := by
  induction ps with
  | nil => simp
  | cons p ps ih =>
    rw [List.mem_cons, not_or] at ho
    rw [staysOpen_cons_iff, Int.zero_add] at h
    have hle := depth_le_zero_of_ne (Ne.symm ho.1)
    have hge := h.2.nonneg
    have hzero : p.depth = 0 := by omega
    have hclose : p ≠ .char '}' := by
      rintro rfl
      rw [depth_close] at hzero
      omega
    rw [hzero] at h
    intro p' hp'
    rcases List.mem_cons.1 hp' with rfl | hp'
    · exact ⟨Ne.symm ho.1, hclose⟩
    · exact ih h.2 ho.2 p' hp'

theorem splitHeader_eq_none_iff {ps : List Piece} : splitHeader ps = none ↔ .char '{' ∉ ps := by
  induction ps with
  | nil => simp [splitHeader]
  | cons p ps ih =>
    by_cases hp : p = .char '{'
    · simp [splitHeader, hp]
    · simp [splitHeader, hp, ih, Ne.symm hp]

theorem splitHeader_append {header : List Piece} (h : .char '{' ∉ header) (rest : List Piece) :
    splitHeader (header ++ .char '{' :: rest) = some (header, rest) := by
  induction header with
  | nil => simp [splitHeader]
  | cons p header ih =>
    rw [List.mem_cons, not_or] at h
    rw [List.cons_append, splitHeader, if_neg (Ne.symm h.1), ih h.2, Option.map_some]

theorem splitHeader_append_left {lead : List Piece} (h : .char '{' ∉ lead) (ps : List Piece) :
    splitHeader (lead ++ ps) = (splitHeader ps).map fun (header, rest) => (lead ++ header, rest) := by
  induction lead with
  | nil =>
    rw [List.nil_append]
    cases splitHeader ps with
    | none => rfl
    | some cut => rfl
  | cons p lead ih =>
    rw [List.mem_cons, not_or] at h
    rw [List.cons_append, splitHeader, if_neg (Ne.symm h.1), ih h.2]
    cases splitHeader ps with
    | none => rfl
    | some cut => rfl

theorem splitHeader_eq_some_iff {ps header rest : List Piece} :
    splitHeader ps = some (header, rest) ↔
      ps = header ++ .char '{' :: rest ∧ .char '{' ∉ header := by
  constructor
  · intro h
    refine ⟨eq_of_splitHeader h, ?_⟩
    induction ps generalizing header with
    | nil => simp [splitHeader] at h
    | cons p ps ih =>
      rw [splitHeader] at h
      by_cases hp : p = .char '{'
      · rw [if_pos hp, Option.some.injEq, Prod.mk.injEq] at h
        simp [← h.1]
      · rw [if_neg hp] at h
        obtain ⟨⟨header', rest'⟩, hs, he⟩ := Option.map_eq_some_iff.1 h
        simp only [Prod.mk.injEq] at he
        obtain ⟨rfl, rfl⟩ := he
        rw [List.mem_cons, not_or]
        exact ⟨Ne.symm hp, ih hs⟩
  · rintro ⟨rfl, h⟩
    exact splitHeader_append h rest

theorem splitBody_cons {d e : Nat} {p : Piece} {ps : List Piece} (he : (e : Int) = d + p.depth) :
    splitBody d (p :: ps) = (splitBody e ps).map fun (body, rest) => (p :: body, rest) := by
  by_cases ho : p = .char '{'
  · have hd : e = d + 1 := by
      rw [ho, depth_open] at he
      omega
    rw [splitBody.eq_def, hd]
    simp only [if_pos ho]
  · by_cases hc : p = .char '}'
    · have hd : d = e + 1 := by
        rw [hc, depth_close] at he
        omega
      rw [splitBody.eq_def, hd]
      simp only [if_neg ho, if_pos hc]
    · have hd : e = d := by
        rw [Piece.Braceless.depth_eq_zero ⟨ho, hc⟩] at he
        omega
      rw [splitBody.eq_def, hd]
      simp only [if_neg ho, if_neg hc]

theorem splitBody_append {d : Nat} {body : List Piece} (hopen : StaysOpen d body)
    (hdepth : d + depth body = 0) (rest : List Piece) :
    splitBody d (body ++ .char '}' :: rest) = some (body, rest) := by
  induction body generalizing d with
  | nil =>
    have hd : d = 0 := by
      rw [depth_nil] at hdepth
      omega
    subst hd
    simp [splitBody]
  | cons p body ih =>
    rw [staysOpen_cons_iff] at hopen
    obtain ⟨e, he⟩ := Int.eq_ofNat_of_zero_le hopen.2.nonneg
    rw [he] at hopen
    rw [depth_cons] at hdepth
    rw [List.cons_append, splitBody_cons he.symm, ih hopen.2 (by omega), Option.map_some]

theorem splitBody_eq_none_of_staysOpen {d : Nat} {ps : List Piece} (h : StaysOpen d ps) :
    splitBody d ps = none := by
  induction ps generalizing d with
  | nil => rfl
  | cons p ps ih =>
    rw [staysOpen_cons_iff] at h
    obtain ⟨e, he⟩ := Int.eq_ofNat_of_zero_le h.2.nonneg
    rw [he] at h
    rw [splitBody_cons he.symm, ih h.2, Option.map_none]

theorem staysOpen_or_closes (d : Nat) (ps : List Piece) :
    StaysOpen d ps ∨ ∃ body rest, ps = body ++ .char '}' :: rest ∧ StaysOpen d body ∧
      d + depth body = 0 := by
  induction ps generalizing d with
  | nil => exact Or.inl (staysOpen_nil (Int.natCast_nonneg d))
  | cons p ps ih =>
    by_cases hend : d = 0 ∧ p = .char '}'
    · obtain ⟨rfl, rfl⟩ := hend
      exact Or.inr ⟨[], ps, rfl, staysOpen_nil (Int.le_refl 0), rfl⟩
    · have hpos : 0 ≤ d + p.depth := by
        by_contra hneg
        have hclose := eq_close_of_depth_neg (p := p) (by omega)
        rw [hclose, depth_close] at hneg
        exact hend ⟨by omega, hclose⟩
      obtain ⟨e, he⟩ := Int.eq_ofNat_of_zero_le hpos
      rcases ih e with hopen | ⟨body, rest, rfl, hopen, hdepth⟩
      · refine Or.inl (staysOpen_cons_iff.2 ⟨Int.natCast_nonneg d, ?_⟩)
        rw [he]
        exact hopen
      · refine Or.inr ⟨p :: body, rest, rfl, staysOpen_cons_iff.2 ⟨Int.natCast_nonneg d, ?_⟩, ?_⟩
        · rw [he]
          exact hopen
        · rw [depth_cons]
          omega

theorem splitBody_eq_some_iff {d : Nat} {ps body rest : List Piece} :
    splitBody d ps = some (body, rest) ↔
      ps = body ++ .char '}' :: rest ∧ StaysOpen d body ∧ d + depth body = 0 := by
  constructor
  · intro h
    rcases staysOpen_or_closes d ps with hopen | ⟨body', rest', rfl, hopen, hdepth⟩
    · rw [splitBody_eq_none_of_staysOpen hopen] at h
      nomatch h
    · rw [splitBody_append hopen hdepth, Option.some.injEq, Prod.mk.injEq] at h
      obtain ⟨rfl, rfl⟩ := h
      exact ⟨rfl, hopen, hdepth⟩
  · rintro ⟨rfl, hopen, hdepth⟩
    exact splitBody_append hopen hdepth rest

theorem splitBody_eq_none_iff {d : Nat} {ps : List Piece} :
    splitBody d ps = none ↔ StaysOpen d ps := by
  constructor
  · intro h
    rcases staysOpen_or_closes d ps with hopen | ⟨body, rest, rfl, hopen, hdepth⟩
    · exact hopen
    · rw [splitBody_append hopen hdepth] at h
      nomatch h
  · exact splitBody_eq_none_of_staysOpen

theorem firstRule?_eq_some_iff {ps rest : List Piece} {r : RawRule} :
    firstRule? ps = some (r, rest) ↔
      ps = r.header ++ .char '{' :: (r.inner ++ .char '}' :: rest) ∧
        .char '{' ∉ r.header ∧ Balanced r.inner := by
  constructor
  · intro h
    obtain ⟨⟨header, mid⟩, hh, hb⟩ := Option.bind_eq_some_iff.1 h
    obtain ⟨⟨inner, rest'⟩, hs, he⟩ := Option.map_eq_some_iff.1 hb
    simp only [Prod.mk.injEq] at he
    obtain ⟨rfl, rfl⟩ := he
    obtain ⟨rfl, hheader⟩ := splitHeader_eq_some_iff.1 hh
    obtain ⟨rfl, hopen, hdepth⟩ := splitBody_eq_some_iff.1 hs
    exact ⟨rfl, hheader, hopen, by simpa using hdepth⟩
  · rintro ⟨rfl, hheader, hinner⟩
    have hbody : splitBody 0 (r.inner ++ .char '}' :: rest) = some (r.inner, rest) :=
      splitBody_append hinner.staysOpen (by rw [hinner.depth_eq]; rfl) rest
    simp only [firstRule?, splitHeader_append hheader, Option.bind_some, hbody, Option.map_some]

theorem firstRule?_eq_none_iff {ps : List Piece} :
    firstRule? ps = none ↔
      .char '{' ∉ ps ∨
        ∃ header rest, ps = header ++ .char '{' :: rest ∧ .char '{' ∉ header ∧ StaysOpen 0 rest := by
  constructor
  · intro h
    rcases hs : splitHeader ps with - | ⟨header, rest⟩
    · exact Or.inl (splitHeader_eq_none_iff.1 hs)
    · rw [firstRule?, hs, Option.bind_some, Option.map_eq_none_iff] at h
      obtain ⟨rfl, hheader⟩ := splitHeader_eq_some_iff.1 hs
      exact Or.inr ⟨header, rest, rfl, hheader, splitBody_eq_none_iff.1 h⟩
  · rintro (h | ⟨header, rest, rfl, hheader, hopen⟩)
    · rw [firstRule?, splitHeader_eq_none_iff.2 h, Option.bind_none]
    · have hbody : splitBody 0 rest = none := splitBody_eq_none_iff.2 hopen
      simp only [firstRule?, splitHeader_append hheader, Option.bind_some, hbody, Option.map_none]

/-! ### All rules -/

theorem splitRules_append {r : RawRule} (hheader : .char '{' ∉ r.header) (hinner : Balanced r.inner)
    (rest : List Piece) :
    splitRules (r.header ++ .char '{' :: (r.inner ++ .char '}' :: rest))
      = (r :: (splitRules rest).1, (splitRules rest).2) :=
  splitRules_of_some (firstRule?_eq_some_iff.2 ⟨rfl, hheader, hinner⟩)

theorem firstRule?_append_left {lead : List Piece} (h : .char '{' ∉ lead) (ps : List Piece) :
    firstRule? (lead ++ ps)
      = (firstRule? ps).map fun (r, rest) => (⟨lead ++ r.header, r.inner⟩, rest) := by
  rw [firstRule?, firstRule?, splitHeader_append_left h]
  rcases splitHeader ps with - | ⟨header, mid⟩
  · rfl
  · simp only [Option.map_some, Option.bind_some]
    cases splitBody 0 mid with
    | none => rfl
    | some cut => rfl

theorem splitRules_append_left {lead : List Piece} (h : .char '{' ∉ lead) (ps : List Piece) :
    (splitRules (lead ++ ps)).1
      = (splitRules ps).1.modifyHead fun r => ⟨lead ++ r.header, r.inner⟩ := by
  have hstep := firstRule?_append_left h ps
  rcases hf : firstRule? ps with - | ⟨r, rest⟩
  · rw [hf] at hstep
    rw [splitRules_of_none hf, splitRules_of_none hstep]
    rfl
  · rw [hf] at hstep
    rw [splitRules_of_some hf, splitRules_of_some hstep]
    rfl

theorem firstRule?_concat {ps : List Piece} {p : Piece} (hp : p.Braceless)
    (h : firstRule? ps = none) : firstRule? (ps ++ [p]) = none := by
  rw [firstRule?_eq_none_iff] at h ⊢
  rcases h with h | ⟨header, rest, rfl, hheader, hopen⟩
  · refine Or.inl ?_
    rw [List.mem_append, List.mem_singleton, not_or]
    exact ⟨h, Ne.symm hp.1⟩
  · refine Or.inr ⟨header, rest ++ [p], by simp, hheader, ?_⟩
    have hend : StaysOpen (0 + depth rest) [p] := by
      apply StaysOpen.of_braceless (hopen rest List.prefix_rfl)
      intro p' hp'
      rwa [List.mem_singleton.1 hp']
    exact staysOpen_append_iff.2 ⟨hopen, hend⟩

theorem splitRules_concat {p : Piece} (hp : p.Braceless) (ps : List Piece) :
    (splitRules (ps ++ [p])).1 = (splitRules ps).1 := by
  fun_induction splitRules ps with
  | case1 ps h => rw [splitRules_of_none (firstRule?_concat hp h)]
  | case2 ps r rest h _ ih =>
    obtain ⟨hps, hheader, hinner⟩ := firstRule?_eq_some_iff.1 h
    have hfirst : firstRule? (ps ++ [p]) = some (r, rest ++ [p]) :=
      firstRule?_eq_some_iff.2 ⟨by rw [hps]; simp, hheader, hinner⟩
    rw [splitRules_of_some hfirst, ih]

theorem StaysOpen.of_firstRule? {ps rest : List Piece} {r : RawRule} (h : StaysOpen 0 ps)
    (hr : firstRule? ps = some (r, rest)) : (∀ p ∈ r.header, p.Braceless) ∧ StaysOpen 0 rest := by
  obtain ⟨hps, hheader, hinner⟩ := firstRule?_eq_some_iff.1 hr
  rw [hps, staysOpen_append_iff] at h
  have hbraceless := braceless_of_staysOpen h.1 hheader
  have hbody := h.2
  rw [depth_eq_zero hbraceless, staysOpen_cons_iff, staysOpen_append_iff, staysOpen_cons_iff,
    hinner.depth_eq] at hbody
  exact ⟨hbraceless, hbody.2.2.2⟩

theorem braceless_header {ps : List Piece} (h : StaysOpen 0 ps) :
    ∀ r ∈ (splitRules ps).1, ∀ p ∈ r.header, p.Braceless := by
  fun_induction splitRules ps with
  | case1 ps _ => simp
  | case2 ps r rest hr _ ih =>
    obtain ⟨hbraceless, hrest⟩ := h.of_firstRule? hr
    intro r' hr'
    rcases List.mem_cons.1 hr' with rfl | hr'
    · exact hbraceless
    · exact ih hrest r' hr'

end ScopedSheets
