import ScopedSheets.Proofs.Fragment.Depth

/-!
# Replacing pieces

The cuts at braces look at braces only. When every brace is left as it is and every other piece is
replaced by pieces that are no braces, the cuts fall at the same places, and header, body and remainder
are the replaced ones (`KeepsBraces.splitRules_flatMap`).
-/

namespace ScopedSheets

/-- A replacement of pieces that leaves braces alone and brings none in. -/
structure KeepsBraces (f : Piece → List Piece) : Prop where
  opened : f (.char '{') = [.char '{']
  closed : f (.char '}') = [.char '}']
  braceless : ∀ p : Piece, p.Braceless → ∀ q ∈ f p, q.Braceless

def RawRule.replace (f : Piece → List Piece) (r : RawRule) : RawRule :=
  ⟨r.header.flatMap f, r.inner.flatMap f⟩

theorem splitBody_append_left {lead : List Piece} (h : ∀ p ∈ lead, p.Braceless) (d : Nat)
    (ps : List Piece) :
    splitBody d (lead ++ ps) = (splitBody d ps).map fun (body, rest) => (lead ++ body, rest) := by
  induction lead with
  | nil =>
    rw [List.nil_append]
    cases splitBody d ps with
    | none => rfl
    | some cut => rfl
  | cons p lead ih =>
    have hp : (d : Int) = d + p.depth := by rw [(h p (List.mem_cons_self ..)).depth_eq_zero, Int.add_zero]
    rw [List.cons_append, splitBody_cons hp, ih fun q hq => h q (List.mem_cons_of_mem _ hq)]
    cases splitBody d ps with
    | none => rfl
    | some cut => rfl

namespace KeepsBraces

variable {f : Piece → List Piece}

theorem open_not_mem (hf : KeepsBraces f) {p : Piece} (h : p ≠ .char '{') : .char '{' ∉ f p := by
  intro hm
  by_cases hc : p = .char '}'
  · rw [hc, hf.closed, List.mem_singleton] at hm
    nomatch hm
  · exact (hf.braceless p ⟨h, hc⟩ _ hm).1 rfl

theorem splitHeader_flatMap (hf : KeepsBraces f) (ps : List Piece) :
    splitHeader (ps.flatMap f)
      = (splitHeader ps).map fun (header, rest) => (header.flatMap f, rest.flatMap f) := by
  induction ps with
  | nil => rfl
  | cons p ps ih =>
    rw [List.flatMap_cons]
    by_cases hp : p = .char '{'
    · rw [hp, hf.opened, List.singleton_append, splitHeader, splitHeader,
        if_pos rfl, if_pos rfl]
      rfl
    · rw [splitHeader_append_left (hf.open_not_mem hp), ih, splitHeader, if_neg hp]
      cases splitHeader ps with
      | none => rfl
      | some cut => rfl

theorem splitBody_flatMap (hf : KeepsBraces f) (d : Nat) (ps : List Piece) :
    splitBody d (ps.flatMap f)
      = (splitBody d ps).map fun (body, rest) => (body.flatMap f, rest.flatMap f) := by
  induction ps generalizing d with
  | nil => rfl
  | cons p ps ih =>
    rw [List.flatMap_cons]
    by_cases ho : p = .char '{'
    · have hd : ((d + 1 : Nat) : Int) = d + (Piece.char '{').depth := rfl
      rw [ho, hf.opened, List.singleton_append, splitBody_cons hd, splitBody_cons hd, ih]
      cases splitBody (d + 1) ps with
      | none => rfl
      | some cut => simp [hf.opened]
    · by_cases hc : p = .char '}'
      · rw [hc, hf.closed, List.singleton_append]
        cases d with
        | zero => rfl
        | succ d =>
          have hd : (d : Int) = (d + 1 : Nat) + (Piece.char '}').depth := by
            rw [depth_close]
            omega
          rw [splitBody_cons hd, splitBody_cons hd, ih]
          cases splitBody d ps with
          | none => rfl
          | some cut => simp [hf.closed]
      · have hd : (d : Int) = d + p.depth := by
          rw [Piece.Braceless.depth_eq_zero ⟨ho, hc⟩, Int.add_zero]
        rw [splitBody_append_left (hf.braceless p ⟨ho, hc⟩), ih, splitBody_cons hd]
        cases splitBody d ps with
        | none => rfl
        | some cut => rfl

theorem firstRule?_flatMap (hf : KeepsBraces f) (ps : List Piece) :
    firstRule? (ps.flatMap f)
      = (firstRule? ps).map fun (r, rest) => (r.replace f, rest.flatMap f) := by
  rw [firstRule?, firstRule?, hf.splitHeader_flatMap]
  rcases splitHeader ps with - | ⟨header, rest⟩
  · rfl
  · simp only [Option.map_some, Option.bind_some, hf.splitBody_flatMap]
    cases splitBody 0 rest with
    | none => rfl
    | some cut => rfl

theorem splitRules_flatMap (hf : KeepsBraces f) (ps : List Piece) :
    splitRules (ps.flatMap f)
      = ((splitRules ps).1.map (RawRule.replace f), (splitRules ps).2.flatMap f) := by
  fun_induction splitRules ps with
  | case1 ps h =>
    have hnone := hf.firstRule?_flatMap ps
    rw [h, Option.map_none] at hnone
    rw [splitRules_of_none hnone]
    rfl
  | case2 ps r rest h _ ih =>
    have hsome := hf.firstRule?_flatMap ps
    rw [h, Option.map_some] at hsome
    rw [splitRules_of_some hsome, ih]
    rfl

end KeepsBraces

end ScopedSheets
