import ScopedSheets.Fragment.Piece

/-!
# Rules by their braces

The pieces of a fragment split into rules by their braces alone. A header is all that stands before the
next opening brace, a body is what stands between that brace and the one that closes it, and a body
that is never closed is no rule: it and all that follows it is the remainder. A closing brace in a header
is an ordinary character.
-/

namespace ScopedSheets

def splitHeader : List Piece → Option (List Piece × List Piece)
  | [] => none
  | p :: ps =>
    if p = .char '{' then some ([], ps)
    else (splitHeader ps).map fun (header, rest) => (p :: header, rest)

/-- The pieces before the closing brace that ends a body with `depth` open braces in it, and those
after that brace. -/
def splitBody : Nat → List Piece → Option (List Piece × List Piece)
  | _, [] => none
  | depth, p :: ps =>
    if p = .char '{' then (splitBody (depth + 1) ps).map fun (body, rest) => (p :: body, rest)
    else if p = .char '}' then
      match depth with
      | 0 => some ([], ps)
      | depth + 1 => (splitBody depth ps).map fun (body, rest) => (p :: body, rest)
    else (splitBody depth ps).map fun (body, rest) => (p :: body, rest)

theorem eq_of_splitHeader {ps header rest : List Piece} (h : splitHeader ps = some (header, rest)) :
    ps = header ++ .char '{' :: rest := by
  induction ps generalizing header with
  | nil => simp [splitHeader] at h
  | cons p ps ih =>
    simp only [splitHeader] at h
    split at h
    · next hp => simp_all
    · obtain ⟨⟨header', rest'⟩, hs, he⟩ := Option.map_eq_some_iff.1 h
      simp only [Prod.mk.injEq] at he
      obtain ⟨rfl, rfl⟩ := he
      rw [ih hs, List.cons_append]

theorem eq_of_splitBody {depth : Nat} {ps body rest : List Piece}
    (h : splitBody depth ps = some (body, rest)) : ps = body ++ .char '}' :: rest := by
  induction ps generalizing depth body with
  | nil => simp [splitBody] at h
  | cons p ps ih =>
    have step {d : Nat} (h : ((splitBody d ps).map fun (body, rest) => (p :: body, rest))
        = some (body, rest)) : p :: ps = body ++ .char '}' :: rest := by
      obtain ⟨⟨body', rest'⟩, hs, he⟩ := Option.map_eq_some_iff.1 h
      simp only [Prod.mk.injEq] at he
      obtain ⟨rfl, rfl⟩ := he
      rw [ih hs, List.cons_append]
    simp only [splitBody] at h
    split at h
    · exact step h
    · split at h
      · next hp =>
        cases depth with
        | zero => simp_all
        | succ d => exact step h
      · exact step h

structure RawRule where
  header : List Piece
  inner : List Piece
deriving DecidableEq, Repr

def firstRule? (ps : List Piece) : Option (RawRule × List Piece) :=
  (splitHeader ps).bind fun (header, rest) =>
    (splitBody 0 rest).map fun (inner, rest) => (⟨header, inner⟩, rest)

theorem eq_of_firstRule? {ps rest : List Piece} {r : RawRule} (h : firstRule? ps = some (r, rest)) :
    ps = r.header ++ .char '{' :: (r.inner ++ .char '}' :: rest) := by
  obtain ⟨⟨header, mid⟩, hh, hb⟩ := Option.bind_eq_some_iff.1 h
  obtain ⟨⟨inner, rest'⟩, hs, he⟩ := Option.map_eq_some_iff.1 hb
  simp only [Prod.mk.injEq] at he
  obtain ⟨rfl, rfl⟩ := he
  rw [eq_of_splitHeader hh, eq_of_splitBody hs]

theorem length_lt_of_firstRule? {ps rest : List Piece} {r : RawRule}
    (h : firstRule? ps = some (r, rest)) : rest.length < ps.length := by
  rw [eq_of_firstRule? h]
  simp only [List.length_append, List.length_cons]
  omega

/-- The closed rules, in order, and the remainder after the last of them. -/
def splitRules (ps : List Piece) : List RawRule × List Piece :=
  match h : firstRule? ps with
  | none => ([], ps)
  | some (r, rest) =>
    have := length_lt_of_firstRule? h
    (r :: (splitRules rest).1, (splitRules rest).2)
termination_by ps.length

theorem splitRules_of_none {ps : List Piece} (h : firstRule? ps = none) :
    splitRules ps = ([], ps) := by
  rw [splitRules]
  split
  · rfl
  · simp_all

theorem splitRules_of_some {ps rest : List Piece} {r : RawRule}
    (h : firstRule? ps = some (r, rest)) :
    splitRules ps = (r :: (splitRules rest).1, (splitRules rest).2) := by
  rw [splitRules]
  split
  · simp_all
  · next r' rest' h' =>
    rw [h] at h'
    simp only [Option.some.injEq, Prod.mk.injEq] at h'
    obtain ⟨rfl, rfl⟩ := h'
    rfl

/-- What stands between the braces of a rule is shorter than the text that the rule is read from. -/
theorem length_inner_lt {ps : List Piece} {r : RawRule} (h : r ∈ (splitRules ps).1) :
    (writePieces r.inner).length < (writePieces ps).length := by
  fun_induction splitRules ps with
  | case1 => simp at h
  | case2 ps r' rest hf _ ih =>
    have hps := eq_of_firstRule? hf
    have hlen := congrArg (fun qs => (writePieces qs).length) hps
    simp only [writePieces_append, writePieces_cons, List.length_append, Piece.text,
      List.length_cons, List.length_nil] at hlen
    rcases List.mem_cons.1 h with rfl | hr
    · omega
    · have := ih hr
      omega

end ScopedSheets
