import ScopedSheets.Text

/-!
# Searching a text

A matcher reads one lexeme at the beginning of a text. The search tries it at every place from left to
right, the end of the text included, and answers the first hit: the text before it, what was read, and
the text after it.
-/

namespace ScopedSheets.Text

/-- The first place where `matcher` reads something: the text before, what is read, the text after. -/
def find? {α : Type} (matcher : Text → Option (α × Text)) : Text → Option (Text × α × Text)
  | [] => (matcher []).map fun (a, rest) => ([], a, rest)
  | c :: t =>
    match matcher (c :: t) with
    | some (a, rest) => some ([], a, rest)
    | none => (find? matcher t).map fun (before, a, rest) => (c :: before, a, rest)

theorem matcher_of_find? {α : Type} {matcher : Text → Option (α × Text)} {t before rest : Text}
    {a : α} (h : find? matcher t = some (before, a, rest)) :
    ∃ tail, t = before ++ tail ∧ matcher tail = some (a, rest) := by
  induction t generalizing before with
  | nil =>
    obtain ⟨⟨a', rest'⟩, hm, he⟩ := Option.map_eq_some_iff.1 h
    simp only [Prod.mk.injEq] at he
    obtain ⟨rfl, rfl, rfl⟩ := he
    exact ⟨[], rfl, hm⟩
  | cons c t ih =>
    simp only [find?] at h
    split at h
    · next a' rest' hm =>
      simp only [Option.some.injEq, Prod.mk.injEq] at h
      obtain ⟨rfl, rfl, rfl⟩ := h
      exact ⟨c :: t, rfl, hm⟩
    · obtain ⟨⟨before', a', rest'⟩, hs, he⟩ := Option.map_eq_some_iff.1 h
      simp only [Prod.mk.injEq] at he
      obtain ⟨rfl, rfl, rfl⟩ := he
      obtain ⟨tail, ht, hm⟩ := ih hs
      exact ⟨tail, by rw [ht, List.cons_append], hm⟩

end ScopedSheets.Text
