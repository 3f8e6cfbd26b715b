import Mathlib.Data.List.TakeWhile
import ScopedSheets.Text

/-!
# Trimming

What trimming a text by a class of characters amounts to. Trimming at both ends has one answer, the text
between the characters of the class (`eq_trim_of_trimmed`), so what is put around a text and belongs to the
class does not change it.
-/

namespace ScopedSheets.Text

variable {p : Char → Bool}

/-- `s` is what remains of `t` when the characters of a class are taken away at both ends. -/
structure Trimmed (p : Char → Bool) (t s : Text) : Prop where
  around : ∃ lead trail, t = lead ++ s ++ trail ∧ (∀ c ∈ lead, p c) ∧ (∀ c ∈ trail, p c)
  first : ∀ c, s.head? = some c → p c = false
  last : ∀ c, s.getLast? = some c → p c = false

theorem dropWhile_eq_self {t : Text} (h : ∀ c, t.head? = some c → p c = false) :
    t.dropWhile p = t := by
  cases t with
  | nil => rfl
  | cons c t =>
    have hc := h c rfl
    simp [hc]

theorem head?_dropWhile {t : Text} {c : Char} (h : (t.dropWhile p).head? = some c) :
    p c = false := by
  have hnot := List.head?_dropWhile_not p t
  rw [h] at hnot
  simpa using hnot

theorem all_takeWhile (t : Text) : ∀ c ∈ t.takeWhile p, p c := by
  intro c hc
  exact List.all_eq_true.1 List.all_takeWhile c hc

theorem takeWhile_eq_replicate (c : Char) (t : Text) :
    t.takeWhile (· == c) = List.replicate (t.takeWhile (· == c)).length c := by
  apply List.eq_replicate_of_mem
  intro d hd
  exact eq_of_beq (all_takeWhile t d hd)

theorem trimRight_append_of_all (t : Text) {trail : Text} (h : ∀ c ∈ trail, p c) :
    trimRight p (t ++ trail) = trimRight p t := by
  rw [trimRight, trimRight, List.reverse_append, List.dropWhile_append_of_pos]
  intro c hc
  exact h c (List.mem_reverse.1 hc)

theorem trimRight_eq_self {t : Text} (h : ∀ c, t.getLast? = some c → p c = false) :
    trimRight p t = t := by
  have hr : t.reverse.dropWhile p = t.reverse := by
    apply dropWhile_eq_self
    intro c hc
    rw [List.head?_reverse] at hc
    exact h c hc
  rw [trimRight, hr, List.reverse_reverse]

theorem trimRight_append_takeWhile (t : Text) :
    trimRight p t ++ (t.reverse.takeWhile p).reverse = t := by
  rw [trimRight, ← List.reverse_append, List.takeWhile_append_dropWhile, List.reverse_reverse]

theorem trimmed_trim (p : Char → Bool) (t : Text) : Trimmed p t (trim p t) := by
  have hright := trimRight_append_takeWhile (p := p) (t.dropWhile p)
  refine ⟨⟨t.takeWhile p, ((t.dropWhile p).reverse.takeWhile p).reverse, ?_, all_takeWhile t, ?_⟩,
    ?_, ?_⟩
  · rw [trim, List.append_assoc, hright, List.takeWhile_append_dropWhile]
  · intro c hc
    exact all_takeWhile _ c (List.mem_reverse.1 hc)
  · intro c hc
    apply head?_dropWhile (t := t)
    rw [← hright, List.head?_append]
    rw [trim] at hc
    rw [hc]
    rfl
  · intro c hc
    rw [trim, trimRight, List.getLast?_reverse] at hc
    exact head?_dropWhile hc

theorem eq_trim_of_trimmed {t s : Text} (h : Trimmed p t s) : s = trim p t := by
  obtain ⟨lead, trail, rfl, hlead, htrail⟩ := h.around
  rw [trim, List.append_assoc, List.dropWhile_append_of_pos hlead]
  cases s with
  | nil =>
    rw [List.nil_append, List.dropWhile_eq_nil_iff.2 htrail]
    rfl
  | cons c s =>
    have hc := h.first c rfl
    rw [List.cons_append, List.dropWhile_cons_of_neg (by simp [hc]), ← List.cons_append,
      trimRight_append_of_all _ htrail, trimRight_eq_self h.last]

theorem trim_append_left {lead : Text} (h : ∀ c ∈ lead, p c) (t : Text) :
    trim p (lead ++ t) = trim p t := by
  rw [trim, trim, List.dropWhile_append_of_pos h]

theorem trim_append_right (t : Text) {trail : Text} (h : ∀ c ∈ trail, p c) :
    trim p (t ++ trail) = trim p t := by
  obtain ⟨⟨a, b, ht, ha, hb⟩, hfirst, hlast⟩ := trimmed_trim p t
  refine (eq_trim_of_trimmed ⟨⟨a, b ++ trail, ?_, ha, ?_⟩, hfirst, hlast⟩).symm
  · rw [← List.append_assoc, ← ht]
  · intro c hc
    rcases List.mem_append.1 hc with hc | hc
    · exact hb c hc
    · exact h c hc

theorem trim_infix (p : Char → Bool) (t : Text) : trim p t <:+: t := by
  obtain ⟨lead, trail, ht, _, _⟩ := (trimmed_trim p t).around
  exact ⟨lead, trail, ht.symm⟩

theorem trimRight_append (a b : Text) :
    trimRight p (a ++ b) = if trimRight p b = [] then trimRight p a else a ++ trimRight p b := by
  simp only [trimRight, List.reverse_append, List.dropWhile_append, List.isEmpty_iff,
    List.reverse_eq_nil_iff]
  split <;> simp

theorem trimRight_append_left {a : Text} (h : ∃ c, a.getLast? = some c ∧ p c = false) (b : Text) :
    trimRight p (a ++ b) = a ++ trimRight p b := by
  obtain ⟨c, hc, hp⟩ := h
  have ha : trimRight p a = a := by
    apply trimRight_eq_self
    intro d hd
    rw [hc] at hd
    exact Option.some.inj hd ▸ hp
  rw [trimRight_append]
  split
  · next hb => rw [hb, ha, List.append_nil]
  · rfl

theorem exists_trimRight_eq (t : Text) :
    ∃ lead, (∀ c ∈ lead, p c) ∧ trimRight p t = if trim p t = [] then [] else lead ++ trim p t := by
  refine ⟨t.takeWhile p, all_takeWhile t, ?_⟩
  have hblank := trimRight_append_of_all [] (all_takeWhile (p := p) t)
  conv => lhs; rw [← List.takeWhile_append_dropWhile (p := p) (l := t)]
  rw [trimRight_append, ← trim]
  split
  · exact hblank
  · rfl

theorem trim_append_of_solid {a : Text} (hfirst : ∃ c, a.head? = some c ∧ p c = false)
    (hlast : ∃ c, a.getLast? = some c ∧ p c = false) (b : Text) :
    trim p (a ++ b) = a ++ trimRight p b := by
  obtain ⟨c, hc, hp⟩ := hfirst
  have hdrop : (a ++ b).dropWhile p = a ++ b := by
    apply dropWhile_eq_self
    intro d hd
    rw [List.head?_append, hc] at hd
    exact Option.some.inj hd ▸ hp
  rw [trim, hdrop, trimRight_append_left hlast]

end ScopedSheets.Text
