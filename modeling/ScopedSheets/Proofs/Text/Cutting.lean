import Mathlib.Data.List.Basic
import ScopedSheets.Text

/-!
# Cutting at a character

What a text is cut into at every occurrence of a character, and what is joined from parts. No part holds the
character, each is found in the text, and the part before the first occurrence is the only one of its kind.
-/

namespace ScopedSheets.Text

theorem not_mem_of_mem_splitOn {t part : Text} {c : Char} (h : part ∈ t.splitOn c) : c ∉ part := by
  induction t generalizing part with
  | nil =>
    rw [List.splitOn_nil, List.mem_singleton] at h
    simp [h]
  | cons d t ih =>
    rw [List.splitOn_cons_eq_if_modifyHead] at h
    split at h
    · rcases List.mem_cons.1 h with rfl | h
      · exact List.not_mem_nil
      · exact ih h
    · next hd =>
      cases hs : t.splitOn c with
      | nil => exact absurd hs (List.splitOn_ne_nil c t)
      | cons first parts =>
        rw [hs] at h ih
        rcases List.mem_cons.1 h with rfl | h
        · rw [List.mem_cons, not_or]
          exact ⟨fun hc => hd (by simp [hc]), ih (List.mem_cons_self ..)⟩
        · exact ih (List.mem_cons_of_mem _ h)

theorem splitOn_append {c : Char} {a b last first : Text} {parts parts' : List Text}
    (ha : a.splitOn c = parts ++ [last]) (hb : b.splitOn c = first :: parts') :
    (a ++ b).splitOn c = parts ++ (last ++ first) :: parts' := by
  induction a generalizing parts last with
  | nil =>
    rw [List.splitOn_nil] at ha
    rcases List.cons_eq_append_iff.1 ha with ⟨rfl, he⟩ | ⟨parts, rfl, he⟩
    · obtain ⟨rfl, -⟩ := List.cons.inj he
      exact hb
    · simp at he
  | cons x a ih =>
    rw [List.splitOn_cons_eq_if_modifyHead] at ha
    rw [List.cons_append, List.splitOn_cons_eq_if_modifyHead]
    split at ha
    · next hx =>
      rw [if_pos hx]
      rcases List.cons_eq_append_iff.1 ha with ⟨rfl, he⟩ | ⟨parts, rfl, he⟩
      · exact absurd (List.cons.inj he).2.symm (List.splitOn_ne_nil c a)
      · rw [ih he, List.cons_append]
    · next hx =>
      rw [if_neg hx]
      rcases hs : a.splitOn c with - | ⟨head, tail⟩
      · exact absurd hs (List.splitOn_ne_nil c a)
      · rw [hs, List.modifyHead_cons] at ha
        rcases List.cons_eq_append_iff.1 ha with ⟨rfl, he⟩ | ⟨parts, rfl, he⟩
        · obtain ⟨rfl, rfl⟩ := List.cons.inj he
          have hone : (a ++ b).splitOn c = [] ++ (head ++ first) :: parts' := ih hs
          rw [hone]
          rfl
        · have hsplit : a.splitOn c = (head :: parts) ++ [last] := by rw [hs, he, List.cons_append]
          rw [ih hsplit]
          rfl

theorem splitOn_replicate (c : Char) (n : Nat) (t : Text) :
    (List.replicate n c ++ t).splitOn c = List.replicate n [] ++ t.splitOn c := by
  induction n with
  | zero => rfl
  | succ n ih =>
    rw [List.replicate_succ, List.cons_append, List.splitOn_cons_eq_if_modifyHead, ih,
      if_pos (beq_self_eq_true c)]
    rfl

theorem eq_of_append_cons {a a' b b' : Text} {c : Char} (ha : c ∉ a) (ha' : c ∉ a')
    (h : a ++ c :: b = a' ++ c :: b') : a = a' := by
  have hparts := congrArg (List.splitOn c) h
  rw [List.splitOn_append_cons_self_of_not_mem ha, List.splitOn_append_cons_self_of_not_mem ha'] at hparts
  exact (List.cons.inj hparts).1

theorem mem_intercalate {sep : Text} {parts : List Text} {c : Char}
    (h : c ∈ sep.intercalate parts) : c ∈ sep ∨ ∃ part ∈ parts, c ∈ part := by
  induction parts with
  | nil => simp at h
  | cons first parts ih =>
    cases parts with
    | nil =>
      rw [List.intercalate_singleton] at h
      exact Or.inr ⟨first, List.mem_cons_self .., h⟩
    | cons second parts =>
      rw [List.intercalate_cons_cons, List.mem_append, List.mem_append] at h
      rcases h with (h | h) | h
      · exact Or.inr ⟨first, List.mem_cons_self .., h⟩
      · exact Or.inl h
      · rcases ih h with h | ⟨part, hpart, hc⟩
        · exact Or.inl h
        · exact Or.inr ⟨part, List.mem_cons_of_mem _ hpart, hc⟩

theorem infix_intercalate_of_mem {sep part : Text} {parts : List Text} (h : part ∈ parts) :
    part <:+: sep.intercalate parts := by
  induction parts with
  | nil => simp at h
  | cons first parts ih =>
    cases parts with
    | nil =>
      rw [List.mem_singleton] at h
      simp [h, List.intercalate_singleton]
    | cons second parts =>
      rw [List.intercalate_cons_cons]
      rcases List.mem_cons.1 h with rfl | h
      · exact (List.prefix_append _ _).isInfix.trans (List.prefix_append _ _).isInfix
      · exact (ih h).trans (List.suffix_append _ _).isInfix

theorem infix_of_mem_splitOn {t part : Text} {c : Char} (h : part ∈ t.splitOn c) :
    part <:+: t := by
  have hin : part <:+: [c].intercalate (t.splitOn c) := infix_intercalate_of_mem h
  rwa [List.intercalate_splitOn] at hin

theorem intercalate_sublist {sep : Text} {parts parts' : List Text} (h : parts.Sublist parts') :
    (sep.intercalate parts).Sublist (sep.intercalate parts') := by
  induction h with
  | slnil => exact List.Sublist.refl _
  | @cons parts parts' part h ih =>
    cases parts' with
    | nil =>
      rw [List.eq_nil_of_sublist_nil h]
      exact List.nil_sublist _
    | cons second parts' =>
      rw [List.intercalate_cons_cons]
      exact ih.trans (List.sublist_append_right _ _)
  | @cons_cons parts parts' part h ih =>
    cases parts' with
    | nil =>
      obtain rfl := List.eq_nil_of_sublist_nil h
      exact List.Sublist.refl _
    | cons second parts' =>
      rw [List.intercalate_cons_cons]
      cases parts with
      | nil =>
        rw [List.intercalate_singleton, List.append_assoc]
        exact List.sublist_append_left _ _
      | cons first parts =>
        rw [List.intercalate_cons_cons]
        exact (List.Sublist.refl _).append ih

end ScopedSheets.Text
