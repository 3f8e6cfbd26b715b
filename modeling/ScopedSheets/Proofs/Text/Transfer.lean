import ScopedSheets.Text.Newline
import ScopedSheets.Text.Styling

/-!
# Text that is read and printed

Reading makes a line feed of every line end, printing takes styling sequences away. A part of the text that
is read comes from a part of the text that was there (`exists_of_unifyNewlines_append`), and the two changes
together leave just those texts alone that hold no carriage return and no styling
(`stripStyling_unifyNewlines_eq_iff`).
-/

namespace ScopedSheets.Text

theorem unifyNewlines_cons {c : Char} (h : c ≠ '\r') (t : Text) :
    unifyNewlines (c :: t) = c :: unifyNewlines t := by
  rw [unifyNewlines]
  · intro t' hc
    exact absurd hc h
  · intro hc
    exact absurd hc h

theorem unifyNewlines_return {t : Text} (h : t.head? ≠ some '\n') :
    unifyNewlines ('\r' :: t) = '\n' :: unifyNewlines t := by
  rw [unifyNewlines]
  intro t' ht
  rw [ht] at h
  exact h rfl

theorem exists_of_unifyNewlines_append {t a b : Text} (h : unifyNewlines t = a ++ b) :
    ∃ a' b', t = a' ++ b' ∧ unifyNewlines a' = a ∧ unifyNewlines b' = b := by
  fun_induction unifyNewlines t generalizing a with
  | case1 =>
    obtain ⟨rfl, rfl⟩ := List.append_eq_nil_iff.1 h.symm
    exact ⟨[], [], rfl, rfl, rfl⟩
  | case2 t ih =>
    cases a with
    | nil => exact ⟨[], '\r' :: '\n' :: t, rfl, rfl, h⟩
    | cons d a =>
      obtain ⟨rfl, htail⟩ := List.cons.inj h
      obtain ⟨a', b', rfl, rfl, hb⟩ := ih htail
      exact ⟨'\r' :: '\n' :: a', b', rfl, rfl, hb⟩
  | case3 t hne ih =>
    have hhead : t.head? ≠ some '\n' := by
      intro hn
      obtain ⟨t', rfl⟩ := List.head?_eq_some_iff.1 hn
      exact hne t' rfl
    cases a with
    | nil => exact ⟨[], '\r' :: t, rfl, rfl, by rw [unifyNewlines_return hhead, h]; rfl⟩
    | cons d a =>
      obtain ⟨rfl, htail⟩ := List.cons.inj h
      obtain ⟨a', b', rfl, rfl, hb⟩ := ih htail
      refine ⟨'\r' :: a', b', rfl, unifyNewlines_return ?_, hb⟩
      -- a line feed at the head of `a'` would stand at the head of the text
      intro hn
      rw [List.head?_append, hn] at hhead
      exact hhead rfl
  | case4 c t hreturn hc ih =>
    have hc : c ≠ '\r' := fun he => hc he
    cases a with
    | nil => exact ⟨[], c :: t, rfl, rfl, by rw [unifyNewlines_cons hc, h]; rfl⟩
    | cons d a =>
      obtain ⟨rfl, htail⟩ := List.cons.inj h
      obtain ⟨a', b', rfl, rfl, hb⟩ := ih htail
      exact ⟨c :: a', b', rfl, unifyNewlines_cons hc a', hb⟩

theorem exists_of_infix_unifyNewlines {t w : Text} (h : w <:+: unifyNewlines t) :
    ∃ w', w' <:+: t ∧ unifyNewlines w' = w := by
  obtain ⟨a, b, hab⟩ := h
  obtain ⟨before, b', rfl, hbefore, _⟩ := exists_of_unifyNewlines_append hab.symm
  obtain ⟨a', w', rfl, _, hw⟩ := exists_of_unifyNewlines_append hbefore
  exact ⟨w', ⟨a', b', rfl⟩, hw⟩

theorem mem_unifyNewlines {t : Text} {c : Char} (h : c ∈ t) : c = '\r' ∨ c ∈ unifyNewlines t := by
  fun_induction unifyNewlines t with
  | case1 => exact absurd h List.not_mem_nil
  | case2 t ih =>
    simp only [List.mem_cons] at h ⊢
    obtain h | h | h := h
    · exact Or.inl h
    · exact Or.inr (Or.inl h)
    · exact (ih h).imp_right Or.inr
  | case3 t _ ih =>
    rw [List.mem_cons] at h ⊢
    cases h with
    | inl h => exact Or.inl h
    | inr h => exact (ih h).imp_right Or.inr
  | case4 c' t _ _ ih =>
    rw [List.mem_cons] at h ⊢
    cases h with
    | inl h => exact Or.inr (Or.inl h)
    | inr h => exact (ih h).imp_right Or.inr

theorem newline_mem_unifyNewlines {t : Text} (h : '\r' ∈ t) : '\n' ∈ unifyNewlines t := by
  fun_induction unifyNewlines t with
  | case1 => exact absurd h List.not_mem_nil
  | case2 => exact List.mem_cons_self ..
  | case3 => exact List.mem_cons_self ..
  | case4 c t _ hc ih =>
    cases List.mem_cons.1 h with
    | inl hr => exact absurd hr.symm hc
    | inr ht => exact List.mem_cons_of_mem _ (ih ht)

theorem eq_of_unifyNewlines_eq {t w : Text} (h : unifyNewlines t = w) (hw : '\n' ∉ w) : t = w := by
  rw [← h, unifyNewlines_eq_self]
  intro hr
  exact hw (h ▸ newline_mem_unifyNewlines hr)

/-- A styling sequence: the escape character, a bracket, parameters and a letter. -/
def IsStyling (s : Text) : Prop :=
  ∃ params letter, s = '\x1b' :: '[' :: (params ++ [letter]) ∧
    (∀ c ∈ params, isStyleParameter c) ∧ letter.isAlpha

def HasStyling (t : Text) : Prop := ∃ s, IsStyling s ∧ s <:+: t

theorem not_isStyleParameter_of_isAlpha {c : Char} (h : c.isAlpha) : isStyleParameter c = false := by
  rw [Bool.eq_false_iff]
  intro hp
  simp only [isStyleParameter, Bool.or_eq_true, decide_eq_true_eq] at hp
  obtain (rfl | rfl) | hdigit := hp
  · exact absurd h (by decide)
  · exact absurd h (by decide)
  · have hnine : c.val.toNat ≤ 57 := by
      have hrange := (Bool.and_eq_true_iff.1 hdigit).2
      exact UInt32.le_iff_toNat_le.1 (of_decide_eq_true hrange)
    have hletter : 65 ≤ c.val.toNat := by
      cases Bool.or_eq_true_iff.1 h with
      | inl hupper =>
        have hrange : 'A'.val ≤ c.val ∧ c.val ≤ 'Z'.val := of_decide_eq_true hupper
        exact UInt32.le_iff_toNat_le.1 hrange.1
      | inr hlower =>
        have hrange := (Bool.and_eq_true_iff.1 hlower).1
        have hle := UInt32.le_iff_toNat_le.1 (of_decide_eq_true hrange)
        have ha : 'a'.val.toNat = 97 := rfl
        omega
    omega

theorem afterStyle?_eq_some_iff {t rest : Text} :
    afterStyle? t = some rest ↔ ∃ s, IsStyling s ∧ t = s ++ rest := by
  constructor
  · intro h
    unfold afterStyle? at h
    split at h
    · next t =>
      split at h
      · nomatch h
      · next c rest' hdrop =>
        have hcut := List.takeWhile_append_dropWhile (p := isStyleParameter) (l := t)
        rw [hdrop] at hcut
        split at h
        · next hletter =>
          obtain rfl := Option.some.inj h
          refine ⟨_, ⟨t.takeWhile isStyleParameter, c, rfl, ?_, hletter⟩, ?_⟩
          · exact List.all_eq_true.1 List.all_takeWhile
          · conv => lhs; rw [← hcut]
            simp
        · nomatch h
    · nomatch h
  · intro h
    obtain ⟨s, ⟨params, letter, rfl, hparams, hletter⟩, rfl⟩ := h
    have hstop := not_isStyleParameter_of_isAlpha hletter
    have hdrop : (params ++ letter :: rest).dropWhile isStyleParameter = letter :: rest := by
      rw [List.dropWhile_append_of_pos hparams, List.dropWhile_cons_of_neg (by simp [hstop])]
    simp only [List.cons_append, List.append_assoc, List.nil_append, afterStyle?, hdrop, hletter, if_true]

theorem stripStyling_sublist (t : Text) : (stripStyling t).Sublist t := by
  fun_induction stripStyling t with
  | case1 t rest h _ ih =>
    obtain ⟨s, _, rfl⟩ := afterStyle?_eq_some_iff.1 h
    exact ih.trans (List.sublist_append_right s rest)
  | case2 => exact List.Sublist.refl _
  | case3 c t _ ih => exact ih.cons_cons c

theorem not_hasStyling_nil : ¬ HasStyling [] := by
  intro h
  obtain ⟨s, ⟨params, letter, rfl, _⟩, hs⟩ := h
  nomatch List.infix_nil.1 hs

theorem hasStyling_cons_iff {c : Char} {t : Text} :
    HasStyling (c :: t) ↔ (∃ rest, afterStyle? (c :: t) = some rest) ∨ HasStyling t := by
  constructor
  · intro h
    obtain ⟨s, hs, hin⟩ := h
    cases List.infix_cons_iff.1 hin with
    | inl hpre =>
      obtain ⟨rest, hrest⟩ := hpre
      exact Or.inl ⟨rest, afterStyle?_eq_some_iff.2 ⟨s, hs, hrest.symm⟩⟩
    | inr htail => exact Or.inr ⟨s, hs, htail⟩
  · intro h
    cases h with
    | inl hhead =>
      obtain ⟨rest, hrest⟩ := hhead
      obtain ⟨s, hs, ht⟩ := afterStyle?_eq_some_iff.1 hrest
      exact ⟨s, hs, [], rest, ht.symm⟩
    | inr htail =>
      obtain ⟨s, hs, hin⟩ := htail
      exact ⟨s, hs, hin.trans (List.suffix_cons c t).isInfix⟩

theorem stripStyling_eq_self_iff {t : Text} : stripStyling t = t ↔ ¬ HasStyling t := by
  fun_induction stripStyling t with
  | case1 t rest h hlt ih =>
    cases t with
    | nil => nomatch h
    | cons c t =>
      have hshort : stripStyling rest ≠ c :: t := by
        intro he
        have hlen := (stripStyling_sublist rest).length_le
        rw [he] at hlen
        omega
      have hstyled : HasStyling (c :: t) := hasStyling_cons_iff.2 (Or.inl ⟨rest, h⟩)
      exact ⟨fun he => absurd he hshort, fun hn => absurd hstyled hn⟩
  | case2 => exact ⟨fun _ => not_hasStyling_nil, fun _ => rfl⟩
  | case3 c t h ih =>
    have hhead : ¬ ∃ rest, afterStyle? (c :: t) = some rest := by simp [h]
    rw [List.cons_inj_right, ih, hasStyling_cons_iff, not_or]
    exact ⟨fun ht => ⟨hhead, ht⟩, fun ht => ht.2⟩

theorem stripStyling_unifyNewlines_eq_iff {t : Text} :
    stripStyling (unifyNewlines t) = t ↔ '\r' ∉ t ∧ ¬ HasStyling t := by
  constructor
  · intro h
    have hreturn : '\r' ∉ t := by
      intro hr
      rw [← h] at hr
      exact not_mem_unifyNewlines t ((stripStyling_sublist _).subset hr)
    rw [unifyNewlines_eq_self hreturn] at h
    exact ⟨hreturn, stripStyling_eq_self_iff.1 h⟩
  · intro h
    rw [unifyNewlines_eq_self h.1]
    exact stripStyling_eq_self_iff.2 h.2

end ScopedSheets.Text
