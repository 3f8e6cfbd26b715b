import ScopedSheets.Text

/-!
# Two ways to end a line

A text whose lines end in a line feed can be written with a carriage return before each line feed, and
back. The cuts of the library do not see the difference: a run of characters that treats both line ends
alike, a fixed word, a separator. What is made of such texts and of line feeds that are put in has the
same lines (`SameLines`), and so it is the same text once the carriage returns are taken away again.
-/

namespace ScopedSheets.Text

def toCrlf (t : Text) : Text := t.flatMap fun c => if c = '\n' then ['\r', '\n'] else [c]

def toLf : Text → Text
  | [] => []
  | '\r' :: '\n' :: t => '\n' :: toLf t
  | c :: t => c :: toLf t

@[simp] theorem toCrlf_nil : toCrlf [] = [] := rfl

@[simp] theorem toCrlf_newline (t : Text) : toCrlf ('\n' :: t) = '\r' :: '\n' :: toCrlf t := rfl

theorem toCrlf_cons {c : Char} (h : c ≠ '\n') (t : Text) : toCrlf (c :: t) = c :: toCrlf t := by
  rw [toCrlf, List.flatMap_cons, if_neg h, List.singleton_append, toCrlf]

@[simp] theorem toCrlf_append (a b : Text) : toCrlf (a ++ b) = toCrlf a ++ toCrlf b :=
  List.flatMap_append

theorem toCrlf_eq_nil_iff {t : Text} : toCrlf t = [] ↔ t = [] := by
  cases t with
  | nil => simp
  | cons c t =>
    by_cases hc : c = '\n'
    · simp [hc]
    · simp [toCrlf_cons hc]

theorem toCrlf_eq_self {t : Text} (h : '\n' ∉ t) : toCrlf t = t := by
  induction t with
  | nil => rfl
  | cons c t ih =>
    rw [List.mem_cons, not_or] at h
    rw [toCrlf_cons (Ne.symm h.1), ih h.2]

theorem mem_toCrlf {t : Text} {c : Char} (h : c ∈ toCrlf t) : c = '\r' ∨ c ∈ t := by
  obtain ⟨d, hd, hc⟩ := List.mem_flatMap.1 h
  split at hc
  · next hn =>
    rw [hn] at hd
    rcases List.mem_cons.1 hc with rfl | hc
    · exact Or.inl rfl
    · rw [List.mem_singleton.1 hc]
      exact Or.inr hd
  · rw [List.mem_singleton.1 hc]
    exact Or.inr hd

theorem getLast?_toCrlf (t : Text) : (toCrlf t).getLast? = t.getLast? := by
  rcases List.eq_nil_or_concat t with rfl | ⟨a, c, rfl⟩
  · rfl
  · by_cases hc : c = '\n'
    · subst hc
      simp
    · simp [toCrlf_cons hc]

section Runs

variable {p : Char → Bool}

theorem takeWhile_toCrlf (h : p '\r' = p '\n') (t : Text) :
    (toCrlf t).takeWhile p = toCrlf (t.takeWhile p) := by
  induction t with
  | nil => rfl
  | cons c t ih =>
    by_cases hc : c = '\n'
    · subst hc
      by_cases hp : p '\n'
      · rw [toCrlf_newline, List.takeWhile_cons_of_pos (h.trans hp), List.takeWhile_cons_of_pos hp,
          List.takeWhile_cons_of_pos hp, ih, toCrlf_newline]
      · rw [toCrlf_newline, List.takeWhile_cons_of_neg (by rwa [h]),
          List.takeWhile_cons_of_neg hp, toCrlf_nil]
    · by_cases hp : p c
      · rw [toCrlf_cons hc, List.takeWhile_cons_of_pos hp, List.takeWhile_cons_of_pos hp, ih,
          toCrlf_cons hc]
      · rw [toCrlf_cons hc, List.takeWhile_cons_of_neg hp, List.takeWhile_cons_of_neg hp, toCrlf_nil]

theorem dropWhile_toCrlf (h : p '\r' = p '\n') (t : Text) :
    (toCrlf t).dropWhile p = toCrlf (t.dropWhile p) := by
  -- what is dropped is what is not taken
  have hcut := List.takeWhile_append_dropWhile (p := p) (l := toCrlf t)
  have ht := congrArg toCrlf (List.takeWhile_append_dropWhile (p := p) (l := t))
  rw [toCrlf_append, ← hcut, takeWhile_toCrlf h] at ht
  exact (List.append_cancel_left ht).symm

end Runs

def OneLine (t : Text) : Prop := ∀ c ∈ t, c ≠ '\r' ∧ c ≠ '\n'

instance (t : Text) : Decidable (OneLine t) := List.decidableBAll _ t

theorem isPrefixOf?_toCrlf {word : Text} (h : OneLine word) (t : Text) :
    word.isPrefixOf? (toCrlf t) = (word.isPrefixOf? t).map toCrlf := by
  induction word generalizing t with
  | nil => rfl
  | cons a word ih =>
    have ha := h a (List.mem_cons_self ..)
    have hword : OneLine word := fun c hc => h c (List.mem_cons_of_mem _ hc)
    cases t with
    | nil => rfl
    | cons c t =>
      by_cases hc : c = '\n'
      · subst hc
        have hr : (a == '\r') = false := beq_eq_false_iff_ne.2 ha.1
        have hn : (a == '\n') = false := beq_eq_false_iff_ne.2 ha.2
        rw [toCrlf_newline, isPrefixOf?_cons, isPrefixOf?_cons, hr, hn]
        rfl
      · rw [toCrlf_cons hc, isPrefixOf?_cons, isPrefixOf?_cons, ih hword]
        cases a == c with
        | false => rfl
        | true => rfl

theorem splitOn_toCrlf {sep : Char} (hr : sep ≠ '\r') (hn : sep ≠ '\n') (t : Text) :
    (toCrlf t).splitOn sep = (t.splitOn sep).map toCrlf := by
  induction t with
  | nil => rfl
  | cons c t ih =>
    by_cases hc : c = '\n'
    · subst hc
      have hr' : ('\r' == sep) = false := beq_eq_false_iff_ne.2 (Ne.symm hr)
      have hn' : ('\n' == sep) = false := beq_eq_false_iff_ne.2 (Ne.symm hn)
      rw [toCrlf_newline, List.splitOn_cons_eq_if_modifyHead, List.splitOn_cons_eq_if_modifyHead,
        List.splitOn_cons_eq_if_modifyHead, hr', hn', ih]
      cases t.splitOn sep with
      | nil => rfl
      | cons first parts => rfl
    · rw [toCrlf_cons hc, List.splitOn_cons_eq_if_modifyHead, List.splitOn_cons_eq_if_modifyHead, ih]
      cases c == sep with
      | true => rfl
      | false =>
        cases t.splitOn sep with
        | nil => rfl
        | cons first parts => simp [toCrlf_cons hc]

theorem dropLastIf_cons {t : Text} (h : t ≠ []) (c d : Char) :
    dropLastIf d (c :: t) = c :: dropLastIf d t := by
  obtain ⟨a, e, rfl⟩ := (List.eq_nil_or_concat t).resolve_left h
  rw [dropLastIf, dropLastIf, List.concat_eq_append, ← List.cons_append,
    List.getLast?_concat, List.getLast?_concat]
  split
  · rw [List.dropLast_concat, List.dropLast_concat]
  · rfl

/-- The texts are the same but for carriage returns: each line feed of the second stands in the first,
by itself or after a carriage return. -/
inductive SameLines : Text → Text → Prop
  | done : SameLines [] []
  | lineEnd {a b : Text} : SameLines a b → SameLines ('\r' :: '\n' :: a) ('\n' :: b)
  | char {c : Char} {a b : Text} : c ≠ '\r' → SameLines a b → SameLines (c :: a) (c :: b)

namespace SameLines

theorem toLf_eq {a b : Text} (h : SameLines a b) : toLf a = b := by
  induction h with
  | done => rfl
  | lineEnd _ ih => rw [toLf, ih]
  | char hc _ ih =>
    rw [toLf, ih]
    intro t h
    exact absurd h hc

theorem append {a b a' b' : Text} (h : SameLines a b) (h' : SameLines a' b') :
    SameLines (a ++ a') (b ++ b') := by
  induction h with
  | done => exact h'
  | lineEnd _ ih => exact .lineEnd ih
  | char hc _ ih => exact .char hc ih

theorem refl {t : Text} (h : '\r' ∉ t) : SameLines t t := by
  induction t with
  | nil => exact .done
  | cons c t ih =>
    rw [List.mem_cons, not_or] at h
    exact .char (Ne.symm h.1) (ih h.2)

theorem toCrlf {t : Text} (h : '\r' ∉ t) : SameLines t.toCrlf t := by
  induction t with
  | nil => exact .done
  | cons c t ih =>
    rw [List.mem_cons, not_or] at h
    by_cases hc : c = '\n'
    · subst hc
      exact .lineEnd (ih h.2)
    · rw [toCrlf_cons hc]
      exact .char (Ne.symm h.1) (ih h.2)

theorem flatMap {α : Type} {f g : α → Text} {as : List α} (h : ∀ a ∈ as, SameLines (f a) (g a)) :
    SameLines (as.flatMap f) (as.flatMap g) := by
  induction as with
  | nil => exact .done
  | cons a as ih =>
    rw [List.flatMap_cons, List.flatMap_cons]
    exact (h a (List.mem_cons_self ..)).append (ih fun a' ha' => h a' (List.mem_cons_of_mem _ ha'))

theorem intercalate {α : Type} {f g : α → Text} {sep : Text} {as : List α} (hsep : '\r' ∉ sep)
    (h : ∀ a ∈ as, SameLines (f a) (g a)) :
    SameLines (sep.intercalate (as.map f)) (sep.intercalate (as.map g)) := by
  induction as with
  | nil => exact .done
  | cons a as ih =>
    have ha := h a (List.mem_cons_self ..)
    have hrest := ih fun a' ha' => h a' (List.mem_cons_of_mem _ ha')
    cases as with
    | nil => simpa using ha
    | cons a₂ as =>
      simp only [List.map_cons, List.intercalate_cons_cons] at hrest ⊢
      exact (ha.append (.refl hsep)).append hrest

theorem eq_nil_iff {a b : Text} (h : SameLines a b) : a = [] ↔ b = [] := by
  cases h with
  | done => simp
  | lineEnd _ => simp
  | char _ _ => simp

theorem dropLastIf_newline {a b : Text} (h : SameLines a b) (halone : ∀ t, a ≠ t ++ ['\r', '\n']) :
    SameLines (a.dropLastIf '\n') (b.dropLastIf '\n') := by
  induction h with
  | done => exact .done
  | @lineEnd a b h ih =>
    have hne : a ≠ [] := by
      rintro rfl
      exact halone [] rfl
    have hrest := ih fun t ht => halone ('\r' :: '\n' :: t) (by rw [ht]; rfl)
    rw [dropLastIf_cons (by simp), dropLastIf_cons hne, dropLastIf_cons (mt h.eq_nil_iff.2 hne)]
    exact .lineEnd hrest
  | @char c a b hc h ih =>
    by_cases hnil : a = []
    · rw [hnil, h.eq_nil_iff.1 hnil]
      apply refl
      rw [Text.dropLastIf]
      split
      · exact List.not_mem_nil
      · simp [Ne.symm hc]
    · have hrest := ih fun t ht => halone (c :: t) (by rw [ht]; rfl)
      rw [dropLastIf_cons hnil, dropLastIf_cons (mt h.eq_nil_iff.2 hnil)]
      exact .char hc hrest

end SameLines

end ScopedSheets.Text
