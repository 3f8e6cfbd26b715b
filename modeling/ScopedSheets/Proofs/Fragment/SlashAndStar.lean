import ScopedSheets.Proofs.Fragment.Appending
import ScopedSheets.Proofs.Fragment.Printing

/-!
# Slashes and stars around comments

Comments are taken out of a header before its selectors are read. When a slash stands right before comments
and a star right after them, the two meet and make a comment opener that the fragment does not have. Such a
selector is printed as it is, without the scope, and its opener goes on through the rest of the sheet. In
every other header no selector holds an opener, and all selectors stay under the scope (`staysScoped_iff`).
-/

namespace ScopedSheets

open Text (isSelectorBlank trim)

theorem hasOpener_append_iff {a b : Text} :
    HasOpener (a ++ b) ↔
      HasOpener a ∨ HasOpener b ∨ (a.getLast? = some '/' ∧ b.head? = some '*') := by
  rw [HasOpener, List.infix_append_iff]
  constructor
  · rintro (ha | hb | ⟨l, m, hlm, hl, hm⟩)
    · exact .inl ha
    · exact .inr (.inl hb)
    · rcases List.cons_eq_append_iff.1 hlm with ⟨rfl, rfl⟩ | ⟨l', rfl, hl'⟩
      · exact .inr (.inl hm.isInfix)
      · rcases List.cons_eq_append_iff.1 hl' with ⟨rfl, rfl⟩ | ⟨l'', rfl, hnil⟩
        · obtain ⟨init, rfl⟩ := hl
          obtain ⟨rest, rfl⟩ := hm
          exact .inr (.inr ⟨by simp, rfl⟩)
        · obtain ⟨rfl, _⟩ := List.nil_eq_append_iff.1 hnil
          exact .inl hl.isInfix
  · rintro (ha | hb | ⟨ha, hb⟩)
    · exact .inl ha
    · exact .inr (.inl hb)
    · obtain ⟨init, rfl⟩ := List.getLast?_eq_some_iff.1 ha
      obtain ⟨rest, rfl⟩ := List.head?_eq_some_iff.1 hb
      exact .inr (.inr ⟨['/'], ['*'], rfl, List.suffix_append _ _, List.prefix_append ['*'] rest⟩)

theorem hasOpener_intercalate_iff (sep : Text) (parts : List Text) (h : '/' ∉ sep) :
    HasOpener ((',' :: sep).intercalate parts) ↔ ∃ part ∈ parts, HasOpener part := by
  induction parts with
  | nil => simp [HasOpener]
  | cons first parts ih =>
    cases parts with
    | nil => simp [List.intercalate_singleton]
    | cons second parts =>
      have hsep : '/' ∉ ',' :: sep := by simp [h]
      have hlast : (',' :: sep).getLast? ≠ some '/' := fun hl => hsep (List.mem_of_mem_getLast? hl)
      have hnone : ¬ HasOpener (',' :: sep) := not_hasOpener_of_no_slash hsep
      rw [List.intercalate_cons_cons, List.append_assoc, hasOpener_append_iff, hasOpener_append_iff,
        ih, List.exists_mem_cons_iff]
      simp [hnone, hlast]

theorem hasOpener_trim_iff {t : Text} : HasOpener (trim isSelectorBlank t) ↔ HasOpener t := by
  obtain ⟨lead, trail, ht, hlead, htrail⟩ := (Text.trimmed_trim isSelectorBlank t).around
  have hslash : '/' ∉ lead := not_mem_of_blank hlead (by decide)
  have hstar : '*' ∉ trail := not_mem_of_blank htrail (by decide)
  have hslash' : '/' ∉ trail := not_mem_of_blank htrail (by decide)
  have hlast : lead.getLast? ≠ some '/' := fun h => hslash (List.mem_of_mem_getLast? h)
  have hhead : trail.head? ≠ some '*' := fun h => hstar (List.mem_of_mem_head? h)
  conv => rhs; rw [ht]
  rw [hasOpener_append_iff, hasOpener_append_iff]
  simp [not_hasOpener_of_no_slash hslash, not_hasOpener_of_no_slash hslash', hlast, hhead]

theorem exists_hasOpener_selectorList_iff (t : Text) :
    (∃ s ∈ selectorList t, HasOpener s) ↔ HasOpener t := by
  have hparts := hasOpener_intercalate_iff [] (t.splitOn ',') (by simp)
  rw [List.intercalate_splitOn] at hparts
  rw [hparts, selectorList]
  simp [hasOpener_trim_iff]

def SlashMeetsStar (ps : List Piece) : Prop :=
  ∃ before comments after, ps = before ++ .char '/' :: (comments ++ .char '*' :: after) ∧
    ∀ p ∈ comments, ∃ c, p = .comment c

theorem Piece.char?_eq_none_iff {p : Piece} : p.char? = none ↔ ∃ c, p = .comment c := by
  cases p <;> simp [Piece.char?]

theorem hasOpener_chars_iff {ps : List Piece} :
    HasOpener (ps.filterMap Piece.char?) ↔ SlashMeetsStar ps := by
  constructor
  · rintro ⟨s, t, hst⟩
    rw [List.append_assoc] at hst
    obtain ⟨before, rest, rfl, _, hrest⟩ := List.filterMap_eq_append_iff.1 hst.symm
    obtain ⟨skipped, p, rest', rfl, _, hp, hrest'⟩ := List.filterMap_eq_cons_iff.1 hrest
    obtain ⟨comments, q, after, rfl, hcomments, hq, _⟩ := List.filterMap_eq_cons_iff.1 hrest'
    rw [Piece.char?_eq_some_iff] at hp hq
    subst hp hq
    refine ⟨before ++ skipped, comments, after, by simp, ?_⟩
    exact fun r hr => Piece.char?_eq_none_iff.1 (hcomments r hr)
  · rintro ⟨before, comments, after, rfl, hcomments⟩
    have hnil : comments.filterMap Piece.char? = [] :=
      List.filterMap_eq_nil_iff.2 fun p hp => Piece.char?_eq_none_iff.2 (hcomments p hp)
    refine ⟨before.filterMap Piece.char?, after.filterMap Piece.char?, ?_⟩
    simp [List.filterMap_append, hnil, Piece.char?]

theorem Selector.exists_rest (scope : Text) (selector : Selector) :
    ∃ word lead rest, '/' ∉ word ∧ selector.text = word ++ rest ∧
      selector.render scope = lead ++ rest := by
  cases selector with
  | verbatim text => exact ⟨[], [], text, by simp, rfl, rfl⟩
  | own rest => exact ⟨"root".toList, scope, rest, by decide, rfl, rfl⟩
  | parent rest => exact ⟨"directory".toList, parentScope scope, rest, by decide, rfl, rfl⟩
  | inner text => exact ⟨[], scope ++ [' '], text, by simp, rfl, by simp [render]⟩

theorem hasOpener_scopeSelector_iff {scope s : Text} (hscope : '/' ∉ scope) :
    HasOpener (scopeSelector scope s) ↔ HasOpener s := by
  constructor
  · intro h
    by_contra hnone
    exact not_hasOpener_scopeSelector hscope hnone h
  · intro h
    obtain ⟨word, lead, rest, hword, htext, hrender⟩ := (Selector.ofText s).exists_rest scope
    rw [Selector.text_ofText] at htext
    have hrest : HasOpener rest := by
      by_contra hnone
      exact not_hasOpener_append hword hnone (htext ▸ h)
    rw [scopeSelector, hrender]
    exact hrest.trans (List.suffix_append lead rest).isInfix

theorem prefix_scopeSelector {scope s : Text} (hat : ¬ "@".toList <+: s)
    (hdirectory : ¬ "directory".toList <+: s) (hcomment : ¬ OpensComment s) :
    scope <+: scopeSelector scope s := by
  rw [scopeSelector, Selector.ofText_of_plain hat hcomment]
  split
  · split
    · exact List.prefix_append _ _
    · exact List.prefix_append _ _
  · split
    · next rest hrest =>
      rw [Text.eq_append_of_isPrefixOf? hrest] at hdirectory
      exact absurd (List.prefix_append _ _) hdirectory
    · exact List.prefix_append _ _

/-- No selector of the rule holds a comment opener. Printed under the scope `p`, each begins with it, at-rule
headers and selectors of the scope above apart, and they open no comment together. -/
structure Rule.StaysScoped (p : Text) (r : Rule) : Prop where
  no_opener : ∀ s ∈ r.selectors, ¬ HasOpener s
  begins : ∀ s ∈ r.selectors, ¬ "@".toList <+: s → ¬ "directory".toList <+: s →
    p <+: scopeSelector p s
  printed : ¬ HasOpener (",\n".toList.intercalate (r.selectors.map (scopeSelector p)))

theorem staysScoped_toRule_iff {p : Text} (hp : '/' ∉ p) (r : RawRule) :
    (r.toRule p).StaysScoped p ↔ ¬ SlashMeetsStar r.header := by
  have hselectors : (∃ s ∈ (r.toRule p).selectors, HasOpener s) ↔ SlashMeetsStar r.header := by
    rw [← hasOpener_chars_iff, ← exists_hasOpener_selectorList_iff]
    rfl
  constructor
  · intro h hmeets
    obtain ⟨s, hs, ho⟩ := hselectors.2 hmeets
    exact h.no_opener s hs ho
  · intro hmeets
    have hnone : ∀ s ∈ (r.toRule p).selectors, ¬ HasOpener s :=
      fun s hs ho => hmeets (hselectors.1 ⟨s, hs, ho⟩)
    refine ⟨hnone, ?_, ?_⟩
    · intro s hs hat hdirectory
      exact prefix_scopeSelector hat hdirectory fun ho => hnone s hs ho.isInfix
    · intro ho
      obtain ⟨t, ht, hopener⟩ := (hasOpener_intercalate_iff ['\n'] _ (by decide)).1 ho
      obtain ⟨s, hs, rfl⟩ := List.mem_map.1 ht
      exact hnone s hs ((hasOpener_scopeSelector_iff hp).1 hopener)

/-- A rule stays under the scope with all its selectors exactly when no slash meets a star in its header once
the comments are taken out. -/
theorem staysScoped_iff {p : Text} (hp : '/' ∉ p) (f : Text) :
    IsOutline f (outline f) ∧
    List.Forall₂ (fun (h : RuleText) (r : Rule) =>
      r.StaysScoped p ↔ ¬ SlashMeetsStar (pieces h.header)) (outline f).rules (rules p f) := by
  refine ⟨isOutline_outline f, ?_⟩
  rw [rules_eq, outline, List.forall₂_map_left_iff, List.forall₂_map_right_iff, List.forall₂_same]
  intro r hr
  rw [(pieces_written hr).1]
  exact staysScoped_toRule_iff hp r

theorem staysScoped_iff_blank :
    '/' ∉ ".x".toList ∧
    ∃ r, rules ".x".toList "/ /**/*a\x7b\x7d".toList = [r] ∧ r.StaysScoped ".x".toList := by
  have hpieces : pieces "/ /**/*a\x7b\x7d".toList
      = .char '/' :: .char ' ' :: .comment "/**/".toList :: ['*', 'a', '{', '}'].map .char := by
    simp [pieces, splitComment]
  have hfirst : firstRule? (pieces "/ /**/*a\x7b\x7d".toList)
      = some (⟨.char '/' :: .char ' ' :: .comment "/**/".toList :: ['*', 'a'].map .char, []⟩, []) := by
    rw [hpieces]
    decide
  have hrules := rules_of_firstRule? hfirst (by decide) ".x".toList
  have hsplit := splitRules_of_some hfirst
  have hend : splitRules [] = ([], []) := splitRules_of_none rfl
  rw [hend] at hsplit
  have hheader : pieces "/ /**/*a".toList
      = .char '/' :: .char ' ' :: .comment "/**/".toList :: ['*', 'a'].map .char := by
    simp [pieces, splitComment]
  have hapart : ¬ SlashMeetsStar (pieces "/ /**/*a".toList) := by
    rw [← hasOpener_chars_iff, hheader]
    unfold HasOpener
    decide
  have hall := (staysScoped_iff (p := ".x".toList) (by decide) "/ /**/*a\x7b\x7d".toList).2
  rw [hrules, outline, hsplit] at hall
  exact ⟨by decide, _, hrules, (List.forall₂_cons.1 hall).1.2 hapart⟩

/-- Without the blank the selector is printed as it is, and it opens a comment. -/
theorem slash_meets_star :
    rules ".x".toList "//**/*a\x7b\x7d".toList
      = [⟨["/*a".toList], "\x7b\x7d".toList, ["/**/".toList]⟩] ∧
    applyScope ".x".toList "//**/*a\x7b\x7d".toList = "/**/\n/*a \x7b\x7d\n\n".toList ∧
    ¬ (⟨["/*a".toList], "\x7b\x7d".toList, ["/**/".toList]⟩ : Rule).StaysScoped ".x".toList := by
  have hpieces : pieces "//**/*a\x7b\x7d".toList
      = .char '/' :: .comment "/**/".toList :: ['*', 'a', '{', '}'].map .char := by
    simp [pieces, splitComment]
  have hfirst : firstRule? (pieces "//**/*a\x7b\x7d".toList)
      = some (⟨.char '/' :: .comment "/**/".toList :: ['*', 'a'].map .char, []⟩, []) := by
    rw [hpieces]
    decide
  have hrules : rules ".x".toList "//**/*a\x7b\x7d".toList
      = [⟨["/*a".toList], "\x7b\x7d".toList, ["/**/".toList]⟩] := by
    rw [rules_of_firstRule? hfirst (by decide)]
    decide +kernel
  refine ⟨hrules, ?_, ?_⟩
  · rw [applyScope, hrules]
    decide +kernel
  · intro h
    exact h.no_opener "/*a".toList (by simp) ⟨[], ['a'], rfl⟩

end ScopedSheets
