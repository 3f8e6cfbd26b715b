import ScopedSheets.Proofs.Fragment.Printing

/-!
# Lists of media queries

A header that lists media queries is cut at its commas like any other, and only the last part decides
whether the body holds rules. So the body of an `@media` rule is put under the scope when the last part
begins with the keyword, and the header stays as it is when each part is one that the scope leaves alone
(`media_kept_iff`). With one query both are so.
-/

namespace ScopedSheets

open Text (isSelectorBlank trim)

theorem not_mem_media {query : Text} {c : Char} (h : c ∉ query) (hc : c ∉ "@media ".toList) :
    c ∉ "@media ".toList ++ query := by
  rw [List.mem_append, not_or]
  exact ⟨hc, h⟩

theorem selectorList_media {query : Text} (h : ',' ∉ query) :
    ∃ rest, selectorList ("@media ".toList ++ query) = ["@media".toList ++ rest] := by
  have hfirst : ∃ c, "@media".toList.head? = some c ∧ isSelectorBlank c = false :=
    ⟨'@', by decide, by decide⟩
  have hlast : ∃ c, "@media".toList.getLast? = some c ∧ isSelectorBlank c = false :=
    ⟨'a', by decide, by decide⟩
  have hword : "@media ".toList ++ query = "@media".toList ++ ' ' :: query := by simp
  have hcomma : ',' ∉ "@media ".toList ++ query := not_mem_media h (by decide)
  refine ⟨Text.trimRight isSelectorBlank (' ' :: query), ?_⟩
  rw [selectorList_of_not_mem hcomma, hword, Text.trim_append_of_solid hfirst hlast]

/-- An `@media` rule with these queries and this text between its braces is one rule, its body is the text
under the scope, and the parts of its header stay as they are. -/
def MediaKept (p query t : Text) : Prop :=
  ∃ r, rules p ("@media ".toList ++ query ++ braced t) = [r] ∧ r.comments = [] ∧
    r.selectors = selectorList ("@media ".toList ++ query) ∧
    (∀ s ∈ r.selectors, scopeSelector p s = s) ∧
    r.body = '{' :: ("\n    ".toList ++ (applyScope p t).dropLastIf '\n' ++ ['}'])

section

variable {query t : Text}

theorem mediaKept_iff_fixed (hopen : '{' ∉ query) (hnone : ¬ HasOpener query) (ht : Enclosable t)
    (p : Text) :
    MediaKept p query t ↔
      (∀ s ∈ selectorList ("@media ".toList ++ query), (Selector.ofText s).Fixed p) ∧
        (EndsInMedia ("@media ".toList ++ query) ∨ braced t = mediaBody (applyScope p t)) := by
  have hbody : mediaBody (applyScope p t)
      = '{' :: ("\n    ".toList ++ (applyScope p t).dropLastIf '\n' ++ ['}']) := by
    simp [mediaBody, braced]
  have hheader := not_mem_media hopen (by decide)
  have hslash : '/' ∉ "@media ".toList := by decide
  have hopener := not_hasOpener_append hslash hnone
  have hsame : (∀ s ∈ selectorList ("@media ".toList ++ query), scopeSelector p s = s) ↔
      ∀ s ∈ selectorList ("@media ".toList ++ query), (Selector.ofText s).Fixed p :=
    forall₂_congr fun _ _ => scopeSelector_eq_self_iff
  rw [MediaKept, ← hbody, ← hsame]
  -- the last part alone decides which body is printed
  by_cases hends : EndsInMedia ("@media ".toList ++ query)
  · rw [rules_headed_media hheader hopener ht hends]
    constructor
    · rintro ⟨r, _, _, hselectors, hfixed, _⟩
      exact ⟨hselectors ▸ hfixed, .inl hends⟩
    · rintro ⟨hfixed, _⟩
      exact ⟨_, rfl, rfl, rfl, hfixed, rfl⟩
  · rw [rules_headed_plain hheader hopener ht hends]
    constructor
    · rintro ⟨r, hr, _, hselectors, hfixed, hmedia⟩
      rw [List.cons.injEq] at hr
      obtain ⟨rfl, _⟩ := hr
      exact ⟨hfixed, .inr hmedia⟩
    · rintro ⟨hfixed, hlast | hmedia⟩
      · exact absurd hlast hends
      · exact ⟨_, rfl, rfl, rfl, hfixed, hmedia⟩

theorem mediaKept_of_one_query (hopen : '{' ∉ query) (hnone : ¬ HasOpener query) (ht : Enclosable t)
    (hcomma : ',' ∉ query) (p : Text) : MediaKept p query t := by
  obtain ⟨rest, hone⟩ := selectorList_media hcomma
  rw [mediaKept_iff_fixed hopen hnone ht, EndsInMedia, hone]
  refine ⟨?_, .inl ⟨_, rfl, List.prefix_append _ _⟩⟩
  intro s hs
  have hat : s = '@' :: ("media".toList ++ rest) := by simpa using hs
  rw [hat, Selector.ofText_at]
  trivial

/-- The body of an `@media` rule is put under the scope, and its header stays as it is, when there is one
query, and otherwise exactly when the scope leaves every part of the header alone and the last part begins
with the keyword, unless the body is what it becomes under the scope. -/
theorem media_kept_iff (hopen : '{' ∉ query) (hnone : ¬ HasOpener query) (ht : Enclosable t)
    (p : Text) :
    (',' ∉ query → MediaKept p query t) ∧
    (MediaKept p query t ↔
      (∀ s ∈ selectorList ("@media ".toList ++ query), (Selector.ofText s).Fixed p) ∧
        (EndsInMedia ("@media ".toList ++ query) ∨ braced t = mediaBody (applyScope p t))) :=
  ⟨fun hcomma => mediaKept_of_one_query hopen hnone ht hcomma p,
    mediaKept_iff_fixed hopen hnone ht p⟩

end

theorem enclosable_type : Enclosable "a\x7b\x7d".toList := by
  have hletter : ¬ HasOpener ['a'] := not_hasOpener_of_no_slash (by decide)
  exact Enclosable.headed (by decide) (by decide) hletter enclosable_nil

theorem media_kept_iff_print :
    '{' ∉ "print".toList ∧ ¬ HasOpener "print".toList ∧ Enclosable "a\x7b\x7d".toList ∧
    MediaKept ".x".toList "print".toList "a\x7b\x7d".toList := by
  have hnone : ¬ HasOpener "print".toList := not_hasOpener_of_no_slash (by decide)
  refine ⟨by decide, hnone, enclosable_type, ?_⟩
  exact (media_kept_iff (by decide) hnone enclosable_type _).1 (by decide)

/-- With a second query the body stays as it is, and the scope's selector comes before the query. -/
theorem media_list_not_kept :
    rules ".x".toList "@media screen, print\x7ba\x7b\x7d\x7d".toList
      = [⟨["@media screen".toList, "print".toList], "\x7ba\x7b\x7d\x7d".toList, []⟩] ∧
    applyScope ".x".toList "@media screen, print\x7ba\x7b\x7d\x7d".toList
      = "@media screen,\n.x print \x7ba\x7b\x7d\x7d\n\n".toList ∧
    ¬ MediaKept ".x".toList "screen, print".toList "a\x7b\x7d".toList := by
  have hnone : ¬ HasOpener "@media screen, print".toList := not_hasOpener_of_no_slash (by decide)
  have hsel : selectorList "@media screen, print".toList
      = ["@media screen".toList, "print".toList] := by decide +kernel
  have hends : ¬ EndsInMedia "@media screen, print".toList := by decide +kernel
  have hrules : rules ".x".toList "@media screen, print\x7ba\x7b\x7d\x7d".toList
      = [⟨["@media screen".toList, "print".toList], "\x7ba\x7b\x7d\x7d".toList, []⟩] := by
    have hone := rules_headed_plain (by decide) hnone enclosable_type hends ".x".toList
    rw [hsel] at hone
    exact hone
  refine ⟨hrules, ?_, ?_⟩
  · rw [applyScope, hrules]
    decide +kernel
  · rintro ⟨r, hr, _, _, hfixed, _⟩
    have hr := hrules.symm.trans hr
    rw [List.cons.injEq] at hr
    obtain ⟨rfl, _⟩ := hr
    have hprint := hfixed "print".toList (by decide)
    revert hprint
    decide +kernel

end ScopedSheets
