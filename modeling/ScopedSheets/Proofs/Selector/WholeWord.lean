import ScopedSheets.Proofs.Fragment.Reading
import ScopedSheets.Proofs.Selector
import ScopedSheets.Proofs.Sheet.Marker

/-!
# The words for the scope's own elements

A selector begins with a word of identifier characters. With `root` as its whole first word it addresses the
scope's own element when nothing, a class, a pseudo-class or a space follows; other combinators and line ends
do not count, and the selector is then an element inside the scope. With `directory` as its whole first word
it always addresses the scope above. Read as whole words and nothing else, the two words mean the same exactly
where `root` is followed so and `directory` is not the beginning of a longer word
(`scopeSelector_wholeWords_iff`).
-/

namespace ScopedSheets

/-- The characters of identifiers: letters, digits, hyphens, underscores, and all beyond ASCII. -/
def isIdentifierChar (c : Char) : Bool := c.isAlphanum || c = '-' || c = '_' || 0x80 ≤ c.toNat

/-- The identifier characters that a selector begins with, as many as there are. -/
def firstWord (s : Text) : Text := s.takeWhile isIdentifierChar

theorem firstWord_append_iff {word rest : Text} (hword : ∀ c ∈ word, isIdentifierChar c) :
    firstWord (word ++ rest) = word ↔ ∀ c, rest.head? = some c → isIdentifierChar c = false := by
  constructor
  · intro h c hc
    cases rest with
    | nil => simp at hc
    | cons d rest =>
      obtain rfl := Option.some.inj hc
      rw [firstWord, List.takeWhile_append_of_pos hword, List.append_right_eq_self] at h
      cases hd : isIdentifierChar d with
      | false => rfl
      | true =>
        rw [List.takeWhile_cons_of_pos hd] at h
        nomatch h
  · intro h
    exact Text.takeWhile_append_of_head hword h

theorem exists_of_firstWord_eq {s word : Text} (h : firstWord s = word) : ∃ rest, s = word ++ rest := by
  refine ⟨s.dropWhile isIdentifierChar, ?_⟩
  rw [← h, firstWord, List.takeWhile_append_dropWhile]

theorem endsWord_iff {rest : Text} :
    Selector.endsWord rest = true ↔ ∀ c, rest.head? = some c → c ∈ ['.', ':', ' '] := by
  cases rest with
  | nil => simp [Selector.endsWord]
  | cons c rest =>
    simp only [Selector.endsWord, Bool.or_eq_true, decide_eq_true_eq, List.head?_cons, Option.some.injEq,
      forall_eq', List.mem_cons, List.not_mem_nil, or_false, or_assoc]

theorem firstWord_root {rest : Text} (h : Selector.endsWord rest = true) :
    firstWord ("root".toList ++ rest) = "root".toList := by
  have hword : ∀ c ∈ "root".toList, isIdentifierChar c := List.all_eq_true.1 rfl
  rw [firstWord_append_iff hword]
  intro c hc
  have hend := endsWord_iff.1 h c hc
  rw [List.mem_cons, List.mem_cons, List.mem_singleton] at hend
  rcases hend with hend | hend | hend
  · rw [hend]
    decide
  · rw [hend]
    decide
  · rw [hend]
    decide

theorem parentScope_sublist (scope : Text) : (parentScope scope).Sublist scope := by
  have hparts : (segments scope).dropLast.Sublist (scope.splitOn '-') :=
    (List.dropLast_sublist _).trans List.filter_sublist
  have h : (parentScope scope).Sublist (['-'].intercalate (scope.splitOn '-')) :=
    Text.intercalate_sublist hparts
  rwa [List.intercalate_splitOn] at h

section

variable {s : Text}

theorem scopeSelector_root {rest : Text} (h : Selector.endsWord rest = true) (scope : Text) :
    scopeSelector scope ("root".toList ++ rest) = scope ++ rest := by
  rw [scopeSelector, Selector.ofText_of_plain (by simp) (by simp), Text.isPrefixOf?_append]
  simp only [h, if_true, Selector.render]

theorem scopeSelector_directory (scope rest : Text) :
    scopeSelector scope ("directory".toList ++ rest) = parentScope scope ++ rest := by
  have hroot : "root".toList.isPrefixOf? ("directory".toList ++ rest) = none := rfl
  rw [scopeSelector, Selector.ofText_of_plain (by simp) (by simp), hroot, Text.isPrefixOf?_append]
  rfl

theorem scopeSelector_inner (hat : ¬ "@".toList <+: s) (hcomment : ¬ OpensComment s)
    (hroot : ∀ rest, s = "root".toList ++ rest → ¬ Selector.endsWord rest = true)
    (hdirectory : ¬ "directory".toList <+: s) (scope : Text) :
    scopeSelector scope s = scope ++ ' ' :: s := by
  rw [scopeSelector, Selector.ofText_of_plain hat hcomment]
  cases hr : "root".toList.isPrefixOf? s with
  | some rest =>
    simp only [hroot rest (Text.eq_append_of_isPrefixOf? hr)]
    rfl
  | none =>
    cases hd : "directory".toList.isPrefixOf? s with
    | some rest =>
      rw [Text.eq_append_of_isPrefixOf? hd] at hdirectory
      exact absurd (List.prefix_append _ _) hdirectory
    | none => rfl

theorem scopeSelector_root_inner (hword : firstWord s = "root".toList)
    (hend : ¬ Selector.endsWord (s.drop 4) = true) (scope : Text) :
    scopeSelector scope s = scope ++ ' ' :: s := by
  obtain ⟨rest, rfl⟩ := exists_of_firstWord_eq hword
  have hcomment : ¬ OpensComment ("root".toList ++ rest) := not_opensComment_of_ne (by decide) _
  apply scopeSelector_inner
  · simp
  · exact hcomment
  · intro rest' he
    rw [List.append_cancel_left he] at hend
    exact hend
  · simp

theorem append_ne_inner {scope lead rest t : Text} (hlead : lead.length ≤ scope.length)
    (hrest : rest.length ≤ t.length) : lead ++ rest ≠ scope ++ ' ' :: t := by
  intro h
  have hlen := congrArg List.length h
  rw [List.length_append, List.length_append, List.length_cons] at hlen
  omega

/-- The selector under the scope when `root` and `directory` are recognised as whole first words and as
nothing else. -/
def scopeWholeWords (scope s : Text) : Text :=
  if firstWord s = "root".toList then scope ++ s.drop 4
  else if firstWord s = "directory".toList then parentScope scope ++ s.drop 9
  else scope ++ ' ' :: s

theorem scopeWholeWords_root_iff (hword : firstWord s = "root".toList) (scope : Text) :
    scopeSelector scope s = scopeWholeWords scope s ↔ Selector.endsWord (s.drop 4) = true := by
  rw [scopeWholeWords, if_pos hword]
  by_cases hend : Selector.endsWord (s.drop 4) = true
  · obtain ⟨rest, rfl⟩ := exists_of_firstWord_eq hword
    exact iff_of_true (scopeSelector_root hend scope) hend
  · refine iff_of_false ?_ hend
    rw [scopeSelector_root_inner hword hend]
    exact (append_ne_inner (Nat.le_refl _) (List.drop_sublist 4 s).length_le).symm

theorem scopeWholeWords_directory (hword : firstWord s = "directory".toList) (scope : Text) :
    scopeSelector scope s = scopeWholeWords scope s := by
  have hroot : firstWord s ≠ "root".toList := by
    rw [hword]
    decide
  obtain ⟨rest, rfl⟩ := exists_of_firstWord_eq hword
  rw [scopeWholeWords, if_neg hroot, if_pos hword]
  exact scopeSelector_directory scope rest

theorem scopeWholeWords_inner_iff (hat : ¬ "@".toList <+: s) (hcomment : ¬ OpensComment s)
    (hroot : firstWord s ≠ "root".toList) (hword : firstWord s ≠ "directory".toList) (scope : Text) :
    scopeSelector scope s = scopeWholeWords scope s ↔ ¬ "directory".toList <+: s := by
  rw [scopeWholeWords, if_neg hroot, if_neg hword]
  constructor
  · intro h hdirectory
    obtain ⟨rest, rfl⟩ := hdirectory
    rw [scopeSelector_directory] at h
    have hrest : rest.length ≤ ("directory".toList ++ rest).length :=
      (List.sublist_append_right _ rest).length_le
    exact append_ne_inner (parentScope_sublist scope).length_le hrest h
  · intro hdirectory
    refine scopeSelector_inner hat hcomment ?_ hdirectory scope
    intro rest hs hend
    rw [hs] at hroot
    exact hroot (firstWord_root hend)

/-- The two words are recognised as whole first words and as nothing else exactly where `root` is followed by
nothing, a class, a pseudo-class or a space, and `directory` does not begin a longer word. Followed by anything
else, the word `root` is an element inside the scope. -/
theorem scopeSelector_wholeWords_iff (hat : ¬ "@".toList <+: s) (hcomment : ¬ OpensComment s)
    (scope : Text) :
    (scopeSelector scope s = scopeWholeWords scope s ↔
      (firstWord s = "root".toList → ∀ c, (s.drop 4).head? = some c → c ∈ ['.', ':', ' ']) ∧
      ("directory".toList <+: s → firstWord s = "directory".toList)) ∧
    (firstWord s = "root".toList → (∃ c, (s.drop 4).head? = some c ∧ c ∉ ['.', ':', ' ']) →
      scopeSelector scope s = scope ++ ' ' :: s) := by
  rw [← endsWord_iff]
  constructor
  · by_cases hroot : firstWord s = "root".toList
    · have hdirectory : ¬ "directory".toList <+: s := by
        obtain ⟨rest, rfl⟩ := exists_of_firstWord_eq hroot
        simp
      rw [scopeWholeWords_root_iff hroot]
      constructor
      · intro hend
        exact ⟨fun _ => hend, fun h => absurd h hdirectory⟩
      · intro h
        exact h.1 hroot
    · by_cases hword : firstWord s = "directory".toList
      · refine iff_of_true (scopeWholeWords_directory hword scope) ?_
        exact ⟨fun h => absurd h hroot, fun _ => hword⟩
      · rw [scopeWholeWords_inner_iff hat hcomment hroot hword]
        constructor
        · intro hdirectory
          exact ⟨fun h => absurd h hroot, fun h => absurd h hdirectory⟩
        · intro h hdirectory
          exact hword (h.2 hdirectory)
  · intro hroot hother
    obtain ⟨c, hc, hnot⟩ := hother
    refine scopeSelector_root_inner hroot ?_ scope
    intro hend
    exact hnot (endsWord_iff.1 hend c hc)

end

theorem scopeSelector_wholeWords_iff_class :
    (¬ "@".toList <+: "root.open".toList ∧ ¬ OpensComment "root.open".toList ∧
      scopeSelector ".x".toList "root.open".toList = ".x.open".toList) ∧
    ¬ "@".toList <+: "rootless".toList ∧ ¬ OpensComment "rootless".toList ∧
      scopeSelector ".x".toList "rootless".toList = ".x rootless".toList := by
  have hclass : ¬ "@".toList <+: "root.open".toList := by decide
  have hopen : ¬ OpensComment "root.open".toList := not_opensComment_of_ne (by decide) _
  have hlonger : ¬ "@".toList <+: "rootless".toList := by decide
  have hnone : ¬ OpensComment "rootless".toList := not_opensComment_of_ne (by decide) _
  have hdot : ∀ c, ("root.open".toList.drop 4).head? = some c → c ∈ ['.', ':', ' '] := by
    intro c hc
    obtain rfl := Option.some.inj hc
    decide
  have hroot := (scopeSelector_wholeWords_iff hclass hopen ".x".toList).1.2 ⟨fun _ => hdot, by decide⟩
  have hword := (scopeSelector_wholeWords_iff hlonger hnone ".x".toList).1.2 ⟨by decide, by decide⟩
  exact ⟨⟨hclass, hopen, hroot⟩, hlonger, hnone, hword⟩

/-- Before a child the word `root` is an element inside the scope. -/
theorem root_before_child_inside :
    firstWord "root>a".toList = "root".toList ∧
    scopeSelector ".x".toList "root>a".toList = ".x root>a".toList ∧
    scopeSelector ".x".toList "root>a".toList ≠ scopeWholeWords ".x".toList "root>a".toList := by
  decide

end ScopedSheets
