import ScopedSheets.Proofs.Fragment.Header

/-!
# What a scoped selector is made of

Whatever a selector addresses, scoping it writes characters of the scope, spaces and hyphens, and after
them the end of the selector (`scopeSelector_eq_append`). So a scope that is free of a character brings
none of it in.
-/

namespace ScopedSheets

theorem mem_parentScope {scope : Text} {c : Char} (h : c ∈ parentScope scope) :
    c ∈ scope ∨ c = '-' := by
  rcases Text.mem_intercalate h with h | ⟨part, hpart, hc⟩
  · exact Or.inr (List.mem_singleton.1 h)
  · have hseg : part ∈ segments scope := List.dropLast_subset _ hpart
    have hsplit : part ∈ scope.splitOn '-' := List.mem_filter.1 hseg |>.1
    exact Or.inl ((Text.infix_of_mem_splitOn hsplit).subset hc)

theorem scopeSelector_eq_append (scope selector : Text) :
    ∃ lead rest, scopeSelector scope selector = lead ++ rest ∧ rest <:+ selector ∧
      ∀ c ∈ lead, c ∈ scope ∨ c = '-' ∨ c = ' ' := by
  have hinner : ∃ lead rest, scope ++ ' ' :: selector = lead ++ rest ∧ rest <:+ selector ∧
      ∀ c ∈ lead, c ∈ scope ∨ c = '-' ∨ c = ' ' := by
    refine ⟨scope ++ [' '], selector, by simp, List.suffix_rfl, ?_⟩
    intro c hc
    rcases List.mem_append.1 hc with hc | hc
    · exact Or.inl hc
    · exact Or.inr (Or.inr (List.mem_singleton.1 hc))
  rw [scopeSelector, Selector.ofText]
  split
  · exact ⟨[], selector, rfl, List.suffix_rfl, by simp⟩
  · split
    · next rest hroot =>
      split
      · refine ⟨scope, rest, rfl, ?_, fun c hc => Or.inl hc⟩
        rw [Text.eq_append_of_isPrefixOf? hroot]
        exact List.suffix_append _ _
      · exact hinner
    · split
      · next rest hdir =>
        refine ⟨parentScope scope, rest, rfl, ?_, ?_⟩
        · rw [Text.eq_append_of_isPrefixOf? hdir]
          exact List.suffix_append _ _
        · intro c hc
          rcases mem_parentScope hc with hc | hc
          · exact Or.inl hc
          · exact Or.inr (Or.inl hc)
      · exact hinner

namespace Selector

theorem ofText_of_plain {s : Text} (hat : ¬ "@".toList <+: s) (hcomment : ¬ "/*".toList <+: s) :
    ofText s = match "root".toList.isPrefixOf? s with
      | some rest => if endsWord rest then .own rest else .inner s
      | none => match "directory".toList.isPrefixOf? s with
        | some rest => .parent rest
        | none => .inner s := by
  have hplain : ¬ ("/*".toList.isPrefixOf s || "@".toList.isPrefixOf s) = true := by
    rw [Bool.or_eq_true, List.isPrefixOf_iff_prefix, List.isPrefixOf_iff_prefix, not_or]
    exact ⟨hcomment, hat⟩
  exact if_neg hplain

def text : Selector → Text
  | verbatim text => text
  | own rest => "root".toList ++ rest
  | parent rest => "directory".toList ++ rest
  | inner text => text

theorem text_ofText (s : Text) : (ofText s).text = s := by
  rw [ofText]
  split
  · rfl
  · split
    · next rest hroot =>
      split
      · exact (Text.eq_append_of_isPrefixOf? hroot).symm
      · rfl
    · split
      · next rest hdir => exact (Text.eq_append_of_isPrefixOf? hdir).symm
      · rfl

/-- What the scope leaves as it is written: at-rule headers and comments, and the two words for elements of
the scope itself when they are what the scope puts in their place. -/
def Fixed (scope : Text) : Selector → Prop
  | verbatim _ => True
  | own _ => scope = "root".toList
  | parent _ => parentScope scope = "directory".toList
  | inner _ => False

theorem render_eq_text_iff (scope : Text) (s : Selector) : s.render scope = s.text ↔ s.Fixed scope := by
  cases s with
  | verbatim text => exact iff_of_true rfl trivial
  | own rest =>
    show scope ++ rest = "root".toList ++ rest ↔ scope = "root".toList
    rw [List.append_left_inj]
  | parent rest =>
    show parentScope scope ++ rest = "directory".toList ++ rest ↔
      parentScope scope = "directory".toList
    rw [List.append_left_inj]
  | inner text =>
    refine iff_of_false ?_ id
    intro h
    have hlen : (scope ++ ' ' :: text).length = text.length := congrArg List.length h
    rw [List.length_append, List.length_cons] at hlen
    omega

end Selector

theorem scopeSelector_eq_self_iff {scope s : Text} :
    scopeSelector scope s = s ↔ (Selector.ofText s).Fixed scope := by
  rw [← Selector.render_eq_text_iff, Selector.text_ofText, scopeSelector]

theorem Selector.ofText_at (s : Text) : ofText ('@' :: s) = .verbatim ('@' :: s) := by
  rw [ofText, if_pos]
  simp

theorem not_mem_scopeSelector {scope selector : Text} {c : Char} (hscope : c ∉ scope)
    (hselector : c ∉ selector) (hhyphen : c ≠ '-') (hspace : c ≠ ' ') :
    c ∉ scopeSelector scope selector := by
  obtain ⟨lead, rest, he, hrest, hlead⟩ := scopeSelector_eq_append scope selector
  intro h
  rw [he, List.mem_append] at h
  rcases h with h | h
  · rcases hlead c h with h | h | h
    · exact hscope h
    · exact hhyphen h
    · exact hspace h
  · exact hselector (hrest.subset h)

end ScopedSheets
