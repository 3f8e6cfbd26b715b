import ScopedSheets.Proofs.Fragment.Printing
import ScopedSheets.Proofs.Position

/-!
# At-rules without a body

An at-rule that ends with a semicolon has no braces, so nothing ends it here: it is read as the beginning of
the next rule's first selector, and this selector then begins as an at-rule does and is left as it is
written. The other selectors are not touched, and the body only changes when it was the first selector that
decided about it (`Glued`). So no rule after a statement is read as it is by itself
(`rules_statement_iff`).
-/

namespace ScopedSheets

open Text (isSelectorBlank trim trimRight)

/-- An at-rule that ends with its only semicolon. -/
structure IsStatement (s : Text) : Prop where
  first : s.head? = some '@'
  last : ∃ init, s = init ++ [';'] ∧ ';' ∉ init
  no_open : '{' ∉ s
  no_close : '}' ∉ s
  no_comma : ',' ∉ s
  no_opener : ¬ HasOpener s

/-- A statement with a selector after it, the blanks between them kept. Without a selector nothing of them
is kept. -/
def glue (s blanks selector : Text) : Text :=
  s ++ if selector = [] then [] else blanks ++ selector

theorem length_lt_glue {s : Text} (hs : IsStatement s) (blanks selector : Text) :
    selector.length < (glue s blanks selector).length := by
  obtain ⟨init, rfl, _⟩ := hs.last
  simp only [glue, List.length_append, List.length_singleton]
  split
  · next h =>
    rw [h, List.length_nil]
    omega
  · rw [List.length_append]
    omega

theorem scopeSelector_glue {s : Text} (hs : IsStatement s) (p blanks selector : Text) :
    scopeSelector p (glue s blanks selector) = glue s blanks selector := by
  have hfirst := hs.first
  cases s with
  | nil => nomatch hfirst
  | cons c s =>
    obtain rfl := Option.some.inj hfirst
    rw [scopeSelector_eq_self_iff, glue, List.cons_append, Selector.ofText_at]
    trivial

theorem pieces_statement_append {s : Text} (hs : IsStatement s) (r : Text) :
    pieces (s ++ r) = s.map .char ++ pieces r := by
  obtain ⟨init, rfl, _⟩ := hs.last
  have hnone : ¬ HasOpener init := fun h => hs.no_opener (h.trans (List.prefix_append ..).isInfix)
  have hhead : (';' :: r).head? ≠ some '*' := by simp
  have hjoin : init ++ [';'] ++ r = init ++ ';' :: r := by simp
  rw [hjoin, pieces_append_of_not_hasOpener hnone hhead, pieces_cons_of_ne (by decide)]
  simp

theorem selectorList_statement_append {s : Text} (hs : IsStatement s) (t : Text) :
    ∃ selector others blanks, selectorList t = selector :: others ∧
      (∀ c ∈ blanks, isSelectorBlank c) ∧
      selectorList (s ++ t) = glue s blanks selector :: others := by
  obtain ⟨init, hsemi, _⟩ := hs.last
  have hfirst : ∃ c, s.head? = some c ∧ isSelectorBlank c = false := ⟨'@', hs.first, by decide⟩
  have hlast : ∃ c, s.getLast? = some c ∧ isSelectorBlank c = false :=
    ⟨';', by rw [hsemi, List.getLast?_concat], by decide⟩
  rcases hparts : t.splitOn ',' with - | ⟨part, parts⟩
  · exact absurd hparts (List.splitOn_ne_nil ',' t)
  · have hone : s.splitOn ',' = [] ++ [s] := List.splitOn_eq_singleton hs.no_comma
    have hjoined : (s ++ t).splitOn ',' = (s ++ part) :: parts := Text.splitOn_append hone hparts
    obtain ⟨blanks, hblanks, htrim⟩ := Text.exists_trimRight_eq (p := isSelectorBlank) part
    refine ⟨trim isSelectorBlank part, parts.map (trim isSelectorBlank), blanks, ?_, hblanks, ?_⟩
    · rw [selectorList, hparts, List.map_cons]
    · rw [selectorList, hjoined, List.map_cons, Text.trim_append_of_solid hfirst hlast, htrim, glue]

/-- The body is this text between braces, put under the scope when the rule is one of media queries. -/
def Rule.BodyOf (p : Text) (r : Rule) (t : Text) : Prop :=
  (r.IsMedia → r.body = mediaBody (applyScope p t)) ∧ (¬ r.IsMedia → r.body = braced t)

theorem bodyOf_toRule (p : Text) (r : RawRule) : (r.toRule p).BodyOf p r.innerText := by
  have hmedia : r.isMedia = true ↔ (r.toRule p).IsMedia := isMedia_iff rfl
  constructor
  · intro h
    rw [RawRule.toRule, if_pos (hmedia.2 h)]
  · intro h
    rw [RawRule.toRule, if_neg fun hr => h (hmedia.1 hr)]

/-- What the first rule becomes after a statement. -/
structure Glued (p s : Text) (first glued : Rule) : Prop where
  comments : glued.comments = first.comments
  selectors : ∃ selector others blanks, first.selectors = selector :: others ∧
    (∀ c ∈ blanks, isSelectorBlank c) ∧ glued.selectors = glue s blanks selector :: others ∧
    scopeSelector p (glue s blanks selector) = glue s blanks selector
  body : ∃ t, first.BodyOf p t ∧ glued.BodyOf p t

section

variable {p s : Text} {first glued : Rule}

theorem glued_toRule (hs : IsStatement s) (raw : RawRule) :
    Glued p s (raw.toRule p) ((⟨s.map .char ++ raw.header, raw.inner⟩ : RawRule).toRule p) := by
  refine ⟨comments_append_chars s raw, ?_, raw.innerText, bodyOf_toRule p raw, bodyOf_toRule p _⟩
  obtain ⟨selector, others, blanks, hfirst, hblanks, hglued⟩ :=
    selectorList_statement_append hs (raw.header.filterMap Piece.char?)
  refine ⟨selector, others, blanks, hfirst, hblanks, ?_, scopeSelector_glue hs p blanks selector⟩
  show RawRule.selectors _ = _
  rw [RawRule.selectors_eq, List.filterMap_append, chars_map_char, hglued]

theorem Glued.ne (h : Glued p s first glued) (hs : IsStatement s) : glued ≠ first := by
  obtain ⟨selector, others, blanks, hfirst, _, hglued, _⟩ := h.selectors
  rintro rfl
  obtain ⟨hsame, _⟩ := List.cons.inj (hfirst.symm.trans hglued)
  have hlt := length_lt_glue hs blanks selector
  rw [← hsame] at hlt
  exact Nat.lt_irrefl _ hlt

theorem rules_statement_append (hs : IsStatement s) (p r : Text) :
    (rules p r = [] ∧ rules p (s ++ r) = []) ∨
    ∃ first glued rest, rules p r = first :: rest ∧ rules p (s ++ r) = glued :: rest ∧
      Glued p s first glued := by
  rcases rules_append_chars hs.no_open (pieces_statement_append hs r) p with
    hnone | ⟨raw, rest, hfirst, hglued⟩
  · exact .inl hnone
  · exact .inr ⟨_, _, rest, hfirst, hglued, glued_toRule hs raw⟩

theorem suffix_append_right_iff {a b t : Text} : a ++ t <:+ b ++ t ↔ a <:+ b := by
  constructor
  · rintro ⟨lead, h⟩
    rw [← List.append_assoc] at h
    exact ⟨lead, List.append_cancel_right h⟩
  · rintro ⟨lead, rfl⟩
    exact ⟨lead, (List.append_assoc ..).symm⟩

/-- Rules after a statement are the rules that they are by themselves only when there are none, and the
text of those rules is at the end of what is printed exactly when the text of the first rule is at the end
of what the statement makes of it. -/
theorem rules_statement_iff (hs : IsStatement s) (p r : Text) :
    (rules p r <:+ rules p (s ++ r) ↔ rules p r = []) ∧
    (applyScope p r <:+ applyScope p (s ++ r) ↔
      ∀ first rest, rules p r = first :: rest →
        ∃ glued, rules p (s ++ r) = glued :: rest ∧ Glued p s first glued ∧
          first.render p <:+ glued.render p) := by
  rcases rules_statement_append hs p r with ⟨hnone, hnone'⟩ | ⟨first, glued, rest, hfirst, hglued, hg⟩
  · rw [applyScope, applyScope, hnone, hnone']
    exact ⟨by simp, by simp⟩
  · rw [applyScope, applyScope, hfirst, hglued, List.flatMap_cons, List.flatMap_cons,
      suffix_append_right_iff]
    constructor
    · refine iff_of_false ?_ nofun
      intro h
      -- there are as many rules as before, so the end of them would be all of them
      have heq := h.eq_of_length (by simp)
      exact hg.ne hs (List.cons.inj heq).1.symm
    · constructor
      · intro hsuffix _ _ h
        obtain ⟨rfl, rfl⟩ := List.cons.inj h
        exact ⟨glued, rfl, hg, hsuffix⟩
      · intro h
        obtain ⟨glued', hglued', _, hsuffix⟩ := h first rest rfl
        obtain ⟨rfl, _⟩ := List.cons.inj hglued'
        exact hsuffix

end

theorem isStatement_import : IsStatement "@import url(x);".toList where
  first := by decide
  last := ⟨"@import url(x)".toList, by decide, by decide⟩
  no_open := by decide
  no_close := by decide
  no_comma := by decide
  no_opener := not_hasOpener_of_no_slash (by decide)

theorem rules_type :
    rules ".x".toList " a\x7b\x7d".toList = [⟨["a".toList], "\x7b\x7d".toList, []⟩] := by
  have hopen : '{' ∉ " a".toList := by decide
  have hplain : ¬ EndsInMedia " a".toList := by decide +kernel
  have hnone : ¬ HasOpener " a".toList := not_hasOpener_of_no_slash (by decide)
  exact rules_headed_plain hopen hnone enclosable_nil hplain ".x".toList

theorem rules_statement_iff_import :
    IsStatement "@import url(x);".toList ∧
    ¬ rules ".x".toList " a\x7b\x7d".toList
      <:+ rules ".x".toList ("@import url(x);".toList ++ " a\x7b\x7d".toList) := by
  refine ⟨isStatement_import, ?_⟩
  rw [(rules_statement_iff isStatement_import _ _).1, rules_type]
  nofun

/-- After an import the selector of a rule is printed without its scope. -/
theorem import_takes_scope :
    IsStatement "@import url(x);".toList ∧
    applyScope ".x".toList " a\x7b\x7d".toList = ".x a \x7b\x7d\n\n".toList ∧
    applyScope ".x".toList ("@import url(x);".toList ++ " a\x7b\x7d".toList)
      = "@import url(x); a \x7b\x7d\n\n".toList ∧
    ¬ applyScope ".x".toList " a\x7b\x7d".toList
      <:+ applyScope ".x".toList ("@import url(x);".toList ++ " a\x7b\x7d".toList) := by
  have halone : applyScope ".x".toList " a\x7b\x7d".toList = ".x a \x7b\x7d\n\n".toList := by
    rw [applyScope, rules_type]
    decide +kernel
  have hopen : '{' ∉ "@import url(x); a".toList := by decide
  have hplain : ¬ EndsInMedia "@import url(x); a".toList := by decide +kernel
  have hnone : ¬ HasOpener "@import url(x); a".toList := not_hasOpener_of_no_slash (by decide)
  have hrules : rules ".x".toList ("@import url(x);".toList ++ " a\x7b\x7d".toList)
      = [⟨["@import url(x); a".toList], "\x7b\x7d".toList, []⟩] :=
    rules_headed_plain hopen hnone enclosable_nil hplain ".x".toList
  have hafter : applyScope ".x".toList ("@import url(x);".toList ++ " a\x7b\x7d".toList)
      = "@import url(x); a \x7b\x7d\n\n".toList := by
    rw [applyScope, hrules]
    decide +kernel
  refine ⟨isStatement_import, halone, hafter, ?_⟩
  rw [halone, hafter]
  decide +kernel

end ScopedSheets
