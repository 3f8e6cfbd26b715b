import ScopedSheets.Proofs.Fragment.Printing

/-!
# Scoping twice

What scoping prints is read back as the same rules with their selectors scoped, so a second scope goes
around the first one (`printed_rules_reread`). The text must not hold a slash right before a comment, since
deleting the comment could leave an opener, and the first scope must be plain. Bodies of `@media` rules
have been rewritten themselves; that they still can stand between braces is shown by induction on the
nesting.
-/

namespace ScopedSheets

variable {f p : Text} {r : RawRule}

theorem not_hasOpener_of_mem_selectors (hf : ¬ "//*".toList <:+: f)
    (h : r ∈ (splitRules (pieces f)).1) {s : Text} (hs : s ∈ r.selectors) : ¬ HasOpener s := by
  have hheader : pieces (writePieces r.header) = r.header := (pieces_written h).1
  have hslash : ¬ ['/', '/', '*'] <:+: writePieces r.header :=
    fun hin => hf (hin.trans (infix_of_mem h).1)
  have hchars := not_hasOpener_chars hslash
  rw [hheader] at hchars
  intro ho
  exact hchars (ho.trans (mem_selectorList hs).1)

theorem inner_of_body {rule : Rule} {t : Text} (h : rule.body = braced t) : rule.inner = t := by
  rw [Rule.inner, h, braced, List.cons_append, List.tail_cons, List.dropLast_concat]

theorem inner_toRule_of_isMedia (h : r.isMedia = true) :
    (r.toRule p).inner = "\n    ".toList ++ (applyScope p r.innerText).dropLastIf '\n' := by
  apply inner_of_body
  rw [RawRule.toRule, if_pos h, mediaBody]

theorem inner_toRule_of_not_isMedia (h : ¬ r.isMedia = true) : (r.toRule p).inner = r.innerText := by
  apply inner_of_body
  rw [RawRule.toRule, if_neg h]

theorem body_toRule (r : RawRule) : (r.toRule p).body = braced (r.toRule p).inner := by
  by_cases h : r.isMedia = true
  · rw [inner_toRule_of_isMedia h, RawRule.toRule, if_pos h, mediaBody]
  · rw [inner_toRule_of_not_isMedia h, RawRule.toRule, if_neg h]

theorem printable_toRule (hf : ¬ "//*".toList <:+: f) (h : r ∈ (splitRules (pieces f)).1)
    (hinner : Enclosable (r.toRule p).inner) : (r.toRule p).Printable := by
  refine ⟨?_, selectorList_ne_nil _, ?_, ?_, ?_, body_toRule r, hinner⟩
  · intro c hc
    exact (commentsClosed_of_mem h).1 c (comment_mem_header hc)
  · intro s hs
    exact (mem_selectorList hs).2
  · intro s hs hc
    exact ((splitRules_spec (pieces f)).2.1 r h).1 (char_mem_header hs hc)
  · intro s hs
    exact not_hasOpener_of_mem_selectors hf h hs

theorem close_not_mem_selectors {g : Text} (hg : Enclosable g) :
    ∀ rule ∈ rules p g, ∀ s ∈ rule.selectors, '}' ∉ s := by
  intro rule hrule s hs hc
  rw [rules_eq] at hrule
  obtain ⟨raw, hraw, rfl⟩ := List.mem_map.1 hrule
  exact (braceless_header hg.balanced.staysOpen raw hraw _ (char_mem_header hs hc)).2 rfl

theorem printable_rules (hf : ¬ "//*".toList <:+: f) (hp : PlainScope p) :
    ∀ rule ∈ rules p f, rule.Printable := by
  induction hn : f.length using Nat.strong_induction_on generalizing f with
  | _ n ih =>
    intro rule hrule
    rw [rules_eq] at hrule
    obtain ⟨r, hr, rfl⟩ := List.mem_map.1 hrule
    apply printable_toRule hf hr
    by_cases hm : r.isMedia = true
    · have hlt : r.innerText.length < n := hn ▸ length_innerText_lt hr
      have hslash : ¬ "//*".toList <:+: r.innerText := fun hin => hf (hin.trans (infix_of_mem hr).2)
      have hall := ih r.innerText.length hlt hslash rfl
      have henc := enclosable_flatMap_render hall (close_not_mem_selectors (enclosable_innerText hr)) hp
      rw [inner_toRule_of_isMedia hm]
      exact henc.dropLastIf.append_left (List.all_eq_true.1 rfl)
    · rw [inner_toRule_of_not_isMedia hm]
      exact enclosable_innerText hr

/-- `g` is `f` or stands, at any depth, between the braces of an `@media` rule in `f`. -/
inductive MediaPart (f : Text) : Text → Prop
  | whole : MediaPart f f
  | inner {g : Text} {r : RawRule} : MediaPart f g → r ∈ (splitRules (pieces g)).1 →
      r.isMedia = true → MediaPart f r.innerText

theorem MediaPart.isInfix {g : Text} (h : MediaPart f g) : g <:+: f := by
  induction h with
  | whole => exact List.infix_rfl
  | inner _ hr _ ih => exact (infix_of_mem hr).2.trans ih

/-- What scoping prints is read back rule by rule: the comments stay, each selector is the scoped one,
trimmed, and the body stays unless it holds rules, which are scoped again. The same holds of what stands
in `@media` rules at any depth, and what their printed bodies hold is read like the printed rules
alone. -/
theorem printed_rules_reread (hf : ¬ "//*".toList <:+: f) (hp : PlainScope p) (q : Text) :
    List.Forall₂ (Rule.IsReread p q) (rules p f) (rules q (applyScope p f)) ∧
    ∀ g, MediaPart f g →
      List.Forall₂ (Rule.IsReread p q) (rules p g) (rules q (applyScope p g)) ∧
      ∀ r ∈ (splitRules (pieces g)).1, r.isMedia = true →
        rules q (r.toRule p).inner = rules q (applyScope p r.innerText) := by
  refine ⟨rules_flatMap_render (printable_rules hf hp) hp q, ?_⟩
  intro g hg
  have hslash : ¬ "//*".toList <:+: g := fun hin => hf (hin.trans hg.isInfix)
  refine ⟨rules_flatMap_render (printable_rules hslash hp) hp q, ?_⟩
  intro r hr hm
  have hinner : ¬ "//*".toList <:+: r.innerText := fun hin => hslash (hin.trans (infix_of_mem hr).2)
  have henc := enclosable_flatMap_render (printable_rules hinner hp)
    (close_not_mem_selectors (enclosable_innerText hr)) hp
  rw [inner_toRule_of_isMedia hm]
  exact rules_mediaBody henc.closed q

theorem printed_rules_reread_media :
    List.Forall₂ (Rule.IsReread ['p'] ['q']) (rules ['p'] "/**/@media{a{}}".toList)
      (rules ['q'] (applyScope ['p'] "/**/@media{a{}}".toList)) ∧
    ∃ r, (splitRules (pieces "/**/@media{a{}}".toList)).1 = [r] ∧ r.isMedia = true ∧
      rules ['q'] (r.toRule ['p']).inner = rules ['q'] (applyScope ['p'] r.innerText) := by
  have hslash : ¬ "//*".toList <:+: "/**/@media{a{}}".toList := by
    simp [List.infix_cons_iff, List.cons_prefix_cons]
  have hscope : PlainScope ['p'] := ⟨by decide, by decide, by decide, by decide⟩
  obtain ⟨hall, hpart⟩ := printed_rules_reread hslash hscope ['q']
  have hpieces : pieces "/**/@media{a{}}".toList = .comment ['/', '*', '*', '/']
      :: ['@', 'm', 'e', 'd', 'i', 'a', '{', 'a', '{', '}', '}'].map .char := by
    simp [pieces, splitComment]
  have hfirst : firstRule? (pieces "/**/@media{a{}}".toList)
      = some (⟨.comment ['/', '*', '*', '/'] :: ['@', 'm', 'e', 'd', 'i', 'a'].map .char,
        ['a', '{', '}'].map .char⟩, []) := by
    rw [hpieces]
    decide
  have hend : splitRules [] = ([], []) := splitRules_of_none rfl
  have hone := congrArg Prod.fst (splitRules_of_some hfirst)
  rw [hend] at hone
  refine ⟨hall, _, hone, by decide, ?_⟩
  apply (hpart _ .whole).2
  · rw [hone]
    exact List.mem_cons_self ..
  · decide

end ScopedSheets
