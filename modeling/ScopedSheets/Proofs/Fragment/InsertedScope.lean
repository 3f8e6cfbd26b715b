import ScopedSheets.Proofs.Fragment.RoundTrip

/-!
# The scope as inserted text

Which rules a fragment has does not depend on the scope: under two scopes they differ only in the bodies of
`@media` rules. What is printed does not depend on it either, but for the places where it stands. So printing
can be done once, with a character that the fragment does not hold, and any scope be filled in for that
character afterwards, whatever the scope holds (`scope_only_inserted`).
-/

namespace ScopedSheets

namespace Text

def fill (z : Char) (p t : Text) : Text := t.flatMap fun c => if c = z then p else [c]

section

variable {z : Char} {p : Text}

@[simp] theorem fill_append (a b : Text) : fill z p (a ++ b) = fill z p a ++ fill z p b :=
  List.flatMap_append

theorem fill_mark : fill z p [z] = p := by simp [fill]

theorem fill_eq_self {t : Text} (h : z ∉ t) : fill z p t = t := by
  induction t with
  | nil => rfl
  | cons c t ih =>
    rw [List.mem_cons, not_or] at h
    rw [fill, List.flatMap_cons, if_neg (Ne.symm h.1)]
    exact congrArg (c :: ·) (ih h.2)

theorem fill_flatMap {α : Type} (as : List α) (f : α → Text) :
    fill z p (as.flatMap f) = as.flatMap fun a => fill z p (f a) :=
  List.flatMap_assoc

theorem fill_intercalate {sep : Text} (h : z ∉ sep) (parts : List Text) :
    fill z p (sep.intercalate parts) = sep.intercalate (parts.map (fill z p)) := by
  induction parts with
  | nil => rfl
  | cons first parts ih =>
    cases parts with
    | nil => simp
    | cons second parts =>
      rw [List.intercalate_cons_cons, fill_append, fill_append, fill_eq_self h, ih]
      simp only [List.map_cons, List.intercalate_cons_cons]

theorem fill_dropLastIf {c : Char} {t : Text} (hz : z ≠ c) (h : t = [] ∨ ∃ init, t = init ++ [c]) :
    fill z p (t.dropLastIf c) = (fill z p t).dropLastIf c := by
  cases h with
  | inl h =>
    rw [h]
    rfl
  | inr h =>
    obtain ⟨init, rfl⟩ := h
    have hc : z ∉ [c] := by
      rw [List.mem_singleton]
      exact hz
    rw [fill_append, fill_eq_self hc, dropLastIf, dropLastIf, List.getLast?_concat, List.getLast?_concat,
      if_pos rfl, if_pos rfl, List.dropLast_concat, List.dropLast_concat]

end

end Text

open Text (fill fill_append fill_mark fill_eq_self fill_flatMap fill_intercalate fill_dropLastIf)

section

variable {f : Text} {r : RawRule}

theorem braced_infix_of_mem (h : r ∈ (splitRules (pieces f)).1) : braced r.innerText <:+: f := by
  obtain ⟨before, after, hf⟩ := exists_around h
  have hw := congrArg writePieces hf
  rw [writePieces_pieces] at hw
  refine ⟨writePieces (before ++ r.header), writePieces after, ?_⟩
  rw [hw]
  simp [braced, RawRule.innerText, Piece.text]

theorem ne_braces_of_not_mem {z : Char} (hr : r ∈ (splitRules (pieces f)).1) (hz : z ∉ f) :
    z ≠ '{' ∧ z ≠ '}' := by
  have hbraces := (braced_infix_of_mem hr).subset
  constructor
  · intro he
    rw [he] at hz
    exact hz (hbraces (by simp [braced]))
  · intro he
    rw [he] at hz
    exact hz (hbraces (by simp [braced]))

theorem MediaPart.of_inner {g : Text} (hr : r ∈ (splitRules (pieces f)).1) (hm : r.isMedia = true)
    (h : MediaPart r.innerText g) : MediaPart f g := by
  induction h with
  | whole => exact .inner .whole hr hm
  | inner _ hr' hm' ih => exact .inner ih hr' hm'

/-- The selector `s` stands in the header of a rule of `f`, or of a rule inside `@media` rules of `f`. -/
def SelectorIn (f s : Text) : Prop :=
  ∃ g, MediaPart f g ∧ ∃ r ∈ (splitRules (pieces g)).1, s ∈ r.selectors

theorem SelectorIn.of_inner {s : Text} (hr : r ∈ (splitRules (pieces f)).1) (hm : r.isMedia = true)
    (h : SelectorIn r.innerText s) : SelectorIn f s := by
  obtain ⟨g, hg, hs⟩ := h
  exact ⟨g, hg.of_inner hr hm, hs⟩

theorem SelectorIn.subset {s : Text} (h : SelectorIn f s) : s ⊆ f := by
  intro c hc
  obtain ⟨g, hg, r, hr, hs⟩ := h
  exact hg.isInfix.subset ((infix_of_mem hr).1.subset (selector_subset_header hs hc))

end

section

variable {z : Char} {p : Text}

theorem fill_scopeSelector {s : Text} (hs : z ∉ s) (hspace : z ≠ ' ')
    (hdirectory : ¬ "directory".toList <+: s) :
    fill z p (scopeSelector [z] s) = scopeSelector p s := by
  have htext := Selector.text_ofText s
  rw [scopeSelector, scopeSelector]
  cases hkind : Selector.ofText s with
  | verbatim text =>
    rw [hkind] at htext
    rw [← show text = s from htext] at hs
    exact fill_eq_self hs
  | own rest =>
    rw [hkind] at htext
    have hrest : z ∉ rest := by
      intro hc
      rw [← show "root".toList ++ rest = s from htext] at hs
      exact hs (List.mem_append_right _ hc)
    show fill z p ([z] ++ rest) = p ++ rest
    rw [fill_append, fill_mark, fill_eq_self hrest]
  | parent rest =>
    rw [hkind] at htext
    rw [← show "directory".toList ++ rest = s from htext] at hdirectory
    exact absurd (List.prefix_append _ _) hdirectory
  | inner text =>
    rw [hkind] at htext
    rw [← show text = s from htext] at hs
    have hrest : z ∉ ' ' :: text := by
      rw [List.mem_cons, not_or]
      exact ⟨hspace, hs⟩
    show fill z p ([z] ++ ' ' :: text) = p ++ ' ' :: text
    rw [fill_append, fill_mark, fill_eq_self hrest]

theorem fill_braced {t : Text} (hopen : z ≠ '{') (hclose : z ≠ '}') :
    fill z p (braced t) = braced (fill z p t) := by
  have ho : z ∉ ['{'] := by
    rw [List.mem_singleton]
    exact hopen
  have hc : z ∉ ['}'] := by
    rw [List.mem_singleton]
    exact hclose
  show fill z p (['{'] ++ t ++ ['}']) = ['{'] ++ fill z p t ++ ['}']
  rw [fill_append, fill_append, fill_eq_self ho, fill_eq_self hc]

theorem fill_mediaBody {scope f : Text} (hopen : z ≠ '{') (hclose : z ≠ '}') (hnewline : z ≠ '\n')
    (hspace : z ≠ ' ') :
    fill z p (mediaBody (applyScope scope f)) = mediaBody (fill z p (applyScope scope f)) := by
  have hindent : z ∉ "\n    ".toList := by simp [hnewline, hspace]
  have hends : applyScope scope f = [] ∨ ∃ init, applyScope scope f = init ++ ['\n'] := by
    rcases flatMap_render_ends scope (rules scope f) with h | ⟨init, h⟩
    · exact Or.inl h
    · exact Or.inr ⟨init ++ ['\n'], by rw [applyScope, h, List.append_assoc]; rfl⟩
  rw [mediaBody, fill_braced hopen hclose, fill_append, fill_eq_self hindent,
    fill_dropLastIf hnewline hends, mediaBody]

theorem fill_render {r r' : Rule} (hselectors : r'.selectors = r.selectors)
    (hcomments : r'.comments = r.comments) (hbody : fill z p r.body = r'.body)
    (hnone : ∀ c ∈ r.comments, z ∉ c)
    (hmark : ∀ s ∈ r.selectors, fill z p (scopeSelector [z] s) = scopeSelector p s)
    (hnewline : z ≠ '\n') (hspace : z ≠ ' ') (hcomma : z ≠ ',') :
    fill z p (r.render [z]) = r'.render p := by
  have hlines : fill z p (r.comments.flatMap (· ++ ['\n'])) = r.comments.flatMap (· ++ ['\n']) := by
    apply fill_eq_self
    intro hz
    obtain ⟨c, hc, hmem⟩ := List.mem_flatMap.1 hz
    rw [List.mem_append, List.mem_singleton] at hmem
    exact hmem.elim (hnone c hc) hnewline
  have hlist : fill z p (",\n".toList.intercalate (r.selectors.map (scopeSelector [z])))
      = ",\n".toList.intercalate (r.selectors.map (scopeSelector p)) := by
    rw [fill_intercalate (by simp [hcomma, hnewline]), List.map_map]
    exact congrArg _ (List.map_congr_left hmark)
  have hblank : z ∉ [' '] := by
    rw [List.mem_singleton]
    exact hspace
  have hend : z ∉ "\n\n".toList := by simp [hnewline]
  show fill z p (_ ++ _ ++ ([' '] ++ r.body) ++ "\n\n".toList) = _ ++ _ ++ ([' '] ++ r'.body) ++ _
  rw [fill_append, fill_append, fill_append, fill_append, hlines, hlist, fill_eq_self hblank, hbody,
    fill_eq_self hend, hselectors, hcomments]

theorem fill_applyScope {f : Text} (hz : z ∉ f) (hnewline : z ≠ '\n') (hspace : z ≠ ' ')
    (hcomma : z ≠ ',') (hdirectory : ∀ s, SelectorIn f s → ¬ "directory".toList <+: s) :
    fill z p (applyScope [z] f) = applyScope p f := by
  induction hlen : f.length using Nat.strong_induction_on generalizing f with
  | _ n ih =>
    rw [applyScope, applyScope, rules_eq, rules_eq, List.flatMap_map, List.flatMap_map, fill_flatMap]
    apply List.flatMap_congr
    intro r hr
    have hheader : z ∉ writePieces r.header := fun hm => hz ((infix_of_mem hr).1.subset hm)
    have hinner : z ∉ r.innerText := fun hm => hz ((infix_of_mem hr).2.subset hm)
    obtain ⟨hopen, hclose⟩ := ne_braces_of_not_mem hr hz
    have hbody : fill z p (r.toRule [z]).body = (r.toRule p).body := by
      by_cases hm : r.isMedia = true
      · have hlt : r.innerText.length < n := hlen ▸ length_innerText_lt hr
        have hinside := ih _ hlt hinner (fun s hs => hdirectory s (hs.of_inner hr hm)) rfl
        rw [RawRule.toRule, RawRule.toRule, if_pos hm, if_pos hm,
          fill_mediaBody hopen hclose hnewline hspace, hinside]
      · rw [RawRule.toRule, RawRule.toRule, if_neg hm, if_neg hm, fill_braced hopen hclose,
          fill_eq_self hinner]
    have hnone : ∀ c ∈ r.comments, z ∉ c := fun c hc hm => hheader (comment_subset_header hc hm)
    have hmark : ∀ s ∈ r.selectors, fill z p (scopeSelector [z] s) = scopeSelector p s := by
      intro s hs
      have hfree : z ∉ s := fun hm => hheader (selector_subset_header hs hm)
      exact fill_scopeSelector hfree hspace (hdirectory s ⟨f, .whole, r, hr, hs⟩)
    exact fill_render rfl rfl hbody hnone hmark hnewline hspace hcomma

end

/-- The rules that a fragment has under two scopes: they differ at most in a body that holds rules. -/
structure Rule.SameBut (r r' : Rule) : Prop where
  selectors : r'.selectors = r.selectors
  comments : r'.comments = r.comments
  body : ¬ r.IsMedia → r'.body = r.body

theorem sameBut_toRule (p q : Text) (r : RawRule) : (r.toRule p).SameBut (r.toRule q) := by
  refine ⟨rfl, rfl, ?_⟩
  intro h
  have hm : ¬ r.isMedia = true := fun hm => h ((isMedia_iff rfl).1 hm)
  rw [RawRule.toRule, RawRule.toRule, if_neg hm, if_neg hm]

/-- A scope is inserted and never read. Under all scopes a fragment has the same rules, up to the bodies of
`@media` rules; and unless a selector addresses the scope above, the fragment printed under any scope is the
fragment printed with a mark that does not occur in it, and the scope filled in for the mark. -/
theorem scope_only_inserted (f : Text) :
    (∀ p q, List.Forall₂ Rule.SameBut (rules p f) (rules q f)) ∧
    ∀ z, z ∉ f → z ∉ ['\n', ' ', ','] → (∀ s, SelectorIn f s → ¬ "directory".toList <+: s) →
      ∀ p, Text.fill z p (applyScope [z] f) = applyScope p f := by
  constructor
  · intro p q
    rw [rules_eq, rules_eq, List.forall₂_map_left_iff, List.forall₂_map_right_iff, List.forall₂_same]
    intro r _
    exact sameBut_toRule p q r
  · intro z hz hfree hdirectory p
    rw [List.mem_cons, List.mem_cons, List.mem_singleton, not_or, not_or] at hfree
    exact fill_applyScope hz hfree.1 hfree.2.1 hfree.2.2 hdirectory

theorem scope_only_inserted_braces :
    '%' ∉ "@media{a,root:b{c}}".toList ∧ '%' ∉ ['\n', ' ', ','] ∧
    (∀ s, SelectorIn "@media{a,root:b{c}}".toList s → ¬ "directory".toList <+: s) ∧
    Text.fill '%' "\x7d,\x7b".toList (applyScope ['%'] "@media{a,root:b{c}}".toList)
      = applyScope "\x7d,\x7b".toList "@media{a,root:b{c}}".toList := by
  have hfree : '%' ∉ "@media{a,root:b{c}}".toList := by decide
  have hmark : '%' ∉ ['\n', ' ', ','] := by decide
  have hnone : ∀ s, SelectorIn "@media{a,root:b{c}}".toList s → ¬ "directory".toList <+: s := by
    intro s hs hdirectory
    have hy : 'y' ∈ s := hdirectory.subset (by decide)
    exact absurd (hs.subset hy) (by decide)
  exact ⟨hfree, hmark, hnone, (scope_only_inserted _).2 '%' hfree hmark hnone "\x7d,\x7b".toList⟩

end ScopedSheets
