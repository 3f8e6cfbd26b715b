import Mathlib.Data.List.Forall2
import ScopedSheets.Proofs.Fragment.Depth
import ScopedSheets.Proofs.Fragment.Header

/-!
# The outline of a fragment

A fragment is headers and bodies in turn and a remainder after the last body. A header holds no opening
brace, a body opens with one and ends where the depth is back at zero, and in the remainder either no
brace opens or the first one that does is never closed. Every fragment, however malformed, has exactly
one such outline, and its rules are those of the outline, one for each header and body
(`rules_match_outline`).
-/

namespace ScopedSheets

def braceDepth (t : Text) : Int := depth (pieces t)

/-- A body: it opens with a brace, and the depth that this brace begins is positive all the way and zero
at the end. -/
structure IsBody (t : Text) : Prop where
  opens : t.head? = some '{'
  inside : ∀ q, q <+: t → q ≠ [] → q ≠ t → 0 < braceDepth q
  closes : braceDepth t = 0

/-- A body that is never closed. -/
structure IsOpenBody (t : Text) : Prop where
  opens : t.head? = some '{'
  inside : ∀ q, q <+: t → q ≠ [] → 0 < braceDepth q

theorem pieces_of_head?_open {t : Text} (h : t.head? = some '{') :
    ∃ rest, pieces t = .char '{' :: rest := by
  cases t with
  | nil => simp at h
  | cons c t =>
    have hc : c = '{' := by simpa using h
    subst hc
    exact ⟨pieces t, pieces_cons_of_ne (by decide) t⟩

theorem head?_of_pieces_open {t : Text} {rest : List Piece} (h : pieces t = .char '{' :: rest) :
    t.head? = some '{' := by
  rw [← writePieces_pieces t, h]
  rfl

theorem exists_depth_of_prefix {t q : Text} {rest : List Piece}
    (ht : pieces t = .char '{' :: rest) (hq : q <+: t) (hne : q ≠ []) :
    ∃ qs, qs <+: rest ∧ braceDepth q = 1 + depth qs ∧ (qs = rest → q = t) := by
  obtain ⟨ps, tail, hps, he, htail⟩ := exists_prefix_pieces hq
  have hdepth : braceDepth q = depth ps := by
    rw [braceDepth, he, depth_append, depth_eq_zero htail, Int.add_zero]
  rw [ht] at hps
  rcases List.prefix_cons_iff.1 hps with rfl | ⟨qs, rfl, hqs⟩
  · -- the first character of `q` is the opening brace, which is not in the braceless tail
    have hhead : q.head? = some '{' := by
      obtain ⟨c, q', rfl⟩ := List.exists_cons_of_ne_nil hne
      obtain ⟨more, rfl⟩ := hq
      simpa using head?_of_pieces_open ht
    obtain ⟨rest', hrest'⟩ := pieces_of_head?_open hhead
    have hbrace := htail (.char '{') (by rw [← List.nil_append tail, ← he, hrest']; simp)
    exact absurd rfl hbrace.1
  · refine ⟨qs, hqs, by rw [hdepth, depth_cons, depth_open], ?_⟩
    rintro rfl
    apply hq.eq_of_length_le
    rw [← writePieces_pieces t, ht, ← writePieces_pieces q, he, writePieces_append,
      List.length_append]
    omega

theorem exists_prefix_of_depth {t : Text} {rest qs : List Piece}
    (ht : pieces t = .char '{' :: rest) (hqs : qs <+: rest) :
    ∃ q, q <+: t ∧ q ≠ [] ∧ braceDepth q = 1 + depth qs ∧ (q = t → qs = rest) := by
  obtain ⟨more, rfl⟩ := hqs
  have hq : pieces (writePieces (.char '{' :: qs)) = .char '{' :: qs := by
    have hsplit : pieces t = (.char '{' :: qs) ++ more := by rw [ht, List.cons_append]
    exact pieces_writePieces_left hsplit
  refine ⟨writePieces (.char '{' :: qs), ?_, ?_, ?_, ?_⟩
  · rw [← writePieces_pieces t, ht, ← List.cons_append, writePieces_append]
    exact List.prefix_append _ _
  · simp [Piece.text]
  · rw [braceDepth, hq, depth_cons, depth_open]
  · intro he
    rw [he, ht] at hq
    exact ((List.cons.inj hq).2).symm

theorem isBody_iff {t : Text} :
    IsBody t ↔ ∃ inner, pieces t = .char '{' :: (inner ++ [.char '}']) ∧ Balanced inner := by
  constructor
  · intro h
    obtain ⟨rest, ht⟩ := pieces_of_head?_open h.opens
    have hsum : 1 + depth rest = 0 := by
      have hc := h.closes
      rwa [braceDepth, ht, depth_cons, depth_open] at hc
    have hpos : ∀ qs, qs <+: rest → qs ≠ rest → 0 < 1 + depth qs := by
      intro qs hqs hne
      obtain ⟨q, hq, hq0, hd, hend⟩ := exists_prefix_of_depth ht hqs
      rw [← hd]
      exact h.inside q hq hq0 (fun he => hne (hend he))
    rcases List.eq_nil_or_concat rest with rfl | ⟨inner, p, hrest⟩
    · rw [depth_nil] at hsum
      omega
    · rw [List.concat_eq_append] at hrest
      rw [hrest] at ht hsum hpos
      have hinner := hpos inner (List.prefix_append _ _) (by simp)
      rw [depth_append, depth_cons, depth_nil] at hsum
      have hp : p = .char '}' := eq_close_of_depth_neg (by omega)
      rw [hp, depth_close] at hsum
      refine ⟨inner, by rw [ht, hp], ⟨?_, by omega⟩⟩
      intro qs hqs
      have hlt : qs ≠ inner ++ [p] := by
        intro he
        have hlen := hqs.length_le
        rw [he, List.length_append, List.length_singleton] at hlen
        omega
      have h0 := hpos qs (hqs.trans (List.prefix_append _ _)) hlt
      omega
  · rintro ⟨inner, ht, hinner⟩
    refine ⟨head?_of_pieces_open ht, ?_, ?_⟩
    · intro q hq hne hlt
      obtain ⟨qs, hqs, hd, hend⟩ := exists_depth_of_prefix ht hq hne
      rcases List.prefix_concat_iff.1 hqs with he | hin
      · exact absurd (hend he) hlt
      · have h0 := hinner.staysOpen qs hin
        omega
    · rw [braceDepth, ht]
      exact hinner.enclose.depth_eq

theorem isOpenBody_iff {t : Text} :
    IsOpenBody t ↔ ∃ rest, pieces t = .char '{' :: rest ∧ StaysOpen 0 rest := by
  constructor
  · intro h
    obtain ⟨rest, ht⟩ := pieces_of_head?_open h.opens
    refine ⟨rest, ht, fun qs hqs => ?_⟩
    obtain ⟨q, hq, hq0, hd, _⟩ := exists_prefix_of_depth ht hqs
    have hpos := h.inside q hq hq0
    omega
  · rintro ⟨rest, ht, hopen⟩
    refine ⟨head?_of_pieces_open ht, ?_⟩
    intro q hq hne
    obtain ⟨qs, hqs, hd, _⟩ := exists_depth_of_prefix ht hq hne
    have h0 := hopen qs hqs
    omega

/-- What can stand after the last rule: no brace opens in it, or the first one that opens stays open to
the end. -/
def IsRemainder (t : Text) : Prop :=
  .char '{' ∉ pieces t ∨
    ∃ header body, t = header ++ body ∧ pieces t = pieces header ++ pieces body ∧
      .char '{' ∉ pieces header ∧ IsOpenBody body

theorem isRemainder_iff {t : Text} : IsRemainder t ↔ firstRule? (pieces t) = none := by
  rw [firstRule?_eq_none_iff]
  constructor
  · rintro (h | ⟨header, body, _, ht, hheader, hbody⟩)
    · exact Or.inl h
    · obtain ⟨rest, hrest, hopen⟩ := isOpenBody_iff.1 hbody
      exact Or.inr ⟨pieces header, rest, by rw [ht, hrest], hheader, hopen⟩
  · rintro (h | ⟨header, rest, ht, hheader, hopen⟩)
    · exact Or.inl h
    · have hleft := pieces_writePieces_left ht
      have hright := pieces_writePieces_right ht
      refine Or.inr ⟨writePieces header, writePieces (.char '{' :: rest), ?_, ?_, ?_, ?_⟩
      · rw [← writePieces_append, ← ht, writePieces_pieces]
      · rw [hleft, hright, ht]
      · rwa [hleft]
      · exact isOpenBody_iff.2 ⟨rest, hright, hopen⟩

/-- A header and a body as written. -/
structure RuleText where
  header : Text
  body : Text
deriving DecidableEq, Repr

def RuleText.inner (r : RuleText) : Text := r.body.tail.dropLast

/-- Headers and bodies in turn, and a remainder. -/
structure Outline where
  rules : List RuleText
  remainder : Text
deriving DecidableEq, Repr

namespace Outline

def text (o : Outline) : Text := o.rules.flatMap (fun r => r.header ++ r.body) ++ o.remainder

def parts (o : Outline) : List Piece :=
  o.rules.flatMap (fun r => pieces r.header ++ pieces r.body) ++ pieces o.remainder

theorem writePieces_parts (o : Outline) : writePieces o.parts = o.text := by
  have hrules (rs : List RuleText) :
      writePieces (rs.flatMap fun r => pieces r.header ++ pieces r.body)
        = rs.flatMap fun r => r.header ++ r.body := by
    induction rs with
    | nil => rfl
    | cons r rs ih =>
      rw [List.flatMap_cons, List.flatMap_cons, writePieces_append, writePieces_append, ih,
        writePieces_pieces, writePieces_pieces]
  rw [parts, text, writePieces_append, hrules, writePieces_pieces]

end Outline

/-- `o` is the outline of the fragment `f`. -/
structure IsOutline (f : Text) (o : Outline) : Prop where
  text_eq : o.text = f
  /-- No comment lies across a boundary: the parts, each read by itself, give the pieces of the
  whole. -/
  parts_eq : o.parts = pieces f
  header : ∀ r ∈ o.rules, .char '{' ∉ pieces r.header
  body : ∀ r ∈ o.rules, IsBody r.body
  remainder : IsRemainder o.remainder

def RawRule.written (r : RawRule) : RuleText :=
  ⟨writePieces r.header, writePieces (.char '{' :: (r.inner ++ [.char '}']))⟩

def outline (f : Text) : Outline :=
  ⟨(splitRules (pieces f)).1.map RawRule.written, writePieces (splitRules (pieces f)).2⟩

theorem splitRules_parts {rs : List RuleText} {remainder : Text}
    (hheader : ∀ r ∈ rs, .char '{' ∉ pieces r.header) (hbody : ∀ r ∈ rs, IsBody r.body)
    (hrem : IsRemainder remainder) :
    ∃ raws, splitRules (rs.flatMap (fun r => pieces r.header ++ pieces r.body) ++ pieces remainder)
        = (raws, pieces remainder) ∧ raws.map RawRule.written = rs := by
  induction rs with
  | nil => exact ⟨[], splitRules_of_none (isRemainder_iff.1 hrem), rfl⟩
  | cons r rs ih =>
    obtain ⟨raws, hsplit, hwritten⟩ := ih (fun r' hr' => hheader r' (List.mem_cons_of_mem _ hr'))
      (fun r' hr' => hbody r' (List.mem_cons_of_mem _ hr'))
    obtain ⟨inner, hinner, hbal⟩ := isBody_iff.1 (hbody r (List.mem_cons_self ..))
    refine ⟨⟨pieces r.header, inner⟩ :: raws, ?_, ?_⟩
    · have hstep := splitRules_append (r := ⟨pieces r.header, inner⟩)
        (hheader r (List.mem_cons_self ..)) hbal
        (rs.flatMap (fun r => pieces r.header ++ pieces r.body) ++ pieces remainder)
      rw [hsplit] at hstep
      rw [← hstep, List.flatMap_cons, hinner]
      simp
    · rw [List.map_cons, hwritten, RawRule.written, ← hinner, writePieces_pieces,
        writePieces_pieces]

theorem IsOutline.eq_outline {f : Text} {o : Outline} (h : IsOutline f o) : o = outline f := by
  obtain ⟨raws, hsplit, hwritten⟩ := splitRules_parts h.header h.body h.remainder
  have hparts : splitRules (pieces f) = (raws, pieces o.remainder) := by
    rw [← h.parts_eq]
    exact hsplit
  rw [outline, hparts, hwritten, writePieces_pieces]

theorem splitRules_spec (ps : List Piece) :
    ps = (splitRules ps).1.flatMap (fun r => r.header ++ .char '{' :: (r.inner ++ [.char '}']))
        ++ (splitRules ps).2 ∧
      (∀ r ∈ (splitRules ps).1, .char '{' ∉ r.header ∧ Balanced r.inner) ∧
      firstRule? (splitRules ps).2 = none := by
  fun_induction splitRules ps with
  | case1 ps h => exact ⟨rfl, by simp, h⟩
  | case2 ps r rest h _ ih =>
    obtain ⟨hps, hheader, hinner⟩ := firstRule?_eq_some_iff.1 h
    obtain ⟨hrest, hall, hend⟩ := ih
    refine ⟨?_, ?_, hend⟩
    · conv => lhs; rw [hps, hrest]
      simp
    · intro r' hr'
      rcases List.mem_cons.1 hr' with rfl | hr'
      · exact ⟨hheader, hinner⟩
      · exact hall r' hr'

theorem pieces_writePieces_of_eq {t : Text} {as ps bs : List Piece}
    (h : pieces t = as ++ (ps ++ bs)) : pieces (writePieces ps) = ps :=
  pieces_writePieces_left (pieces_writePieces_right h)

theorem exists_around {f : Text} {r : RawRule} (h : r ∈ (splitRules (pieces f)).1) :
    ∃ before after, pieces f
      = before ++ (r.header ++ (.char '{' :: (r.inner ++ [.char '}']) ++ after)) := by
  have hspec := (splitRules_spec (pieces f)).1
  obtain ⟨before, after, hmem⟩ := List.append_of_mem h
  rw [hmem, List.flatMap_append, List.flatMap_cons, List.append_assoc, List.append_assoc,
    List.append_assoc] at hspec
  exact ⟨_, _, hspec⟩

theorem pieces_written {f : Text} {r : RawRule} (h : r ∈ (splitRules (pieces f)).1) :
    pieces r.written.header = r.header ∧
      pieces r.written.body = .char '{' :: (r.inner ++ [.char '}']) := by
  obtain ⟨before, after, hf⟩ := exists_around h
  refine ⟨pieces_writePieces_of_eq hf, ?_⟩
  rw [← List.append_assoc] at hf
  exact pieces_writePieces_of_eq hf

theorem pieces_remainder (f : Text) : pieces (outline f).remainder = (splitRules (pieces f)).2 :=
  pieces_writePieces_right (splitRules_spec (pieces f)).1

theorem isOutline_outline (f : Text) : IsOutline f (outline f) := by
  obtain ⟨heq, hall, hend⟩ := splitRules_spec (pieces f)
  have hrem := pieces_remainder f
  have hparts : (outline f).parts = pieces f := by
    conv => rhs; rw [heq]
    rw [Outline.parts, hrem, outline, List.flatMap_map]
    congr 1
    apply List.flatMap_congr
    intro r hr
    obtain ⟨hh, hb⟩ := pieces_written hr
    rw [hh, hb]
  refine ⟨?_, hparts, ?_, ?_, ?_⟩
  · rw [← Outline.writePieces_parts, hparts, writePieces_pieces]
  · intro r hr
    obtain ⟨raw, hraw, rfl⟩ := List.mem_map.1 hr
    rw [(pieces_written hraw).1]
    exact (hall raw hraw).1
  · intro r hr
    obtain ⟨raw, hraw, rfl⟩ := List.mem_map.1 hr
    exact isBody_iff.2 ⟨raw.inner, (pieces_written hraw).2, (hall raw hraw).2⟩
  · exact isRemainder_iff.2 (by rw [hrem]; exact hend)

/-- The last selector of the rule, the one next to its body, begins an `@media` header. -/
def Rule.IsMedia (r : Rule) : Prop := ∃ s, r.selectors.getLast? = some s ∧ "@media".toList <+: s

/-- `rule` is what a header and a body stand for in the block of `scope`. -/
structure IsRuleOf (scope : Text) (r : RuleText) (rule : Rule) : Prop where
  comments : rule.comments = (pieces r.header).filterMap Piece.comment?
  selectors : List.Forall₂ (Text.Trimmed Text.isSelectorBlank)
    (((pieces r.header).filterMap Piece.char?).splitOn ',') rule.selectors
  body_media : rule.IsMedia →
    rule.body = '{' :: ("\n    ".toList ++ (applyScope scope r.inner).dropLastIf '\n' ++ ['}'])
  body_plain : ¬ rule.IsMedia → rule.body = r.body

theorem isMedia_iff {r : RawRule} {rule : Rule} (h : rule.selectors = r.selectors) :
    r.isMedia = true ↔ rule.IsMedia := by
  rw [RawRule.isMedia, Rule.IsMedia, h]
  cases r.selectors.getLast? with
  | none => simp
  | some s => simp

theorem inner_written (r : RawRule) : r.written.inner = r.innerText := by
  simp [RuleText.inner, RawRule.written, RawRule.innerText, Piece.text]

theorem body_written (r : RawRule) : r.written.body = braced r.innerText := by
  simp [RawRule.written, RawRule.innerText, braced, Piece.text]

theorem isRuleOf_toRule {f : Text} {r : RawRule} (h : r ∈ (splitRules (pieces f)).1)
    (scope : Text) : IsRuleOf scope r.written (r.toRule scope) := by
  have hheader := (pieces_written h).1
  have hmedia : r.isMedia = true ↔ (r.toRule scope).IsMedia := isMedia_iff rfl
  refine ⟨?_, ?_, ?_, ?_⟩
  · rw [hheader]
    rfl
  · rw [hheader]
    show List.Forall₂ _ _ (List.map _ _)
    rw [List.forall₂_map_right_iff, List.forall₂_same]
    intro part _
    exact Text.trimmed_trim _ part
  · intro hm
    simp only [RawRule.toRule, hmedia.2 hm, ite_true, inner_written]
    simp [mediaBody, braced]
  · intro hm
    have hr : ¬ r.isMedia = true := fun hr => hm (hmedia.1 hr)
    rw [body_written, RawRule.toRule]
    exact if_neg hr

/-- Every fragment is read in one way and has one outline, and its rules are those that the headers and
bodies of the outline stand for, in order. -/
theorem rules_match_outline (scope f : Text) :
    (∀ ps, Reads f ps ↔ ps = pieces f) ∧
      ∃ o, IsOutline f o ∧ (∀ o', IsOutline f o' → o' = o) ∧
        List.Forall₂ (IsRuleOf scope) o.rules (rules scope f) := by
  refine ⟨fun ps => reads_iff, outline f, isOutline_outline f, fun o' h => h.eq_outline, ?_⟩
  rw [rules_eq, outline, List.forall₂_map_left_iff, List.forall₂_map_right_iff, List.forall₂_same]
  intro r hr
  exact isRuleOf_toRule hr scope

end ScopedSheets
