import ScopedSheets.Proofs.Fragment.RoundTrip

/-!
# `@media` rules inside one another

The text between the braces of an `@media` rule is scanned a second time, from selectors and not from inside
a body. Both scans see the same pieces, and as long as no closing brace is met among selectors the first one
is the second one, one brace deeper (`ScanState.run_enclosed`). The braces of a body pair up, so the second
scan meets no such brace and ends where it began: no rule of an inner text is left open
(`media_read_whole`).
-/

namespace ScopedSheets

/-- Where a scan for rules stands: among selectors or in a body, with so many braces open in the body. -/
structure ScanState where
  inBody : Bool
  depth : Nat
deriving DecidableEq, Repr

namespace ScanState

def start : ScanState := ⟨false, 0⟩

/-- Only braces move the scan. A closing brace among selectors is selector text. -/
def step (s : ScanState) : Piece → ScanState
  | .char '{' => ⟨true, if s.inBody then s.depth + 1 else s.depth⟩
  | .char '}' =>
    if s.inBody then
      if s.depth = 0 then ⟨false, 0⟩ else ⟨true, s.depth - 1⟩
    else s
  | _ => s

def run (s : ScanState) (ps : List Piece) : ScanState := ps.foldl step s

@[simp] theorem run_nil (s : ScanState) : s.run [] = s := rfl

@[simp] theorem run_cons (s : ScanState) (p : Piece) (ps : List Piece) :
    s.run (p :: ps) = (s.step p).run ps := rfl

@[simp] theorem run_append (s : ScanState) (ps qs : List Piece) :
    s.run (ps ++ qs) = (s.run ps).run qs := List.foldl_append ..

theorem step_of_braceless (s : ScanState) {p : Piece} (h : p.Braceless) : s.step p = s := by
  unfold step
  split
  · exact absurd rfl h.1
  · exact absurd rfl h.2
  · rfl

def Sound (s : ScanState) : Prop := s.inBody = false → s.depth = 0

theorem sound_start : start.Sound := fun _ => rfl

def level (s : ScanState) : Nat := if s.inBody then s.depth + 1 else 0

def enclosed (s : ScanState) : ScanState := ⟨true, s.level⟩

@[simp] theorem level_start : start.level = 0 := rfl

theorem step_start_open : start.step (.char '{') = start.enclosed := rfl

theorem step_enclosed_close : start.enclosed.step (.char '}') = start := rfl

theorem eq_start_of_level {s : ScanState} (hs : s.Sound) (h : s.level = 0) : s = start := by
  obtain ⟨inBody, depth⟩ := s
  cases inBody with
  | true => simp [level] at h
  | false =>
    have hdepth : depth = 0 := hs rfl
    rw [hdepth, start]

theorem step_spec {s : ScanState} {p : Piece} (hs : s.Sound) (h : 0 ≤ s.level + p.depth) :
    (s.step p).Sound ∧ ((s.step p).level : Int) = s.level + p.depth ∧
      s.enclosed.step p = (s.step p).enclosed := by
  obtain ⟨inBody, depth⟩ := s
  by_cases ho : p = .char '{'
  · subst ho
    refine ⟨by simp [step, Sound], ?_, ?_⟩
    · cases inBody with
      | true => simp [step, level]
      | false => simp [step, level, hs rfl]
    · cases inBody with
      | true => simp [step, level, enclosed]
      | false => simp [step, level, enclosed, hs rfl]
  by_cases hc : p = .char '}'
  · subst hc
    cases inBody with
    | false => simp [level] at h
    | true =>
      cases depth with
      | zero => simp [step, level, enclosed, Sound]
      | succ d =>
        refine ⟨by simp [step, Sound], ?_, by simp [step, level, enclosed]⟩
        show ((d + 1 : Nat) : Int) = ((d + 1 + 1 : Nat) : Int) + -1
        omega
  · have hp : p.Braceless := ⟨ho, hc⟩
    rw [step_of_braceless _ hp, step_of_braceless _ hp, hp.depth_eq_zero]
    exact ⟨hs, by omega, rfl⟩

theorem run_spec {ps : List Piece} {s : ScanState} (hs : s.Sound) (h : StaysOpen s.level ps) :
    (s.run ps).Sound ∧ ((s.run ps).level : Int) = s.level + ScopedSheets.depth ps ∧
      s.enclosed.run ps = (s.run ps).enclosed := by
  induction ps generalizing s with
  | nil => exact ⟨hs, by simp, rfl⟩
  | cons p ps ih =>
    rw [staysOpen_cons_iff] at h
    obtain ⟨hsound, hlevel, henc⟩ := step_spec hs h.2.nonneg
    rw [← hlevel] at h
    obtain ⟨hsound', hlevel', henc'⟩ := ih hsound h.2
    refine ⟨hsound', ?_, ?_⟩
    · rw [run_cons, hlevel', hlevel, depth_cons]
      omega
    · rw [run_cons, run_cons, henc, henc']

theorem run_enclosed {ps : List Piece} (h : StaysOpen 0 ps) :
    start.enclosed.run ps = (start.run ps).enclosed :=
  (run_spec sound_start h).2.2

theorem inBody_before_close {ps before after : List Piece} (h : StaysOpen 0 ps)
    (hps : ps = before ++ .char '}' :: after) : (start.run before).inBody = true := by
  subst hps
  rw [staysOpen_append_iff, staysOpen_cons_iff, depth_close] at h
  have hlevel := (run_spec sound_start h.1).2.1
  have hpos := h.2.2.nonneg
  rw [level_start] at hlevel
  cases hin : (start.run before).inBody with
  | true => rfl
  | false =>
    have hzero : (start.run before).level = 0 := by simp [level, hin]
    omega

theorem run_of_balanced {ps : List Piece} (h : Balanced ps) : start.run ps = start := by
  obtain ⟨hsound, hlevel, _⟩ := run_spec sound_start h.staysOpen
  apply eq_start_of_level hsound
  rw [h.depth_eq, level_start] at hlevel
  omega

theorem run_of_open_not_mem {ps : List Piece} (h : .char '{' ∉ ps) : start.run ps = start := by
  induction ps with
  | nil => rfl
  | cons p ps ih =>
    rw [List.mem_cons, not_or] at h
    have hp : start.step p = start := by
      by_cases hc : p = .char '}'
      · rw [hc]
        rfl
      · exact step_of_braceless _ ⟨Ne.symm h.1, hc⟩
    rw [run_cons, hp, ih h.2]

theorem run_rule {r : RawRule} (hheader : .char '{' ∉ r.header) (hinner : Balanced r.inner)
    (rest : List Piece) :
    start.run (r.header ++ .char '{' :: (r.inner ++ .char '}' :: rest)) = start.run rest := by
  rw [run_append, run_of_open_not_mem hheader, run_cons, run_append, step_start_open,
    run_enclosed hinner.staysOpen, run_of_balanced hinner, run_cons, step_enclosed_close]

theorem run_splitRules (ps : List Piece) : start.run ps = start.run (splitRules ps).2 := by
  fun_induction splitRules ps with
  | case1 => rfl
  | case2 ps r rest h _ ih =>
    obtain ⟨hps, hheader, hinner⟩ := firstRule?_eq_some_iff.1 h
    rw [hps, run_rule hheader hinner, ih]

theorem inBody_iff (ps : List Piece) :
    (start.run ps).inBody = true ↔ .char '{' ∈ (splitRules ps).2 := by
  rw [run_splitRules]
  rcases firstRule?_eq_none_iff.1 (splitRules_spec ps).2.2 with hnone | ⟨header, rest, hrem, hheader, hopen⟩
  · rw [run_of_open_not_mem hnone]
    simp [start, hnone]
  · rw [hrem, run_append, run_of_open_not_mem hheader, run_cons, step_start_open, run_enclosed hopen]
    simp [enclosed]

end ScanState

theorem staysOpen_remainder {ps : List Piece} (h : StaysOpen 0 ps) : StaysOpen 0 (splitRules ps).2 := by
  fun_induction splitRules ps with
  | case1 => exact h
  | case2 ps r rest hr _ ih => exact ih (h.of_firstRule? hr).2

theorem braceless_remainder {ps : List Piece} (h : Balanced ps) :
    ∀ p ∈ (splitRules ps).2, p.Braceless := by
  apply braceless_of_staysOpen (staysOpen_remainder h.staysOpen)
  rw [← ScanState.inBody_iff, ScanState.run_of_balanced h]
  exact Bool.false_ne_true

theorem length_chars_le (ps : List Piece) :
    (ps.filterMap Piece.char?).length ≤ (writePieces ps).length := by
  induction ps with
  | nil => simp
  | cons p ps ih =>
    rw [writePieces_cons, List.length_append]
    cases p with
    | comment c =>
      have hskip : (Piece.comment c :: ps).filterMap Piece.char? = ps.filterMap Piece.char? := rfl
      rw [hskip]
      omega
    | char c =>
      have hkeep : (Piece.char c :: ps).filterMap Piece.char? = c :: ps.filterMap Piece.char? := rfl
      have hone : (Piece.char c).text.length = 1 := rfl
      rw [hkeep, List.length_cons, hone]
      omega

theorem length_header_of_isMedia {r : RawRule} (h : r.isMedia = true) :
    "@media".toList.length ≤ (writePieces r.header).length := by
  have hiff : r.isMedia = true ↔ (r.toRule []).IsMedia := isMedia_iff rfl
  obtain ⟨s, hs, hmedia⟩ := hiff.1 h
  have hmem : s ∈ r.selectors := List.mem_of_getLast? hs
  have hword := (hmedia.isInfix.trans (mem_selectorList hmem).1).length_le
  exact hword.trans (length_chars_le r.header)

theorem length_innerText_of_isMedia {f : Text} {r : RawRule} (h : r ∈ (splitRules (pieces f)).1)
    (hm : r.isMedia = true) : r.innerText.length + 8 ≤ f.length := by
  obtain ⟨before, after, hf⟩ := exists_around h
  have hheader := length_header_of_isMedia hm
  have hword : "@media".toList.length = 6 := rfl
  have hlen := congrArg (fun ps => (writePieces ps).length) hf
  simp only [writePieces_pieces, writePieces_append, writePieces_cons, List.length_append, Piece.text,
    List.length_cons, List.length_nil] at hlen
  rw [RawRule.innerText]
  omega

/-- `g` is `f`, or it stands in `n` nested `@media` rules of `f`. -/
inductive MediaAt (f : Text) : Nat → Text → Prop
  | whole : MediaAt f 0 f
  | inner {n : Nat} {g : Text} {r : RawRule} : MediaAt f n g → r ∈ (splitRules (pieces g)).1 →
      r.isMedia = true → MediaAt f (n + 1) r.innerText

theorem MediaAt.length_le {f g : Text} {n : Nat} (h : MediaAt f n g) : 8 * n + g.length ≤ f.length := by
  induction h with
  | whole => omega
  | inner _ hr hm ih =>
    have hstep := length_innerText_of_isMedia hr hm
    omega

/-- Nothing of `t` is lost under a scope but braceless text after its last rule. -/
structure ReadWhole (scope t : Text) : Prop where
  closed : CommentsClosed (pieces t)
  no_stray : ∀ before after, pieces t = before ++ .char '}' :: after →
    (ScanState.start.run before).inBody = true
  ends : ScanState.start.run (pieces t) = ScanState.start
  isOutline : IsOutline t (outline t)
  rules : List.Forall₂ (IsRuleOf scope) (outline t).rules (rules scope t)
  remainder : ∀ piece ∈ pieces (outline t).remainder, piece.Braceless

theorem forall₂_isRuleOf (scope t : Text) :
    List.Forall₂ (IsRuleOf scope) (outline t).rules (rules scope t) := by
  rw [rules_eq, outline, List.forall₂_map_left_iff, List.forall₂_map_right_iff, List.forall₂_same]
  intro r hr
  exact isRuleOf_toRule hr scope

theorem Enclosable.readWhole {t : Text} (h : Enclosable t) (scope : Text) : ReadWhole scope t := by
  refine ⟨h.closed, ?_, ScanState.run_of_balanced h.balanced, isOutline_outline t,
    forall₂_isRuleOf scope t, ?_⟩
  · intro before after hps
    exact ScanState.inBody_before_close h.balanced.staysOpen hps
  · rw [pieces_remainder]
    exact braceless_remainder h.balanced

/-- A scan ends in a body exactly when an open rule is dropped, and that never happens inside an `@media`
rule: at any depth, which an eighth of the fragment's length bounds, the text that is put under the scope
again is eight characters shorter than the text around it, and all of its rules are read. -/
theorem media_read_whole (f p : Text) :
    (∀ t, (ScanState.start.run (pieces t)).inBody = true ↔
      .char '{' ∈ pieces (outline t).remainder) ∧
    ∀ n g, MediaAt f n g → n ≤ f.length / 8 ∧
      ∀ r ∈ (splitRules (pieces g)).1, r.isMedia = true →
        r.toRule p ∈ rules p g ∧
        (r.toRule p).body = mediaBody (applyScope p r.innerText) ∧
        r.innerText.length + 8 ≤ g.length ∧
        ReadWhole p r.innerText := by
  refine ⟨?_, ?_⟩
  · intro t
    rw [pieces_remainder]
    exact ScanState.inBody_iff (pieces t)
  intro n g hg
  refine ⟨?_, ?_⟩
  · have hlen := hg.length_le
    omega
  intro r hr hm
  refine ⟨?_, ?_, length_innerText_of_isMedia hr hm, (enclosable_innerText hr).readWhole p⟩
  · rw [rules_eq]
    exact List.mem_map_of_mem hr
  · rw [RawRule.toRule, if_pos hm]

theorem media_read_whole_nested :
    ∃ outer inner : RawRule, (splitRules (pieces "@media{@media{a{}}}".toList)).1 = [outer] ∧
      (splitRules (pieces outer.innerText)).1 = [inner] ∧
      MediaAt "@media{@media{a{}}}".toList 1 outer.innerText ∧ inner.isMedia = true ∧
      inner.innerText.length + 8 ≤ outer.innerText.length ∧ ReadWhole ['p'] inner.innerText := by
  have hone {ps : List Piece} {r : RawRule} (h : firstRule? ps = some (r, [])) :
      (splitRules ps).1 = [r] := by
    rw [splitRules_of_some h, splitRules_of_none rfl]
  have houter : (splitRules (pieces "@media{@media{a{}}}".toList)).1
      = [⟨"@media".toList.map .char, "@media{a{}}".toList.map .char⟩] := by
    have hpieces : pieces "@media{@media{a{}}}".toList = "@media{@media{a{}}}".toList.map .char := by
      simp [pieces]
    rw [hpieces]
    exact hone (by decide)
  have hmem := List.mem_of_mem_head? (congrArg List.head? houter)
  have hinner : (splitRules (pieces (RawRule.innerText
      ⟨"@media".toList.map .char, "@media{a{}}".toList.map .char⟩))).1
      = [⟨"@media".toList.map .char, "a{}".toList.map .char⟩] := by
    rw [pieces_innerText hmem]
    exact hone (by decide)
  have hat := MediaAt.whole.inner hmem (by decide)
  obtain ⟨_, hpart⟩ := (media_read_whole _ ['p']).2 1 _ hat
  obtain ⟨_, _, hlen, hread⟩ := hpart _ (List.mem_of_mem_head? (congrArg List.head? hinner)) (by decide)
  exact ⟨_, _, houter, hinner, hat, by decide, hlen, hread⟩

end ScopedSheets
