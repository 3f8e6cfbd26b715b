import Mathlib.Data.List.Induction
import ScopedSheets.Proofs.Fragment.LineEnds
import ScopedSheets.Proofs.Sheet.Division

/-!
# Sheets with two characters to a line end

Markers are read in the same places with carriage returns in their white space, blocks are the same
blocks, and a position counts lines by line feeds and columns from the last of them. So a sheet with a
carriage return before each line feed has the same fault at the same line and column, or it is scoped to
the same lines (`scopeSheet_toCrlf`).
-/

namespace ScopedSheets

open Text (toCrlf toCrlf_cons toCrlf_append OneLine SameLines isBlank)

theorem oneLine_of_solid {t : Text} (h : ∀ c ∈ t, (!isBlank c) = true) : OneLine t := by
  intro c hc
  have hsolid := h c hc
  constructor
  · rintro rfl
    nomatch hsolid
  · rintro rfl
    nomatch hsolid

theorem OneLine.toCrlf_eq {t : Text} (h : OneLine t) : t.toCrlf = t :=
  Text.toCrlf_eq_self fun hm => (h _ hm).2 rfl

def Opening.toCrlf (m : Opening) : Opening :=
  ⟨m.lead.toCrlf, m.gap.toCrlf, m.name, m.trail.toCrlf⟩

def Closing.toCrlf (m : Closing) : Closing := ⟨m.lead.toCrlf, m.trail.toCrlf⟩

theorem Opening.WellFormed.oneLine_name {m : Opening} (h : m.WellFormed) : OneLine m.name :=
  oneLine_of_solid (List.all_eq_true.1 h.name_solid)

theorem Opening.text_toCrlf {m : Opening} (h : m.WellFormed) : m.toCrlf.text = m.text.toCrlf := by
  simp only [Opening.text, Opening.toCrlf, toCrlf_append, OneLine.toCrlf_eq h.oneLine_name]
  rfl

theorem Closing.text_toCrlf (m : Closing) : m.toCrlf.text = m.text.toCrlf := by
  simp only [Closing.text, Closing.toCrlf, toCrlf_append]
  rfl

theorem Opening.readName?_toCrlf (t : Text) :
    readName? t.toCrlf
      = (readName? t).map fun ((name, trail), rest) => ((name, trail.toCrlf), rest.toCrlf) := by
  have hsolid : OneLine (t.takeWhile (!isBlank ·)) :=
    oneLine_of_solid (List.all_eq_true.1 List.all_takeWhile)
  have hrun : t.toCrlf.takeWhile (!isBlank ·) = t.takeWhile (!isBlank ·) := by
    rw [Text.takeWhile_toCrlf rfl, OneLine.toCrlf_eq hsolid]
  simp only [readName?, hrun, Text.dropWhile_toCrlf (p := (!isBlank ·)) rfl,
    Text.dropWhile_toCrlf (p := isBlank) rfl, Text.takeWhile_toCrlf (p := isBlank) rfl]
  rw [Text.isPrefixOf?_toCrlf (by decide)]
  cases hc : "*/".toList.isPrefixOf? ((t.dropWhile (!isBlank ·)).dropWhile isBlank) with
  | some rest =>
    simp only [Option.map_some]
    split
    · rfl
    · rfl
  | none =>
    simp only [Option.map_none]
    cases hr : t.takeWhile (!isBlank ·) with
    | nil => rfl
    | cons c run =>
      cases hcut : cutLastCloser? run with
      | none => simp [hcut]
      | some cut =>
        have hrest : OneLine cut.2 := by
          intro d hd
          apply hsolid
          rw [hr, eq_of_cutLastCloser? hcut]
          exact List.mem_cons_of_mem _ (List.mem_append_right _ hd)
        simp [hcut, OneLine.toCrlf_eq hrest]

theorem Opening.read?_toCrlf (t : Text) :
    read? t.toCrlf = (read? t).map fun (m, rest) => (m.toCrlf, rest.toCrlf) := by
  have hblank : isBlank '\r' = isBlank '\n' := rfl
  rw [read?, read?, Text.isPrefixOf?_toCrlf (by decide)]
  cases "/*".toList.isPrefixOf? t with
  | none => rfl
  | some t₁ =>
    simp only [Option.map_some, Option.bind_eq_bind, Option.bind_some, Text.dropWhile_toCrlf hblank,
      Text.takeWhile_toCrlf hblank]
    rw [Text.isPrefixOf?_toCrlf (by decide)]
    cases "SCOPE".toList.isPrefixOf? (t₁.dropWhile isBlank) with
    | none => rfl
    | some t₂ =>
      simp only [Option.map_some, Option.bind_some, Text.dropWhile_toCrlf hblank,
        Text.takeWhile_toCrlf hblank, readName?_toCrlf]
      by_cases hgap : t₂.takeWhile isBlank = []
      · simp [hgap]
      · have hgap' := mt Text.toCrlf_eq_nil_iff.1 hgap
        simp only [(Option.guard_eq_some' ()).2 hgap, (Option.guard_eq_some' ()).2 hgap', Option.bind_some]
        cases readName? (t₂.dropWhile isBlank) with
        | none => rfl
        | some cut => rfl

theorem Closing.read?_toCrlf (t : Text) :
    read? t.toCrlf = (read? t).map fun (m, rest) => (m.toCrlf, rest.toCrlf) := by
  have hblank : isBlank '\r' = isBlank '\n' := rfl
  rw [read?, read?, Text.isPrefixOf?_toCrlf (by decide)]
  cases "/*".toList.isPrefixOf? t with
  | none => rfl
  | some t₁ =>
    simp only [Option.map_some, Option.bind_eq_bind, Option.bind_some, Text.dropWhile_toCrlf hblank,
      Text.takeWhile_toCrlf hblank]
    by_cases hlead : t₁.takeWhile isBlank = []
    · simp [hlead]
    · have hlead' := mt Text.toCrlf_eq_nil_iff.1 hlead
      rw [Text.isPrefixOf?_toCrlf (by decide)]
      simp only [(Option.guard_eq_some' ()).2 hlead, (Option.guard_eq_some' ()).2 hlead', Option.bind_some]
      cases "END".toList.isPrefixOf? (t₁.dropWhile isBlank) with
      | none => rfl
      | some t₂ =>
        simp only [Option.map_some, Option.bind_some, Text.dropWhile_toCrlf hblank,
          Text.takeWhile_toCrlf hblank]
        rw [Text.isPrefixOf?_toCrlf (by decide)]
        by_cases htrail : t₂.takeWhile isBlank = []
        · simp [htrail]
        · have htrail' := mt Text.toCrlf_eq_nil_iff.1 htrail
          simp only [(Option.guard_eq_some' ()).2 htrail, (Option.guard_eq_some' ()).2 htrail',
            Option.bind_some]
          cases "*/".toList.isPrefixOf? (t₂.dropWhile isBlank) with
          | none => rfl
          | some rest => rfl

theorem Text.find?_toCrlf {α : Type} {matcher : Text → Option (α × Text)} {f : α → α}
    (hline : ∀ t, matcher ('\n' :: t) = none)
    (h : ∀ t : Text, matcher t.toCrlf = (matcher t).map fun (a, rest) => (f a, rest.toCrlf)) (t : Text) :
    find? matcher t.toCrlf
      = (find? matcher t).map fun (before, a, rest) => (before.toCrlf, f a, rest.toCrlf) := by
  induction t with
  | nil =>
    have hnil := h []
    rw [toCrlf_nil] at hnil
    rw [toCrlf_nil, find?]
    rcases hm : matcher [] with - | ⟨a, rest⟩
    · rfl
    · rw [hm, Option.map_some, Option.some.injEq, Prod.mk.injEq] at hnil
      exact congrArg some (Prod.ext rfl (Prod.ext hnil.1 hnil.2))
  | cons c t ih =>
    have hc := h (c :: t)
    rcases hm : matcher (c :: t) with - | ⟨a, rest⟩
    · rw [hm, Option.map_none] at hc
      by_cases hn : c = '\n'
      · subst hn
        rw [toCrlf_newline] at hc
        rw [toCrlf_newline, find?_cons_of_none hc, find?_cons_of_none (hline _), ih,
          find?_cons_of_none hm]
        cases find? matcher t with
        | none => rfl
        | some cut => rfl
      · rw [toCrlf_cons hn] at hc
        rw [toCrlf_cons hn, find?_cons_of_none hc, ih, find?_cons_of_none hm]
        cases find? matcher t with
        | none => rfl
        | some cut => simp [toCrlf_cons hn]
    · rw [hm, Option.map_some] at hc
      rw [find?_of_matcher hc, find?_of_matcher hm]
      rfl

theorem findOpening?_toCrlf (t : Text) : findOpening? t.toCrlf
    = (findOpening? t).map fun (before, m, rest) => (before.toCrlf, m.toCrlf, rest.toCrlf) :=
  Text.find?_toCrlf (fun _ => rfl) Opening.read?_toCrlf t

theorem findClosing?_toCrlf (t : Text) : findClosing? t.toCrlf
    = (findClosing? t).map fun (before, m, rest) => (before.toCrlf, m.toCrlf, rest.toCrlf) :=
  Text.find?_toCrlf (fun _ => rfl) Closing.read?_toCrlf t

def Section.toCrlf (s : Section) : Section :=
  ⟨s.gap.toCrlf, s.opening.toCrlf, s.body.toCrlf, s.closing.toCrlf⟩

def Ending.toCrlf : Ending → Ending
  | plain gap => plain gap.toCrlf
  | faulty fault before rest => faulty fault before.toCrlf rest.toCrlf

theorem Section.text_toCrlf {s : Section} (h : s.opening.WellFormed) :
    s.toCrlf.text = s.text.toCrlf := by
  simp only [Section.text, Section.toCrlf, Opening.text_toCrlf h, Closing.text_toCrlf, toCrlf_append]

theorem wellFormed_of_findOpening? {t before rest : Text} {m : Opening}
    (h : findOpening? t = some (before, m, rest)) : m.WellFormed :=
  (findOpening?_eq_some_iff.1 h).2.marker.1

theorem firstSection_toCrlf (t : Text) : firstSection t.toCrlf
    = match firstSection t with
      | .error ending => .error ending.toCrlf
      | .ok (s, rest) => .ok (s.toCrlf, rest.toCrlf) := by
  rw [firstSection, firstSection, findOpening?_toCrlf]
  rcases ho : findOpening? t with - | ⟨gap, m, after⟩
  · rfl
  · have hm := Opening.text_toCrlf (wellFormed_of_findOpening? ho)
    simp only [Option.map_some, findClosing?_toCrlf]
    rcases hc : findClosing? after with - | ⟨body, n, rest⟩
    · simp [Ending.toCrlf, hm]
    · simp only [Option.map_some, findOpening?_toCrlf]
      rcases hn : findOpening? body with - | ⟨before, nested, tail⟩
      · rfl
      · have hnested := Opening.text_toCrlf (wellFormed_of_findOpening? hn)
        simp [Ending.toCrlf, hm, hnested, Closing.text_toCrlf]

theorem layout_toCrlf (t : Text) :
    layout t.toCrlf = ((layout t).1.map Section.toCrlf, (layout t).2.toCrlf) := by
  have hfirst := firstSection_toCrlf t
  fun_induction layout t with
  | case1 t ending h =>
    rw [h] at hfirst
    rw [layout_of_error hfirst]
    rfl
  | case2 t s rest h _ ih =>
    rw [h] at hfirst
    rw [layout_of_ok hfirst, ih (firstSection_toCrlf rest)]
    rfl

theorem Position.after_toCrlf (t : Text) : after t.toCrlf = after t := by
  induction t using List.reverseRecOn with
  | nil => rfl
  | append_singleton t c ih =>
    by_cases hc : c = '\n'
    · subst hc
      have hline : (after (toCrlf t ++ ['\r'])).line = (after t).line := by
        rw [after_concat (by decide), ih]
      have hw : toCrlf (t ++ ['\n']) = (toCrlf t ++ ['\r']) ++ ['\n'] := by simp
      rw [hw, after_concat_newline, after_concat_newline, hline]
    · rw [toCrlf_append, Text.toCrlf_eq_self (t := [c]) (by simp [Ne.symm hc]), after_concat hc,
        after_concat hc, ih]

theorem Ending.error?_toCrlf (before : Text) (e : Ending) :
    e.toCrlf.error? before.toCrlf = e.error? before := by
  cases e with
  | plain gap => rfl
  | faulty fault gap rest => rw [toCrlf, error?, error?, ← toCrlf_append, Position.after_toCrlf]

theorem wellFormed_of_mem_layout {t : Text} {s : Section} (h : s ∈ (layout t).1) :
    s.opening.WellFormed := by
  obtain ⟨rest, hbegins, _⟩ := begins_layout t
  obtain ⟨before, after, he⟩ := List.append_of_mem h
  exact (hbegins.stands before s after he).opening.marker.1

theorem infix_of_mem_layout {t : Text} {s : Section} (h : s ∈ (layout t).1) : s.text <:+: t := by
  obtain ⟨before, after, he⟩ := List.append_of_mem h
  refine ⟨before.flatMap Section.text, after.flatMap Section.text ++ (layout t).2.text, ?_⟩
  conv => rhs; rw [← text_layout t, he]
  simp

theorem flatMap_text_toCrlf {ss : List Section} (h : ∀ s ∈ ss, s.opening.WellFormed) :
    (ss.map Section.toCrlf).flatMap Section.text = toCrlf (ss.flatMap Section.text) := by
  induction ss with
  | nil => rfl
  | cons s ss ih =>
    rw [List.map_cons, List.flatMap_cons, List.flatMap_cons, toCrlf_append,
      Section.text_toCrlf (h s (List.mem_cons_self ..)),
      ih fun s' hs' => h s' (List.mem_cons_of_mem _ hs')]

theorem sameLines_withScope {s : Section} (hm : s.opening.WellFormed) (h : '\r' ∉ s.text) :
    SameLines s.toCrlf.withScope s.withScope := by
  have hgap : '\r' ∉ s.gap := fun hc => h (by simp [Section.text, hc])
  have hbody : '\r' ∉ s.body := fun hc => h (by simp [Section.text, hc])
  have hr : '\r' ∉ s.scope := by
    intro hc
    rcases List.mem_cons.1 hc with hc | hc
    · exact absurd hc (by decide)
    · exact (hm.oneLine_name _ hc).1 rfl
  have hn : '\n' ∉ s.scope := by
    intro hc
    rcases List.mem_cons.1 hc with hc | hc
    · exact absurd hc (by decide)
    · exact (hm.oneLine_name _ hc).2 rfl
  exact (SameLines.toCrlf hgap).append (sameLines_applyScope hr hn hbody)

/-- A sheet with a carriage return before each line feed has the same fault at the same line and column,
or it is scoped to the same text when the carriage returns are taken away again. -/
theorem scopeSheet_toCrlf {t : Text} (ht : '\r' ∉ t) :
    (scopeSheet t.toCrlf).map Text.toLf = scopeSheet t := by
  have htext := text_layout t
  have hwf : ∀ s ∈ (layout t).1, s.opening.WellFormed := fun s hs => wellFormed_of_mem_layout hs
  have herror := Ending.error?_toCrlf ((layout t).1.flatMap Section.text) (layout t).2
  rw [← flatMap_text_toCrlf hwf] at herror
  simp only [scopeSheet, layout_toCrlf, herror]
  cases he : (layout t).2.error? ((layout t).1.flatMap Section.text) with
  | some e => rfl
  | none =>
    have hsections : SameLines (((layout t).1.map Section.toCrlf).flatMap Section.withScope)
        ((layout t).1.flatMap Section.withScope) := by
      rw [List.flatMap_map]
      apply SameLines.flatMap
      intro s hs
      exact sameLines_withScope (hwf s hs) fun hm => ht ((infix_of_mem_layout hs).subset hm)
    have hending : SameLines (layout t).2.toCrlf.text (layout t).2.text := by
      rcases hlast : (layout t).2 with last | ⟨fault, gap, rest⟩
      · rw [hlast] at htext
        refine SameLines.toCrlf fun hm => ht ?_
        rw [← htext]
        exact List.mem_append_right _ hm
      · rw [hlast] at he
        cases he
    exact congrArg Except.ok (hsections.append hending).toLf_eq

theorem scopeSheet_toCrlf_media :
    '\r' ∉ "a\n/* SCOPE x */\n@media a\n{b{}}\n/* END */\n".toList ∧
    (scopeSheet (Text.toCrlf "a\n/* SCOPE x */\n@media a\n{b{}}\n/* END */\n".toList)).toOption
      = some "a\r\n@media a \x7b\n    .x b {}\n\x7d\n\n\r\n".toList ∧
    (scopeSheet (Text.toCrlf "a\n/* SCOPE x */\n@media a\n{b{}}\n/* END */\n".toList)).map Text.toLf
      = scopeSheet "a\n/* SCOPE x */\n@media a\n{b{}}\n/* END */\n".toList := by
  have hlines : '\r' ∉ "a\n/* SCOPE x */\n@media a\n{b{}}\n/* END */\n".toList := by decide
  exact ⟨hlines, by decide +kernel, scopeSheet_toCrlf hlines⟩

end ScopedSheets
