import ScopedSheets.Proofs.Fragment.Header
import ScopedSheets.Proofs.Fragment.Replacing
import ScopedSheets.Proofs.Fragment.RoundTrip
import ScopedSheets.Proofs.Text.LineEnds

/-!
# Fragments with two characters to a line end

Carriage returns before the line feeds of a fragment change no cut: its comments, headers, bodies and
selectors are the same with carriage returns in them, and no kind of selector sees them. Scoping puts in
line feeds of its own, which stay alone, so the two scoped fragments have the same lines
(`sameLines_applyScope`).
-/

namespace ScopedSheets

open Text (toCrlf toCrlf_cons toCrlf_append OneLine SameLines isSelectorBlank trim)

def Piece.toCrlf : Piece → List Piece
  | comment t => [comment t.toCrlf]
  | char c => if c = '\n' then [char '\r', char '\n'] else [char c]

theorem keepsBraces_toCrlf : KeepsBraces Piece.toCrlf := by
  refine ⟨rfl, rfl, ?_⟩
  intro p hp q hq
  cases p with
  | comment t =>
    rw [List.mem_singleton.1 hq]
    exact braceless_comment _
  | char c =>
    rw [Piece.toCrlf] at hq
    split at hq
    · rcases List.mem_cons.1 hq with rfl | hq
      · simp [Piece.Braceless]
      · rw [List.mem_singleton.1 hq]
        simp [Piece.Braceless]
    · rw [List.mem_singleton.1 hq]
      exact hp

theorem splitComment_toCrlf (t : Text) :
    splitComment t.toCrlf = ((splitComment t).1.toCrlf, (splitComment t).2.toCrlf) := by
  fun_induction splitComment t with
  | case1 => rfl
  | case2 rest =>
    rw [toCrlf_cons (by decide), toCrlf_cons (by decide), splitComment]
    rfl
  | case3 c rest hne ih =>
    by_cases hc : c = '\n'
    · subst hc
      rw [Text.toCrlf_newline, splitComment_cons (by simp), splitComment_cons (by simp), ih]
      rfl
    · have hstar : ¬ (c = '*' ∧ (toCrlf rest).head? = some '/') := by
        rintro ⟨rfl, hh⟩
        cases rest with
        | nil => simp at hh
        | cons d rest =>
          by_cases hd : d = '\n'
          · subst hd
            simp at hh
          · rw [toCrlf_cons hd, List.head?_cons, Option.some.injEq] at hh
            exact hne rest rfl (by rw [hh])
      rw [toCrlf_cons hc, splitComment_cons hstar, ih, toCrlf_cons hc]

theorem opensComment_toCrlf {c : Char} {t : Text} (h : ¬ OpensComment (c :: t)) :
    ¬ OpensComment (c :: t.toCrlf) := by
  intro ho
  obtain ⟨rest, he⟩ := opensComment_iff.1 ho
  obtain ⟨rfl, ht⟩ := List.cons.inj he
  cases t with
  | nil => simp at ht
  | cons d t =>
    by_cases hd : d = '\n'
    · subst hd
      simp at ht
    · rw [toCrlf_cons hd] at ht
      obtain ⟨rfl, -⟩ := List.cons.inj ht
      exact h (opensComment_iff.2 ⟨t, rfl⟩)

theorem pieces_toCrlf (t : Text) : pieces t.toCrlf = (pieces t).flatMap Piece.toCrlf := by
  fun_induction pieces t with
  | case1 => rw [Text.toCrlf_nil, pieces_nil, List.flatMap_nil]
  | case2 rest ih =>
    rw [toCrlf_cons (by decide), toCrlf_cons (by decide), pieces_comment, splitComment_toCrlf, ih,
      List.flatMap_cons, Piece.toCrlf, toCrlf_cons (by decide), toCrlf_cons (by decide),
      List.singleton_append]
  | case3 c rest hne ih =>
    rw [List.flatMap_cons, ← ih]
    by_cases hc : c = '\n'
    · subst hc
      rw [Text.toCrlf_newline, pieces_cons_of_ne (by decide), pieces_cons_of_ne (by decide)]
      rfl
    · have hopen : ¬ OpensComment (c :: rest) := by
        intro ho
        obtain ⟨tail, he⟩ := opensComment_iff.1 ho
        obtain ⟨hslash, ht⟩ := List.cons.inj he
        exact hne tail hslash ht
      rw [toCrlf_cons hc, pieces_char (opensComment_toCrlf hopen), Piece.toCrlf, if_neg hc,
        List.singleton_append]

theorem writePieces_toCrlf (ps : List Piece) :
    writePieces (ps.flatMap Piece.toCrlf) = (writePieces ps).toCrlf := by
  induction ps with
  | nil => rfl
  | cons p ps ih =>
    have hp : writePieces p.toCrlf = p.text.toCrlf := by
      cases p with
      | comment t => simp [Piece.toCrlf, Piece.text]
      | char c =>
        by_cases hc : c = '\n'
        · subst hc
          rfl
        · simp [Piece.toCrlf, Piece.text, hc, toCrlf_cons hc]
    rw [List.flatMap_cons, writePieces_append, ih, hp, writePieces_cons, toCrlf_append]

theorem chars_toCrlf (ps : List Piece) :
    (ps.flatMap Piece.toCrlf).filterMap Piece.char? = toCrlf (ps.filterMap Piece.char?) := by
  induction ps with
  | nil => rfl
  | cons p ps ih =>
    rw [List.flatMap_cons, List.filterMap_append, ih]
    cases p with
    | comment t => rfl
    | char c =>
      show _ = toCrlf (c :: ps.filterMap Piece.char?)
      by_cases hc : c = '\n'
      · subst hc
        rfl
      · rw [toCrlf_cons hc, Piece.toCrlf, if_neg hc]
        rfl

theorem comments_toCrlf (ps : List Piece) :
    (ps.flatMap Piece.toCrlf).filterMap Piece.comment?
      = (ps.filterMap Piece.comment?).map toCrlf := by
  induction ps with
  | nil => rfl
  | cons p ps ih =>
    rw [List.flatMap_cons, List.filterMap_append, ih]
    cases p with
    | comment t => rfl
    | char c =>
      rw [Piece.toCrlf]
      split
      · rfl
      · rfl

theorem trim_toCrlf (t : Text) : trim isSelectorBlank t.toCrlf = (trim isSelectorBlank t).toCrlf := by
  obtain ⟨⟨lead, trail, ht, hlead, htrail⟩, hfirst, hlast⟩ := Text.trimmed_trim isSelectorBlank t
  have hblank {u : Text} (h : ∀ c ∈ u, isSelectorBlank c) : ∀ c ∈ u.toCrlf, isSelectorBlank c := by
    intro c hc
    rcases Text.mem_toCrlf hc with rfl | hc
    · rfl
    · exact h c hc
  refine (Text.eq_trim_of_trimmed ⟨⟨lead.toCrlf, trail.toCrlf, ?_, hblank hlead, hblank htrail⟩,
    ?_, ?_⟩).symm
  · conv => lhs; rw [ht, toCrlf_append, toCrlf_append]
  · intro c hc
    rcases hs : trim isSelectorBlank t with - | ⟨d, s⟩
    · rw [hs] at hc
      simp at hc
    · rw [hs] at hc hfirst
      have hd := hfirst d rfl
      have hne : d ≠ '\n' := by
        rintro rfl
        nomatch hd
      rw [toCrlf_cons hne, List.head?_cons, Option.some.injEq] at hc
      rwa [← hc]
  · intro c hc
    rw [Text.getLast?_toCrlf] at hc
    exact hlast c hc

theorem selectorList_toCrlf (t : Text) :
    selectorList t.toCrlf = (selectorList t).map toCrlf := by
  rw [selectorList, Text.splitOn_toCrlf (by decide) (by decide), selectorList, List.map_map,
    List.map_map]
  apply List.map_congr_left
  intro part _
  exact trim_toCrlf part

theorem isPrefixOf_toCrlf {word : Text} (h : OneLine word) (t : Text) :
    word.isPrefixOf t.toCrlf = word.isPrefixOf t := by
  rw [← List.isSome_isPrefixOf?_eq_isPrefixOf, Text.isPrefixOf?_toCrlf h, Option.isSome_map,
    List.isSome_isPrefixOf?_eq_isPrefixOf]

theorem endsWord_toCrlf (t : Text) : Selector.endsWord t.toCrlf = Selector.endsWord t := by
  cases t with
  | nil => rfl
  | cons c t =>
    by_cases hc : c = '\n'
    · subst hc
      rfl
    · rw [toCrlf_cons hc]
      rfl

theorem scopeSelector_toCrlf {scope : Text} (hscope : '\n' ∉ scope) (s : Text) :
    scopeSelector scope s.toCrlf = (scopeSelector scope s).toCrlf := by
  have hinner : scope ++ ' ' :: s.toCrlf = (scope ++ ' ' :: s).toCrlf := by
    rw [toCrlf_append, Text.toCrlf_eq_self hscope, toCrlf_cons (by decide)]
  have hparent : '\n' ∉ parentScope scope := by
    intro h
    rcases mem_parentScope h with h | h
    · exact hscope h
    · nomatch h
  rw [scopeSelector, scopeSelector, Selector.ofText, Selector.ofText,
    isPrefixOf_toCrlf (by decide), isPrefixOf_toCrlf (by decide)]
  split
  · rfl
  · rw [Text.isPrefixOf?_toCrlf (by decide), Text.isPrefixOf?_toCrlf (by decide)]
    cases "root".toList.isPrefixOf? s with
    | some rest =>
      simp only [Option.map_some, endsWord_toCrlf]
      split
      · simp only [Selector.render, toCrlf_append, Text.toCrlf_eq_self hscope]
      · exact hinner
    | none =>
      cases "directory".toList.isPrefixOf? s with
      | some rest =>
        simp only [Option.map_some, Option.map_none, Selector.render, toCrlf_append,
          Text.toCrlf_eq_self hparent]
      | none => exact hinner

theorem selectors_replace_toCrlf (r : RawRule) :
    (r.replace Piece.toCrlf).selectors = r.selectors.map toCrlf := by
  rw [RawRule.selectors_eq, RawRule.replace, chars_toCrlf, selectorList_toCrlf, RawRule.selectors_eq]

theorem isMedia_replace_toCrlf (r : RawRule) : (r.replace Piece.toCrlf).isMedia = r.isMedia := by
  rw [RawRule.isMedia, RawRule.isMedia, selectors_replace_toCrlf, List.getLast?_map]
  cases r.selectors.getLast? with
  | none => rfl
  | some s => exact isPrefixOf_toCrlf (by decide) s

theorem innerText_replace_toCrlf (r : RawRule) :
    (r.replace Piece.toCrlf).innerText = r.innerText.toCrlf :=
  writePieces_toCrlf r.inner

theorem sameLines_braced {a b : Text} (h : SameLines a b) : SameLines (braced a) (braced b) :=
  ((SameLines.refl (t := ['{']) (by decide)).append h).append (.refl (by decide))

variable {scope : Text}

theorem sameLines_render {r : RawRule} (hr : '\r' ∉ scope) (hn : '\n' ∉ scope)
    (hheader : '\r' ∉ writePieces r.header) (hinner : '\r' ∉ r.innerText)
    (hmedia : r.isMedia = true →
      SameLines ((applyScope scope r.innerText.toCrlf).dropLastIf '\n')
        ((applyScope scope r.innerText).dropLastIf '\n')) :
    SameLines (((r.replace Piece.toCrlf).toRule scope).render scope)
      ((r.toRule scope).render scope) := by
  have hcomments : SameLines
      ((r.replace Piece.toCrlf).comments.flatMap (· ++ ['\n'])) (r.comments.flatMap (· ++ ['\n'])) := by
    have he : (r.replace Piece.toCrlf).comments = r.comments.map toCrlf := comments_toCrlf r.header
    rw [he, List.flatMap_map]
    apply SameLines.flatMap
    intro c hc
    have hreturn : '\r' ∉ c := fun hm => hheader (comment_subset_header hc hm)
    exact (SameLines.toCrlf hreturn).append (.refl (by decide))
  have hselectors : SameLines
      (",\n".toList.intercalate ((r.replace Piece.toCrlf).selectors.map (scopeSelector scope)))
      (",\n".toList.intercalate (r.selectors.map (scopeSelector scope))) := by
    rw [selectors_replace_toCrlf, List.map_map]
    apply SameLines.intercalate (by decide)
    intro s hs
    have hreturn : '\r' ∉ s := fun hm => hheader (selector_subset_header hs hm)
    rw [Function.comp_apply, scopeSelector_toCrlf hn]
    exact .toCrlf (not_mem_scopeSelector hr hreturn (by decide) (by decide))
  have hbody : SameLines ((r.replace Piece.toCrlf).toRule scope).body (r.toRule scope).body := by
    simp only [RawRule.toRule, isMedia_replace_toCrlf, innerText_replace_toCrlf]
    split
    · next hm => exact sameLines_braced ((SameLines.refl (by decide)).append (hmedia hm))
    · exact sameLines_braced (.toCrlf hinner)
  have hspace : SameLines [' '] [' '] := .refl (by decide)
  exact ((hcomments.append hselectors).append (hspace.append hbody)).append (.refl (by decide))

theorem flatMap_render_ne {rs : List Rule} (t : Text) :
    rs.flatMap (Rule.render scope) ≠ t ++ ['\r', '\n'] := by
  intro h
  rcases flatMap_render_ends scope rs with he | ⟨init, he⟩
  · rw [he] at h
    simp at h
  · rw [he] at h
    have hend := (List.append_inj' h rfl).2
    exact absurd hend (by decide)

theorem sameLines_applyScope {f : Text} (hr : '\r' ∉ scope) (hn : '\n' ∉ scope) (hf : '\r' ∉ f) :
    SameLines (applyScope scope f.toCrlf) (applyScope scope f) := by
  induction hlen : f.length using Nat.strong_induction_on generalizing f with
  | _ n ih =>
    rw [applyScope, applyScope, rules_eq, rules_eq, pieces_toCrlf, keepsBraces_toCrlf.splitRules_flatMap,
      List.map_map, List.flatMap_map, List.flatMap_map]
    apply SameLines.flatMap
    intro r hr'
    have hpart := infix_of_mem hr'
    have hinner : '\r' ∉ r.innerText := fun hm => hf (hpart.2.subset hm)
    apply sameLines_render hr hn (fun hm => hf (hpart.1.subset hm)) hinner
    intro _
    have hlt : r.innerText.length < n := hlen ▸ length_innerText_lt hr'
    exact (ih _ hlt hinner rfl).dropLastIf_newline flatMap_render_ne

end ScopedSheets
