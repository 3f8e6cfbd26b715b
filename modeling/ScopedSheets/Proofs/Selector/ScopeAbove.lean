import Mathlib.Logic.Function.Iterate
import ScopedSheets.Proofs.Selector.WholeWord

/-!
# The scope above

A scope is segments with hyphens between them. How many hyphens stand in one place makes no difference, nor do
hyphens in front and behind: a text writes one list of segments (`segmented_iff`), and the scope above is made of
that list without its last segment. So a scope has as many scopes above it as it has segments, and `directory` in
a scope with one more segment means what `root` means in the scope itself (`directory_is_root_above`).
-/

namespace ScopedSheets

variable {p s x : Text} {ss : List Text}

/-- `Segmented x ss`: the text `x` writes the segments `ss`. None of them is empty or holds a hyphen, hyphens
stand between two of them, and any number of hyphens in front and behind. -/
inductive Segmented : Text → List Text → Prop
  | hyphens (n : Nat) : Segmented (List.replicate n '-') []
  | segment {n : Nat} {s rest : Text} {ss : List Text} :
      s ≠ [] → '-' ∉ s → (∀ c, rest.head? = some c → c = '-') → Segmented rest ss →
      Segmented (List.replicate n '-' ++ (s ++ rest)) (s :: ss)

theorem filter_eq_self_of_nil_not_mem {parts : List Text} (h : [] ∉ parts) :
    parts.filter (!·.isEmpty) = parts := by
  rw [List.filter_eq_self]
  intro s hs
  cases s with
  | nil => exact absurd hs h
  | cons c s => rfl

theorem segments_append_hyphen (a b : Text) :
    segments (a ++ '-' :: b) = segments a ++ segments b := by
  have hsplit : (a ++ '-' :: b).splitOn '-' = a.splitOn '-' ++ b.splitOn '-' :=
    List.splitOnP_append_cons a b rfl
  unfold segments
  rw [hsplit, List.filter_append]

theorem segments_replicate_append (n : Nat) (x : Text) :
    segments (List.replicate n '-' ++ x) = segments x := by
  induction n with
  | zero => rfl
  | succ n ih =>
    have hone := segments_append_hyphen [] (List.replicate n '-' ++ x)
    rw [ih] at hone
    simpa [List.replicate_succ, segments] using hone

theorem segments_append_replicate (x : Text) (n : Nat) :
    segments (x ++ List.replicate n '-') = segments x := by
  cases n with
  | zero => simp
  | succ n =>
    have hnone := segments_replicate_append n []
    rw [List.append_nil] at hnone
    rw [List.replicate_succ, segments_append_hyphen, hnone]
    simp [segments]

theorem segments_of_no_hyphen (hne : s ≠ []) (hs : '-' ∉ s) : segments s = [s] := by
  have hsplit : s.splitOn '-' = [s] := by
    have hone : (['-'].intercalate [s]).splitOn '-' = [s] :=
      List.splitOn_intercalate '-' (by simpa using hs) (by simp)
    rwa [List.intercalate_singleton] at hone
  simp [segments, hsplit, hne]

theorem segments_append_rest {rest : Text} (hne : s ≠ []) (hs : '-' ∉ s)
    (hrest : ∀ c, rest.head? = some c → c = '-') : segments (s ++ rest) = s :: segments rest := by
  cases rest with
  | nil =>
    rw [List.append_nil, segments_of_no_hyphen hne hs]
    rfl
  | cons c rest =>
    obtain rfl := hrest c rfl
    have hlead := segments_replicate_append 1 rest
    rw [segments_append_hyphen, segments_of_no_hyphen hne hs, ← hlead]
    rfl

theorem Segmented.eq_segments (h : Segmented x ss) : ss = segments x := by
  induction h with
  | hyphens n =>
    have hnone := segments_replicate_append n []
    rw [List.append_nil] at hnone
    exact hnone.symm
  | segment hne hs hrest _ ih =>
    rw [segments_replicate_append, segments_append_rest hne hs hrest, ih]

theorem Segmented.exists_cons (c : Char) (h : Segmented x ss) : ∃ ss', Segmented (c :: x) ss' := by
  by_cases hc : c = '-'
  · subst hc
    cases h with
    | hyphens n => exact ⟨[], .hyphens (n + 1)⟩
    | @segment n s rest ss hne hs hrest h => exact ⟨s :: ss, .segment (n := n + 1) hne hs hrest h⟩
  · have hone : '-' ∉ [c] := by simpa using Ne.symm hc
    have hword := @Segmented.segment 0 [c]
    cases h with
    | hyphens n =>
      refine ⟨[[c]], hword (by simp) hone ?_ (.hyphens n)⟩
      intro d hd
      exact List.eq_of_mem_replicate (List.mem_of_mem_head? hd)
    | @segment n s rest ss hne hs hrest h =>
      cases n with
      | zero =>
        have hlonger : '-' ∉ c :: s := by simp [Ne.symm hc, hs]
        exact ⟨(c :: s) :: ss, @Segmented.segment 0 (c :: s) rest ss (by simp) hlonger hrest h⟩
      | succ n =>
        have hrow := Segmented.segment (n := n + 1) hne hs hrest h
        refine ⟨[c] :: s :: ss, hword (by simp) hone ?_ hrow⟩
        intro d hd
        exact (Option.some.inj hd).symm

theorem exists_segmented (x : Text) : ∃ ss, Segmented x ss := by
  induction x with
  | nil => exact ⟨[], .hyphens 0⟩
  | cons c x ih =>
    obtain ⟨ss, h⟩ := ih
    exact h.exists_cons c

theorem segmented_iff : Segmented x ss ↔ ss = segments x := by
  constructor
  · exact Segmented.eq_segments
  · intro h
    obtain ⟨ss', h'⟩ := exists_segmented x
    rw [h, ← h'.eq_segments]
    exact h'

theorem segments_intercalate (hne : [] ∉ ss) (hss : ∀ s ∈ ss, '-' ∉ s) :
    segments (['-'].intercalate ss) = ss := by
  by_cases hnil : ss = []
  · subst hnil
    rfl
  · unfold segments
    rw [List.splitOn_intercalate '-' hss hnil, filter_eq_self_of_nil_not_mem hne]

theorem segments_parentScope (x : Text) : segments (parentScope x) = (segments x).dropLast := by
  unfold parentScope
  apply segments_intercalate
  · intro hm
    have hfilter := List.mem_filter.1 (List.dropLast_subset _ hm)
    simp at hfilter
  · intro s hs
    exact Text.not_mem_of_mem_splitOn (List.mem_filter.1 (List.dropLast_subset _ hs)).1

theorem parentScope_iterate {n : Nat} (h : (segments x).length = n + 1) :
    parentScope^[n + 1] x = [] := by
  induction n generalizing x with
  | zero =>
    obtain ⟨s, hs⟩ := List.length_eq_one_iff.1 h
    simp [parentScope, hs]
  | succ n ih =>
    rw [Function.iterate_succ_apply]
    apply ih
    rw [segments_parentScope, List.length_dropLast]
    omega

/-- No hyphen stands in front, behind, or right after another. -/
structure SinglyHyphenated (p : Text) : Prop where
  first : p.head? ≠ some '-'
  last : p.getLast? ≠ some '-'
  single : ¬ ['-', '-'] <:+: p

theorem hyphen_of_empty_part {part : Text} {parts : List Text} (h : [] ∈ parts) :
    (['-'].intercalate (part :: parts)).getLast? = some '-' ∨
      ['-', '-'] <:+: ['-'].intercalate (part :: parts) := by
  induction parts generalizing part with
  | nil => simp at h
  | cons next parts ih =>
    rw [List.intercalate_cons_cons]
    by_cases hnext : next = []
    · subst hnext
      cases parts with
      | nil =>
        left
        simp
      | cons third parts =>
        right
        rw [List.intercalate_cons_cons]
        exact ⟨part, ['-'].intercalate (third :: parts), by simp⟩
    · have hrest : [] ∈ parts := (List.mem_cons.1 h).resolve_left (Ne.symm hnext)
      cases @ih next hrest with
      | inl hlast =>
        left
        rw [List.getLast?_append, hlast]
        rfl
      | inr hdouble =>
        right
        exact hdouble.trans (List.suffix_append _ _).isInfix

theorem SinglyHyphenated.intercalate_segments (h : SinglyHyphenated p) :
    ['-'].intercalate (segments p) = p := by
  by_cases hnil : p = []
  · subst hnil
    rfl
  · have hwhole : ['-'].intercalate (p.splitOn '-') = p := List.intercalate_splitOn '-'
    have hparts : [] ∉ p.splitOn '-' := by
      cases hsplit : p.splitOn '-' with
      | nil => simp
      | cons part parts =>
        rw [hsplit] at hwhole
        intro hm
        by_cases hempty : [] ∈ parts
        · have hhyphen := @hyphen_of_empty_part part parts hempty
          rw [hwhole] at hhyphen
          exact hhyphen.elim h.last h.single
        · have hpart : [] = part := (List.mem_cons.1 hm).resolve_right hempty
          subst hpart
          cases parts with
          | nil => exact hnil hwhole.symm
          | cons next parts =>
            rw [List.intercalate_cons_cons] at hwhole
            apply h.first
            rw [← hwhole]
            rfl
    unfold segments
    rw [filter_eq_self_of_nil_not_mem hparts, hwhole]

theorem SinglyHyphenated.parentScope_append {g : Text} (h : SinglyHyphenated p) (hne : g ≠ [])
    (hg : '-' ∉ g) : parentScope (p ++ '-' :: g) = p := by
  unfold parentScope
  rw [segments_append_hyphen, segments_of_no_hyphen hne hg, List.dropLast_concat,
    h.intercalate_segments]

/-- A text writes one list of segments, and the scope above is these without the last, with a hyphen between two
of them; hyphens beside hyphens, in front and behind change nothing, and as many steps up as there are segments
lead to nothing. So `directory` in a scope with one more segment means what `root` means in the scope. -/
theorem directory_is_root_above (x : Text) :
    (∃ ss, (∀ ss', Segmented x ss' ↔ ss' = ss) ∧ parentScope x = ['-'].intercalate ss.dropLast ∧
      (0 < ss.length → parentScope^[ss.length] x = [])) ∧
    (∀ m n, parentScope (List.replicate m '-' ++ (x ++ List.replicate n '-')) = parentScope x) ∧
    (∀ a b n, x = a ++ '-' :: b → parentScope (a ++ (List.replicate (n + 1) '-' ++ b)) = parentScope x) ∧
    (SinglyHyphenated x → ∀ g rest, g ≠ [] → '-' ∉ g →
      (∀ c, rest.head? = some c → c ∈ ['.', ':', ' ']) →
      scopeSelector (x ++ '-' :: g) ("directory".toList ++ rest)
        = scopeSelector x ("root".toList ++ rest)) := by
  refine ⟨⟨segments x, fun ss' => segmented_iff, rfl, ?_⟩, ?_, ?_, ?_⟩
  · intro hpos
    obtain ⟨n, hn⟩ := Nat.exists_eq_add_of_lt hpos
    rw [Nat.zero_add] at hn
    rw [hn]
    exact parentScope_iterate hn
  · intro m n
    unfold parentScope
    rw [segments_replicate_append, segments_append_replicate]
  · intro a b n hx
    unfold parentScope
    rw [hx, segments_append_hyphen, List.replicate_succ, List.cons_append, segments_append_hyphen,
      segments_replicate_append]
  · intro hsingle g rest hne hg hrest
    rw [scopeSelector_directory, scopeSelector_root (endsWord_iff.2 hrest),
      hsingle.parentScope_append hne hg]

theorem directory_is_root_above_icon :
    SinglyHyphenated ".nav".toList ∧
    scopeSelector ".nav-items".toList "directory.icon".toList
      = scopeSelector ".nav".toList "root.icon".toList ∧
    parentScope (parentScope ".nav-items".toList) = [] ∧
    parentScope ".nav---items".toList = parentScope ".nav-items".toList := by
  have hsingle : SinglyHyphenated ".nav".toList := ⟨by decide, by decide, by decide⟩
  have hdot : ∀ c, ".icon".toList.head? = some c → c ∈ ['.', ':', ' '] := by
    intro c hc
    obtain rfl := Option.some.inj hc
    decide
  have hword := (directory_is_root_above ".nav".toList).2.2.2 hsingle "items".toList ".icon".toList
    (by decide) (by decide) hdot
  obtain ⟨⟨ss, hss, _, hsteps⟩, _, hhyphens, _⟩ := directory_is_root_above ".nav-items".toList
  obtain rfl := (hss _).1 (segmented_iff.2 rfl)
  exact ⟨hsingle, hword, hsteps (by decide), hhyphens ".nav".toList "items".toList 2 (by decide)⟩

end ScopedSheets
