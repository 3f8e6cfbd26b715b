import ScopedSheets.Fragment.Rule
import ScopedSheets.Proofs.Text.Cutting
import ScopedSheets.Proofs.Text.Trimming

/-!
# Selectors in a header

What cutting a header at commas and trimming the parts amounts to. Blanks that are put around a selector do
not change it, and a list of selectors without commas is read back from the text that joins them.
-/

namespace ScopedSheets

open Text (trim isSelectorBlank)

def selectorList (t : Text) : List Text := (t.splitOn ',').map (trim isSelectorBlank)

theorem RawRule.selectors_eq (r : RawRule) :
    r.selectors = selectorList (r.header.filterMap Piece.char?) := rfl

theorem selectorList_ne_nil (t : Text) : selectorList t ≠ [] := by
  rw [selectorList, Ne, List.map_eq_nil_iff]
  exact List.splitOn_ne_nil ',' t

theorem mem_selectorList {t s : Text} (h : s ∈ selectorList t) : s <:+: t ∧ ',' ∉ s := by
  obtain ⟨part, hpart, rfl⟩ := List.mem_map.1 h
  have hin := Text.trim_infix isSelectorBlank part
  refine ⟨hin.trans (Text.infix_of_mem_splitOn hpart), ?_⟩
  intro hc
  exact Text.not_mem_of_mem_splitOn hpart (hin.subset hc)

theorem selectorList_of_not_mem {t : Text} (h : ',' ∉ t) :
    selectorList t = [trim isSelectorBlank t] := by
  rw [selectorList, List.splitOn_eq_singleton h, List.map_singleton]

theorem selectorList_append_comma {s : Text} (h : ',' ∉ s) (t : Text) :
    selectorList (s ++ ',' :: t) = trim isSelectorBlank s :: selectorList t := by
  rw [selectorList, List.splitOn_append_cons_self_of_not_mem h, List.map_cons, selectorList]

theorem selectorList_append_left {lead : Text} (h : ∀ c ∈ lead, isSelectorBlank c) (t : Text) :
    selectorList (lead ++ t) = selectorList t := by
  induction lead with
  | nil => rfl
  | cons c lead ih =>
    have hc : isSelectorBlank c := h c (List.mem_cons_self ..)
    have hcomma : (c == ',') = false := by
      rw [beq_eq_false_iff_ne]
      rintro rfl
      nomatch hc
    rw [← ih fun d hd => h d (List.mem_cons_of_mem _ hd), List.cons_append, selectorList,
      List.splitOn_cons_eq_if_modifyHead, hcomma, if_neg (by simp), selectorList]
    cases hs : (lead ++ t).splitOn ',' with
    | nil => rfl
    | cons first parts =>
      have hblank : ∀ d ∈ [c], isSelectorBlank d := by simpa using hc
      have htrim := Text.trim_append_left hblank first
      rw [List.modifyHead_cons, List.map_cons, List.map_cons, ← htrim]
      rfl

theorem selectorList_intercalate {ss : List Text} (hne : ss ≠ []) (h : ∀ s ∈ ss, ',' ∉ s) :
    selectorList (",\n".toList.intercalate ss ++ [' ']) = ss.map (trim isSelectorBlank) := by
  have hspace : ∀ c ∈ [' '], isSelectorBlank c := List.all_eq_true.1 rfl
  have hnewline : ∀ c ∈ ['\n'], isSelectorBlank c := List.all_eq_true.1 rfl
  induction ss with
  | nil => exact absurd rfl hne
  | cons s ss ih =>
    have hs := h s (List.mem_cons_self ..)
    cases ss with
    | nil =>
      have hcomma : ',' ∉ s ++ [' '] := by simp [hs]
      rw [List.intercalate_singleton, selectorList_of_not_mem hcomma, Text.trim_append_right s hspace,
        List.map_singleton]
    | cons s₂ ss =>
      have hrest := ih (by simp) fun d hd => h d (List.mem_cons_of_mem _ hd)
      have hw : ",\n".toList.intercalate (s :: s₂ :: ss) ++ [' ']
          = s ++ ',' :: (['\n'] ++ (",\n".toList.intercalate (s₂ :: ss) ++ [' '])) := by
        rw [List.intercalate_cons_cons]
        simp
      rw [hw, selectorList_append_comma hs, selectorList_append_left hnewline, hrest]
      rfl

end ScopedSheets
