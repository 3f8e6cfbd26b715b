import ScopedSheets.Proofs.Fragment.Outline

/-!
# Text after a fragment

A rule that is closed is read before the text after it is seen. So the rules of a fragment are the first rules
of every longer text, and the text that comes after is read together with the remainder of the fragment only
(`rules_append_text`). A fragment that ends with a rule has no remainder, and what comes after it is scoped by
itself.
-/

namespace ScopedSheets

theorem pieces_append_of_close {t : Text} {ps qs : List Piece} (h : pieces t = ps ++ .char '}' :: qs)
    (b : Text) : pieces (t ++ b) = ps ++ .char '}' :: pieces (writePieces qs ++ b) := by
  have ht : t = writePieces ps ++ '}' :: writePieces qs := by
    rw [← writePieces_pieces t, h, writePieces_append, writePieces_cons]
    rfl
  have hleft : pieces (writePieces ps) = ps := pieces_writePieces_left h
  have hclosed : CommentsClosed ps := (reads_iff.2 h.symm).commentsClosed (by simp)
  have hseam : pieces (writePieces ps ++ '}' :: (writePieces qs ++ b))
      = pieces (writePieces ps) ++ pieces ('}' :: (writePieces qs ++ b)) :=
    pieces_append (hleft.symm ▸ hclosed) (by simp)
  rw [ht, List.append_assoc, List.cons_append, hseam, hleft, pieces_cons_of_ne (by decide)]

theorem splitRules_append_pieces (ps qs : List Piece) :
    splitRules (ps ++ qs) = ((splitRules ps).1 ++ (splitRules ((splitRules ps).2 ++ qs)).1,
      (splitRules ((splitRules ps).2 ++ qs)).2) := by
  fun_induction splitRules ps with
  | case1 ps _ => rfl
  | case2 ps r rest h _ ih =>
    obtain ⟨hps, hheader, hinner⟩ := firstRule?_eq_some_iff.1 h
    have hfirst : firstRule? (ps ++ qs) = some (r, rest ++ qs) :=
      firstRule?_eq_some_iff.2 ⟨by rw [hps]; simp, hheader, hinner⟩
    rw [splitRules_of_some hfirst, ih, List.cons_append]

theorem firstRule?_append_text {a : Text} {r : RawRule} {rest : List Piece}
    (h : firstRule? (pieces a) = some (r, rest)) (b : Text) :
    firstRule? (pieces (a ++ b)) = some (r, pieces (writePieces rest ++ b)) := by
  obtain ⟨ha, hheader, hinner⟩ := firstRule?_eq_some_iff.1 h
  have hclose : pieces a = (r.header ++ .char '{' :: r.inner) ++ .char '}' :: rest := by
    rw [ha]
    simp
  refine firstRule?_eq_some_iff.2 ⟨?_, hheader, hinner⟩
  rw [pieces_append_of_close hclose]
  simp

theorem splitRules_append_text (a b : Text) :
    (splitRules (pieces (a ++ b))).1 = (splitRules (pieces a)).1
      ++ (splitRules (pieces (writePieces (splitRules (pieces a)).2 ++ b))).1 := by
  generalize ha : pieces a = ps
  fun_induction splitRules ps generalizing a with
  | case1 ps h => rw [← ha, writePieces_pieces, List.nil_append]
  | case2 ps r rest h _ ih =>
    have hps : pieces a = (r.header ++ .char '{' :: r.inner ++ [.char '}']) ++ rest := by
      rw [ha, eq_of_firstRule? h]
      simp
    have hrest : pieces (writePieces rest) = rest := pieces_writePieces_right hps
    rw [← ha] at h
    rw [splitRules_of_some (firstRule?_append_text h b), ih (writePieces rest) hrest, List.cons_append]

theorem rules_of_firstRule? {f : Text} {r : RawRule} {rest : List Piece}
    (h : firstRule? (pieces f) = some (r, rest)) (hrest : firstRule? rest = none) (p : Text) :
    rules p f = [r.toRule p] := by
  rw [rules_eq, splitRules_of_some h, splitRules_of_none hrest, List.map_singleton]

theorem rules_append_remainder (p a b : Text) :
    rules p (a ++ b) = rules p a ++ rules p ((outline a).remainder ++ b) := by
  rw [rules_eq, rules_eq, rules_eq, splitRules_append_text, List.map_append]
  rfl

theorem applyScope_append_remainder (p a b : Text) :
    applyScope p (a ++ b) = applyScope p a ++ applyScope p ((outline a).remainder ++ b) := by
  rw [applyScope, applyScope, applyScope, rules_append_remainder, List.flatMap_append]

/-- With text after it a fragment has the rules that it has alone, and then the rules of its remainder and the
text. What is printed for it stays, and after a fragment that ends with a rule the text is scoped by
itself. -/
theorem rules_append_text (p a b : Text) :
    IsOutline a (outline a) ∧
    rules p (a ++ b) = rules p a ++ rules p ((outline a).remainder ++ b) ∧
    rules p a <+: rules p (a ++ b) ∧
    applyScope p a <+: applyScope p (a ++ b) ∧
    ((outline a).remainder = [] → applyScope p (a ++ b) = applyScope p a ++ applyScope p b) := by
  have hrules := rules_append_remainder p a b
  have hprint := applyScope_append_remainder p a b
  refine ⟨isOutline_outline a, hrules, ?_, ?_, ?_⟩
  · rw [hrules]
    exact List.prefix_append _ _
  · rw [hprint]
    exact List.prefix_append _ _
  · intro hend
    rw [hprint, hend, List.nil_append]

end ScopedSheets
