import ScopedSheets.Proofs.Fragment.Appending

/-!
# A comment more in a header

A comment that is put between two pieces of a header goes to the comments of its rule and leaves selectors,
bodies and all other rules as they are, whatever it holds. There is one place where that is not so: after a
comment that has no closer of its own. There the new comment is no comment, since the old one goes on to the
first closer in it, and what follows that closer is read as text (`addsComment_iff`).
-/

namespace ScopedSheets

/-- The text ends inside the comment that opens after `lead` and has no closer. -/
structure EndsInComment (a lead inner : Text) : Prop where
  pieces_eq : pieces a = pieces lead ++ [.comment ('/' :: '*' :: inner)]
  unclosed : ¬ HasCloser inner

theorem Reads.exists_unclosed {t : Text} {ps : List Piece} (h : Reads t ps)
    (hopen : ¬ CommentsClosed ps) :
    ∃ qs inner, ps = qs ++ [.comment ('/' :: '*' :: inner)] ∧ ¬ HasCloser inner := by
  induction h with
  | done => exact absurd commentsClosed_nil hopen
  | @comment inner rest ps hfirst _ ih =>
    have hps : ¬ CommentsClosed ps := by
      intro hclosed
      refine hopen fun c hc => ?_
      rcases List.mem_cons.1 hc with hc | hc
      · exact ⟨inner, Piece.comment.inj hc, hfirst⟩
      · exact hclosed c hc
    obtain ⟨qs, inner', hqs, hnone⟩ := ih hps
    exact ⟨_ :: qs, inner', by rw [hqs, List.cons_append], hnone⟩
  | @unclosed inner hnone => exact ⟨[], inner, rfl, hnone⟩
  | @char c rest ps _ _ ih =>
    have hps : ¬ CommentsClosed ps := by
      intro hclosed
      refine hopen fun d hd => ?_
      rcases List.mem_cons.1 hd with hd | hd
      · nomatch hd
      · exact hclosed d hd
    obtain ⟨qs, inner, hqs, hnone⟩ := ih hps
    exact ⟨_ :: qs, inner, by rw [hqs, List.cons_append], hnone⟩

theorem exists_endsInComment {a : Text} (h : ¬ CommentsClosed (pieces a)) :
    ∃ lead inner, EndsInComment a lead inner := by
  obtain ⟨qs, inner, hqs, hnone⟩ := (reads_pieces a).exists_unclosed h
  exact ⟨writePieces qs, inner, by rw [pieces_writePieces_left hqs, hqs], hnone⟩

namespace EndsInComment

variable {a lead inner : Text}

theorem text_eq (h : EndsInComment a lead inner) : a = lead ++ '/' :: '*' :: inner := by
  rw [← writePieces_pieces a, h.pieces_eq, writePieces_append, writePieces_pieces]
  simp [Piece.text]

theorem not_closed (h : EndsInComment a lead inner) : ¬ CommentsClosed (pieces a) := by
  intro hclosed
  obtain ⟨inner', he, _⟩ := hclosed ('/' :: '*' :: inner) (by rw [h.pieces_eq]; simp)
  have hinner : inner = inner' ++ ['*', '/'] := by simpa using he
  exact h.unclosed (hinner ▸ hasCloser_append_closer inner')

theorem pieces_append_text (h : EndsInComment a lead inner) (t : Text) :
    pieces (a ++ t) = pieces lead
      ++ .comment ('/' :: '*' :: (splitComment (inner ++ t)).1) :: pieces (splitComment (inner ++ t)).2 := by
  have hlead : CommentsClosed (pieces lead) :=
    (reads_iff.2 h.pieces_eq.symm).commentsClosed (by simp)
  rw [h.text_eq, List.append_assoc, pieces_append hlead (by simp), List.cons_append, List.cons_append,
    pieces_comment]

end EndsInComment

/-- Between `a` and `b` the reading of the whole can be cut, and no body is open there. -/
structure InHeader (a b : Text) : Prop where
  between : pieces a <+: pieces (a ++ b)
  outside : .char '{' ∉ pieces (outline a).remainder

def openComments (a : Text) : List Text := (pieces (outline a).remainder).filterMap Piece.comment?

theorem exists_pieces_remainder (a : Text) :
    ∃ closed, pieces a = closed ++ pieces (outline a).remainder := by
  rw [pieces_remainder]
  exact ⟨_, (splitRules_spec (pieces a)).1⟩

section

variable {a b c : Text}

theorem InHeader.pieces_eq (h : InHeader a b) : pieces (a ++ b) = pieces a ++ pieces b := by
  obtain ⟨qs, hqs⟩ := h.between
  have hright := pieces_writePieces_right hqs.symm
  have htext := congrArg writePieces hqs
  rw [writePieces_append, writePieces_pieces, writePieces_pieces, List.append_cancel_left_eq] at htext
  rw [← hqs, ← hright, htext]

theorem InHeader.pieces_remainder_append (h : InHeader a b) :
    pieces ((outline a).remainder ++ b) = pieces (outline a).remainder ++ pieces b := by
  obtain ⟨closed, hclosed⟩ := exists_pieces_remainder a
  have hwhole := h.pieces_eq
  rw [hclosed, List.append_assoc] at hwhole
  have hright := pieces_writePieces_right hwhole
  rwa [writePieces_append, writePieces_pieces, writePieces_pieces] at hright

theorem InHeader.closed_of_ne_nil (h : InHeader a b) (hb : b ≠ []) : CommentsClosed (pieces a) := by
  apply (reads_iff.2 h.pieces_eq.symm).commentsClosed
  intro hnil
  exact hb (by rw [← writePieces_pieces b, hnil]; rfl)

theorem commentsClosed_remainder (h : CommentsClosed (pieces a)) :
    CommentsClosed (pieces (outline a).remainder) := by
  obtain ⟨closed, hclosed⟩ := exists_pieces_remainder a
  rw [hclosed, commentsClosed_append] at h
  exact h.2

theorem splitRules_insert_comment {lead : List Piece} (h : .char '{' ∉ lead) (c : Text)
    (qs : List Piece) :
    ((splitRules (lead ++ qs)).1 = [] ∧ (splitRules (lead ++ .comment c :: qs)).1 = []) ∨
    ∃ (r : RawRule) (more : List RawRule),
      (splitRules (lead ++ qs)).1 = ⟨lead ++ r.header, r.inner⟩ :: more ∧
      (splitRules (lead ++ .comment c :: qs)).1
        = ⟨lead ++ .comment c :: r.header, r.inner⟩ :: more := by
  have hlead : .char '{' ∉ lead ++ [.comment c] := by simp [h]
  have hpieces : lead ++ .comment c :: qs = (lead ++ [.comment c]) ++ qs := by simp
  rw [hpieces, splitRules_append_left h, splitRules_append_left hlead]
  cases (splitRules qs).1 with
  | nil => exact .inl ⟨rfl, rfl⟩
  | cons r more => exact .inr ⟨r, more, rfl, by simp⟩

theorem toRule_insert_comment (p c : Text) (lead header inner : List Piece) :
    (⟨lead ++ .comment c :: header, inner⟩ : RawRule).toRule p
      = { (⟨lead ++ header, inner⟩ : RawRule).toRule p with
          comments := lead.filterMap Piece.comment? ++ c :: header.filterMap Piece.comment? } := by
  have hselectors : (⟨lead ++ .comment c :: header, inner⟩ : RawRule).selectors
      = (⟨lead ++ header, inner⟩ : RawRule).selectors := by
    rw [RawRule.selectors_eq, RawRule.selectors_eq, List.filterMap_append, List.filterMap_append]
    rfl
  have hcomments : (⟨lead ++ .comment c :: header, inner⟩ : RawRule).comments
      = lead.filterMap Piece.comment? ++ c :: header.filterMap Piece.comment? := by
    rw [RawRule.comments, List.filterMap_append]
    rfl
  simp only [RawRule.toRule, RawRule.isMedia, hselectors, hcomments]
  rfl

/-- With the comment `c` between `a` and `b` the rules are the same, apart from the first rule that is closed
after `a`, if there is one: it has the comment after those comments of its header that stand in `a`. -/
def AddsComment (p a b c : Text) : Prop :=
  ∃ later, rules p (a ++ b) = rules p a ++ later ∧
    ((later = [] ∧ rules p (a ++ c ++ b) = rules p a) ∨
      ∃ r more after, later = r :: more ∧ r.comments = openComments a ++ after ∧
        rules p (a ++ c ++ b)
          = rules p a ++ { r with comments := openComments a ++ c :: after } :: more)

theorem addsComment_of_closed (h : InHeader a b) (hc : ClosedComment c)
    (hclosed : CommentsClosed (pieces a)) (p : Text) : AddsComment p a b c := by
  have hslash : (c ++ b).head? ≠ some '*' := by
    obtain ⟨inner, rfl, _⟩ := hc
    simp
  have hpieces : pieces ((outline a).remainder ++ (c ++ b))
      = pieces (outline a).remainder ++ .comment c :: pieces b := by
    rw [pieces_append (commentsClosed_remainder hclosed) hslash, pieces_of_closedComment hc]
  have hrules := rules_eq p ((outline a).remainder ++ b)
  have hrules' := rules_eq p ((outline a).remainder ++ (c ++ b))
  rw [h.pieces_remainder_append] at hrules
  rw [hpieces] at hrules'
  refine ⟨_, rules_append_remainder p a b, ?_⟩
  rw [List.append_assoc, rules_append_remainder p a (c ++ b), hrules, hrules']
  rcases splitRules_insert_comment h.outside c (pieces b) with ⟨hnone, hnone'⟩ | ⟨r, more, hr, hr'⟩
  · rw [hnone, hnone']
    exact .inl ⟨rfl, List.append_nil _⟩
  · rw [hr, hr', List.map_cons, List.map_cons, toRule_insert_comment]
    refine .inr ⟨_, _, r.header.filterMap Piece.comment?, rfl, ?_, rfl⟩
    exact List.filterMap_append

theorem rules_append_eq_self_iff {lead inner : Text} (h : EndsInComment a lead inner)
    (houtside : .char '{' ∉ pieces (outline a).remainder) (p t : Text) :
    rules p (a ++ t) = rules p a ↔ rules p (splitComment (inner ++ t)).2 = [] := by
  have hnone := (splitRules_spec (pieces lead)).2.2
  have hbraceless := braceless_comment ('/' :: '*' :: inner)
  have ha := splitRules_append_pieces (pieces lead) [.comment ('/' :: '*' :: inner)]
  rw [← h.pieces_eq, splitRules_of_none (firstRule?_concat hbraceless hnone), List.append_nil] at ha
  have hlead : .char '{' ∉ (splitRules (pieces lead)).2 := by
    intro hm
    rw [pieces_remainder, ha] at houtside
    exact houtside (List.mem_append_left _ hm)
  have hcomment : .char '{' ∉ (splitRules (pieces lead)).2
      ++ [.comment ('/' :: '*' :: (splitComment (inner ++ t)).1)] := by simp [hlead]
  have hsplit := splitRules_append_pieces (pieces lead)
    (.comment ('/' :: '*' :: (splitComment (inner ++ t)).1) :: pieces (splitComment (inner ++ t)).2)
  have hlater := splitRules_append_left hcomment (pieces (splitComment (inner ++ t)).2)
  rw [List.append_assoc, List.singleton_append] at hlater
  rw [rules_eq, rules_eq, rules_eq, h.pieces_append_text, hsplit, ha, List.map_append,
    List.append_right_eq_self, List.map_eq_nil_iff, List.map_eq_nil_iff, hlater,
    List.modifyHead_eq_nil_iff]

/-- A comment more changes the comments of one rule and nothing else, unless it is put after a comment without
a closer and there are rules in what follows the first closer. -/
theorem addsComment_iff (h : InHeader a b) (hc : ClosedComment c) (p : Text) :
    AddsComment p a b c ↔
      ∀ lead inner, EndsInComment a lead inner → rules p (splitComment (inner ++ c)).2 = [] := by
  by_cases hclosed : CommentsClosed (pieces a)
  · refine iff_of_true (addsComment_of_closed h hc hclosed p) ?_
    intro lead inner hend
    exact absurd hclosed hend.not_closed
  · have hb : b = [] := by
      by_contra hne
      exact hclosed (h.closed_of_ne_nil hne)
    subst hb
    obtain ⟨lead, inner, hend⟩ := exists_endsInComment hclosed
    constructor
    · rintro ⟨later, hlater, hadds⟩ lead' inner' hend'
      rw [List.append_nil, List.self_eq_append_right] at hlater
      rw [← rules_append_eq_self_iff hend' h.outside, ← List.append_nil (a ++ c)]
      rcases hadds with ⟨_, hsame⟩ | ⟨r, more, _, hr, _⟩
      · exact hsame
      · rw [hlater] at hr
        nomatch hr
    · intro hnone
      have hsame := (rules_append_eq_self_iff hend h.outside p c).2 (hnone lead inner hend)
      refine ⟨[], by simp, .inl ⟨rfl, ?_⟩⟩
      rw [List.append_nil, hsame]

end

theorem addsComment_iff_after_slash :
    InHeader "p\x7b\x7d/*h*/x/".toList " ,y\x7b\x7d".toList ∧ ClosedComment "/*\x7d\x7b*/".toList ∧
    AddsComment ".s".toList "p\x7b\x7d/*h*/x/".toList " ,y\x7b\x7d".toList "/*\x7d\x7b*/".toList := by
  have hbefore : pieces "p\x7b\x7d/*h*/x/".toList
      = ['p', '{', '}'].map .char ++ (.comment "/*h*/".toList :: ['x', '/'].map .char) := by
    simp [pieces, splitComment]
  have hwhole : pieces ("p\x7b\x7d/*h*/x/".toList ++ " ,y\x7b\x7d".toList)
      = ['p', '{', '}'].map .char ++ (.comment "/*h*/".toList :: ['x', '/'].map .char)
        ++ [' ', ',', 'y', '{', '}'].map .char := by
    simp [pieces, splitComment]
  have hfirst : firstRule? (pieces "p\x7b\x7d/*h*/x/".toList)
      = some (⟨[.char 'p'], []⟩, .comment "/*h*/".toList :: ['x', '/'].map .char) := by
    rw [hbefore]
    decide
  have hend : splitRules (.comment "/*h*/".toList :: ['x', '/'].map Piece.char) = ([], _) :=
    splitRules_of_none (by decide)
  have hplace : InHeader "p\x7b\x7d/*h*/x/".toList " ,y\x7b\x7d".toList := by
    constructor
    · rw [hbefore, hwhole]
      exact List.prefix_append _ _
    · rw [pieces_remainder, splitRules_of_some hfirst, hend]
      decide
  have hcomment : ClosedComment "/*\x7d\x7b*/".toList := by
    refine ⟨['}', '{'], by decide, ?_⟩
    unfold HasCloser
    decide
  refine ⟨hplace, hcomment, (addsComment_iff hplace hcomment _).2 ?_⟩
  intro lead inner hopen
  refine absurd ?_ hopen.not_closed
  exact hplace.closed_of_ne_nil (by decide)

/-- After a comment without a closer the first closer in the new one ends it, and the rule in the new one is a
rule. -/
theorem comment_adds_rule :
    InHeader "/**".toList [] ∧ ClosedComment "/*a\x7b\x7d*/".toList ∧
    rules ".x".toList ("/**".toList ++ []) = [] ∧
    rules ".x".toList ("/**".toList ++ "/*a\x7b\x7d*/".toList ++ [])
      = [⟨["*a".toList], "\x7b\x7d".toList, ["/**/".toList]⟩] ∧
    ¬ AddsComment ".x".toList "/**".toList [] "/*a\x7b\x7d*/".toList := by
  have hpieces : pieces "/**".toList = [.comment "/**".toList] := by
    simp [pieces, splitComment]
  have hnone : firstRule? (pieces "/**".toList) = none := by
    rw [hpieces]
    decide
  have hplace : InHeader "/**".toList [] := by
    constructor
    · simp
    · rw [pieces_remainder, splitRules_of_none hnone, hpieces]
      decide
  have hcomment : ClosedComment "/*a\x7b\x7d*/".toList := by
    refine ⟨"a\x7b\x7d".toList, by decide, ?_⟩
    unfold HasCloser
    decide
  have halone : rules ".x".toList "/**".toList = [] := by
    rw [rules_eq, splitRules_of_none hnone, List.map_nil]
  have hrules : rules ".x".toList ("/**".toList ++ []) = [] := by rw [List.append_nil, halone]
  have hwhole : pieces ("/**".toList ++ "/*a\x7b\x7d*/".toList ++ [])
      = .comment "/**/".toList :: ['*', 'a', '{', '}', '*', '/'].map .char := by
    simp [pieces, splitComment]
  have hfirst : firstRule? (pieces ("/**".toList ++ "/*a\x7b\x7d*/".toList ++ []))
      = some (⟨.comment "/**/".toList :: ['*', 'a'].map .char, []⟩, ['*', '/'].map .char) := by
    rw [hwhole]
    decide
  have hrules' := rules_of_firstRule? hfirst (by decide) ".x".toList
  refine ⟨hplace, hcomment, hrules, ?_, ?_⟩
  · rw [hrules']
    decide +kernel
  · rintro ⟨later, hlater, ⟨_, hsame⟩ | ⟨r, more, _, hr, _⟩⟩
    · rw [hrules', halone] at hsame
      exact List.cons_ne_nil _ _ hsame
    · rw [hrules, hr] at hlater
      simp at hlater

end ScopedSheets
