import ScopedSheets.Fragment.Piece

/-!
# Reading a fragment

The rule by which a fragment is read, stated without a scan: a comment runs from its opener through the
first closer after the opener, or to the end of the text when no closer follows, and every other
character stands for itself. Each fragment has exactly one reading, its pieces (`reads_iff`). A reading
can be cut between any two pieces, and two texts that meet at a harmless place are read one after the
other (`pieces_append`).
-/

namespace ScopedSheets

def OpensComment (t : Text) : Prop := ['/', '*'] <+: t

def HasOpener (t : Text) : Prop := ['/', '*'] <:+: t

def HasCloser (t : Text) : Prop := ['*', '/'] <:+: t

theorem opensComment_iff {t : Text} : OpensComment t ↔ ∃ rest, t = '/' :: '*' :: rest := by
  constructor
  · rintro ⟨rest, rfl⟩
    exact ⟨rest, rfl⟩
  · rintro ⟨rest, rfl⟩
    exact ⟨rest, rfl⟩

theorem not_opensComment_of_ne {c : Char} (h : c ≠ '/') (t : Text) : ¬ OpensComment (c :: t) := by
  intro ho
  obtain ⟨rest, he⟩ := opensComment_iff.1 ho
  exact h (List.cons.inj he).1

theorem not_opensComment_of_append {a b : Text} (h : ¬ OpensComment (a ++ b)) :
    ¬ OpensComment a := by
  intro ho
  exact h (ho.trans (List.prefix_append a b))

theorem hasCloser_cons_iff {c : Char} {t : Text} :
    HasCloser (c :: t) ↔ (c = '*' ∧ t.head? = some '/') ∨ HasCloser t := by
  have head : ['*', '/'] <+: c :: t ↔ c = '*' ∧ t.head? = some '/' := by
    cases t with
    | nil => simp
    | cons d t => simp [List.cons_prefix_cons, eq_comm]
  rw [HasCloser, List.infix_cons_iff, head]
  rfl

theorem not_hasCloser_nil : ¬ HasCloser [] := by
  simp [HasCloser]

theorem hasCloser_append_closer (t : Text) : HasCloser (t ++ ['*', '/']) :=
  (List.suffix_append t _).isInfix

theorem splitComment_cons {c : Char} {t : Text} (h : ¬ (c = '*' ∧ t.head? = some '/')) :
    splitComment (c :: t) = (c :: (splitComment t).1, (splitComment t).2) := by
  rw [splitComment]
  intro rest hc ht
  exact h ⟨hc, by rw [ht]; rfl⟩

theorem splitComment_of_closer {inner : Text} (h : ¬ HasCloser (inner ++ ['*'])) (rest : Text) :
    splitComment (inner ++ '*' :: '/' :: rest) = (inner ++ ['*', '/'], rest) := by
  induction inner with
  | nil => rfl
  | cons c inner ih =>
    rw [List.cons_append, hasCloser_cons_iff, not_or] at h
    have hc : ¬ (c = '*' ∧ (inner ++ '*' :: '/' :: rest).head? = some '/') := by
      rintro ⟨rfl, hh⟩
      refine h.1 ⟨rfl, ?_⟩
      cases inner with
      | nil => simp at hh
      | cons d inner => exact hh
    rw [List.cons_append, splitComment_cons hc, ih h.2, List.cons_append]

theorem splitComment_of_not_hasCloser {t : Text} (h : ¬ HasCloser t) :
    splitComment t = (t, []) := by
  induction t with
  | nil => rfl
  | cons c t ih =>
    rw [hasCloser_cons_iff, not_or] at h
    rw [splitComment_cons h.1, ih h.2]

theorem exists_first_closer {t : Text} (h : HasCloser t) :
    ∃ inner rest, t = inner ++ '*' :: '/' :: rest ∧ ¬ HasCloser (inner ++ ['*']) := by
  induction t with
  | nil => exact absurd h not_hasCloser_nil
  | cons c t ih =>
    by_cases hc : c = '*' ∧ t.head? = some '/'
    · obtain ⟨rfl, hh⟩ := hc
      cases t with
      | nil => simp at hh
      | cons d t =>
        have hd : d = '/' := by simpa using hh
        subst hd
        exact ⟨[], t, rfl, by simp [hasCloser_cons_iff, not_hasCloser_nil]⟩
    · have ht : HasCloser t := (hasCloser_cons_iff.1 h).resolve_left hc
      obtain ⟨inner, rest, rfl, hfirst⟩ := ih ht
      refine ⟨c :: inner, rest, rfl, ?_⟩
      rw [List.cons_append, hasCloser_cons_iff, not_or]
      refine ⟨?_, hfirst⟩
      rintro ⟨rfl, hh⟩
      refine hc ⟨rfl, ?_⟩
      cases inner with
      | nil => simp at hh
      | cons d inner => exact hh

@[simp] theorem pieces_nil : pieces [] = [] := by
  rw [pieces]

theorem pieces_comment (t : Text) : pieces ('/' :: '*' :: t)
    = .comment ('/' :: '*' :: (splitComment t).1) :: pieces (splitComment t).2 := by
  rw [pieces]

theorem pieces_char {c : Char} {t : Text} (h : ¬ OpensComment (c :: t)) :
    pieces (c :: t) = .char c :: pieces t := by
  rw [pieces]
  intro rest hc ht
  exact h (opensComment_iff.2 ⟨rest, by rw [hc, ht]⟩)

theorem pieces_cons_of_ne {c : Char} (h : c ≠ '/') (t : Text) :
    pieces (c :: t) = .char c :: pieces t :=
  pieces_char (not_opensComment_of_ne h t)

/-! ### The rule of reading -/

/-- `Reads t ps`: read from left to right, the text `t` is the pieces `ps`. -/
inductive Reads : Text → List Piece → Prop
  | done : Reads [] []
  | comment {inner rest : Text} {ps : List Piece} :
      ¬ HasCloser (inner ++ ['*']) → Reads rest ps →
      Reads ('/' :: '*' :: (inner ++ '*' :: '/' :: rest))
        (.comment ('/' :: '*' :: (inner ++ ['*', '/'])) :: ps)
  | unclosed {inner : Text} :
      ¬ HasCloser inner → Reads ('/' :: '*' :: inner) [.comment ('/' :: '*' :: inner)]
  | char {c : Char} {rest : Text} {ps : List Piece} :
      ¬ OpensComment (c :: rest) → Reads rest ps → Reads (c :: rest) (.char c :: ps)

theorem eq_pieces_of_reads {t : Text} {ps : List Piece} (h : Reads t ps) : ps = pieces t := by
  induction h with
  | done => rw [pieces_nil]
  | comment hfirst _ ih => rw [pieces_comment, splitComment_of_closer hfirst, ih]
  | unclosed hnone => rw [pieces_comment, splitComment_of_not_hasCloser hnone, pieces_nil]
  | char hopen _ ih => rw [pieces_char hopen, ih]

theorem reads_pieces (t : Text) : Reads t (pieces t) := by
  fun_induction pieces t with
  | case1 => exact .done
  | case2 rest ih =>
    by_cases hc : HasCloser rest
    · obtain ⟨inner, tail, rfl, hfirst⟩ := exists_first_closer hc
      rw [splitComment_of_closer hfirst] at ih ⊢
      exact .comment hfirst ih
    · rw [splitComment_of_not_hasCloser hc, pieces_nil]
      exact .unclosed hc
  | case3 c rest hne ih =>
    refine .char ?_ ih
    intro ho
    obtain ⟨tail, he⟩ := opensComment_iff.1 ho
    obtain ⟨hc, ht⟩ := List.cons.inj he
    exact hne tail hc ht

theorem reads_iff {t : Text} {ps : List Piece} : Reads t ps ↔ ps = pieces t :=
  ⟨eq_pieces_of_reads, fun h => h ▸ reads_pieces t⟩

theorem eq_writePieces_of_reads {t : Text} {ps : List Piece} (h : Reads t ps) :
    t = writePieces ps := by
  rw [eq_pieces_of_reads h, writePieces_pieces]

theorem Reads.tail {t : Text} {p : Piece} {ps : List Piece} (h : Reads t (p :: ps)) :
    Reads (writePieces ps) ps := by
  cases h with
  | comment _ hr => exact eq_writePieces_of_reads hr ▸ hr
  | unclosed _ => exact .done
  | char _ hr => exact eq_writePieces_of_reads hr ▸ hr

theorem Reads.cons_of_prefix {t : Text} {p : Piece} {ps qs : List Piece}
    (h : Reads t (p :: ps)) (hq : qs <+: ps) (hr : Reads (writePieces qs) qs) :
    Reads (writePieces (p :: qs)) (p :: qs) := by
  cases h with
  | @comment inner rest _ hfirst _ =>
    have hw : writePieces (.comment ('/' :: '*' :: (inner ++ ['*', '/'])) :: qs)
        = '/' :: '*' :: (inner ++ '*' :: '/' :: writePieces qs) := by
      simp [Piece.text]
    rw [hw]
    exact .comment hfirst hr
  | @unclosed inner hnone =>
    have hnil : qs = [] := List.prefix_nil.1 hq
    subst hnil
    simpa [Piece.text] using Reads.unclosed hnone
  | @char c rest _ hopen htail =>
    obtain ⟨rs, rfl⟩ := hq
    rw [eq_writePieces_of_reads htail, writePieces_append] at hopen
    exact .char (not_opensComment_of_append (a := c :: writePieces qs) hopen) hr

theorem Reads.right {t : Text} {ps qs : List Piece} (h : Reads t (ps ++ qs)) :
    Reads (writePieces qs) qs := by
  induction ps generalizing t with
  | nil => exact eq_writePieces_of_reads h ▸ h
  | cons p ps ih => exact ih h.tail

theorem Reads.left {t : Text} {ps qs : List Piece} (h : Reads t (ps ++ qs)) :
    Reads (writePieces ps) ps := by
  induction ps generalizing t with
  | nil => exact .done
  | cons p ps ih => exact h.cons_of_prefix (List.prefix_append ps qs) (ih h.tail)

theorem pieces_writePieces_left {t : Text} {ps qs : List Piece} (h : pieces t = ps ++ qs) :
    pieces (writePieces ps) = ps :=
  (eq_pieces_of_reads (reads_iff.2 h.symm).left).symm

theorem pieces_writePieces_right {t : Text} {ps qs : List Piece} (h : pieces t = ps ++ qs) :
    pieces (writePieces qs) = qs :=
  (eq_pieces_of_reads (reads_iff.2 h.symm).right).symm

def ClosedComment (c : Text) : Prop :=
  ∃ inner, c = '/' :: '*' :: (inner ++ ['*', '/']) ∧ ¬ HasCloser (inner ++ ['*'])

def CommentsClosed (ps : List Piece) : Prop := ∀ c, .comment c ∈ ps → ClosedComment c

theorem commentsClosed_nil : CommentsClosed [] := by
  intro c hc
  simp at hc

theorem commentsClosed_append {ps qs : List Piece} :
    CommentsClosed (ps ++ qs) ↔ CommentsClosed ps ∧ CommentsClosed qs := by
  constructor
  · intro h
    exact ⟨fun c hc => h c (List.mem_append_left _ hc), fun c hc => h c (List.mem_append_right _ hc)⟩
  · rintro ⟨hp, hq⟩ c hc
    rcases List.mem_append.1 hc with hc | hc
    · exact hp c hc
    · exact hq c hc

theorem commentsClosed_map_char (t : Text) : CommentsClosed (t.map .char) := by
  intro c hc
  obtain ⟨d, _, hd⟩ := List.mem_map.1 hc
  nomatch hd

theorem Reads.head_closed {t c : Text} {ps : List Piece} (h : Reads t (.comment c :: ps))
    (hp : ps ≠ []) : ClosedComment c := by
  cases h with
  | comment hfirst _ => exact ⟨_, rfl, hfirst⟩
  | unclosed _ => exact absurd rfl hp

theorem Reads.commentsClosed {t : Text} {ps qs : List Piece} (h : Reads t (ps ++ qs))
    (hq : qs ≠ []) : CommentsClosed ps := by
  induction ps generalizing t with
  | nil => exact commentsClosed_nil
  | cons p ps ih =>
    intro c hc
    rcases List.mem_cons.1 hc with rfl | hc
    · exact h.head_closed (by simp [hq])
    · exact ih h.tail c hc

theorem Reads.append {a b : Text} {ps qs : List Piece} (ha : Reads a ps)
    (hclosed : CommentsClosed ps) (hb : Reads b qs) (hstar : b.head? ≠ some '*') :
    Reads (a ++ b) (ps ++ qs) := by
  induction ha with
  | done => exact hb
  | @comment inner rest ps hfirst _ ih =>
    have hps : CommentsClosed ps := fun c hc => hclosed c (List.mem_cons_of_mem _ hc)
    have hw : '/' :: '*' :: (inner ++ '*' :: '/' :: rest) ++ b
        = '/' :: '*' :: (inner ++ '*' :: '/' :: (rest ++ b)) := by simp
    rw [hw]
    exact .comment hfirst (ih hps)
  | @unclosed inner hnone =>
    obtain ⟨inner', he, _⟩ := hclosed _ (List.mem_cons_self ..)
    have hi : inner = inner' ++ ['*', '/'] := by simpa using he
    exact absurd (hi ▸ hasCloser_append_closer inner') hnone
  | @char c rest ps hopen _ ih =>
    have hps : CommentsClosed ps := fun d hd => hclosed d (List.mem_cons_of_mem _ hd)
    refine .char ?_ (ih hps)
    intro ho
    obtain ⟨tail, he⟩ := opensComment_iff.1 ho
    obtain ⟨rfl, ht⟩ := List.cons.inj he
    cases rest with
    | nil =>
      have hb : b = '*' :: tail := ht
      exact hstar (by rw [hb]; rfl)
    | cons d rest =>
      obtain ⟨rfl, _⟩ := List.cons.inj ht
      exact hopen (opensComment_iff.2 ⟨rest, rfl⟩)

theorem pieces_append {a b : Text} (ha : CommentsClosed (pieces a)) (hb : b.head? ≠ some '*') :
    pieces (a ++ b) = pieces a ++ pieces b :=
  (eq_pieces_of_reads ((reads_pieces a).append ha (reads_pieces b) hb)).symm

theorem pieces_of_closedComment {c : Text} (h : ClosedComment c) (rest : Text) :
    pieces (c ++ rest) = .comment c :: pieces rest := by
  obtain ⟨inner, rfl, hfirst⟩ := h
  have hread := Reads.comment hfirst (reads_pieces rest)
  have he := eq_pieces_of_reads hread
  rw [he]
  simp

theorem pieces_concat {t : Text} {c : Char} (hc : c ≠ '/')
    (h : CommentsClosed (pieces (t ++ [c]))) : pieces (t ++ [c]) = pieces t ++ [.char c] := by
  rcases List.eq_nil_or_concat (pieces (t ++ [c])) with hnil | ⟨ps, p, hps⟩
  · have hw := writePieces_pieces (t ++ [c])
    rw [hnil] at hw
    simp at hw
  · rw [List.concat_eq_append] at hps
    have hw := writePieces_pieces (t ++ [c])
    rw [hps, writePieces_append] at hw
    cases p with
    | comment d =>
      rw [hps] at h
      obtain ⟨inner, hd, _⟩ := h d (by simp)
      have hlast : (writePieces ps ++ '/' :: '*' :: (inner ++ ['*'])) ++ ['/'] = t ++ [c] := by
        rw [← hw, hd]
        simp [Piece.text]
      obtain ⟨_, hslash⟩ := List.append_inj' hlast rfl
      exact absurd (List.cons.inj hslash).1.symm hc
    | char d =>
      obtain ⟨ht, hd⟩ := List.append_inj' hw rfl
      have hleft := pieces_writePieces_left hps
      rw [ht] at hleft
      have hcd : d = c := by simpa [Piece.text] using hd
      rw [hps, ← hleft, hcd]

/-! ### Texts without an opener -/

theorem not_hasOpener_of_no_slash {t : Text} (h : '/' ∉ t) : ¬ HasOpener t :=
  fun ho => h (ho.subset (List.mem_cons_self ..))

theorem not_hasOpener_append {a b : Text} (ha : '/' ∉ a) (hb : ¬ HasOpener b) :
    ¬ HasOpener (a ++ b) := by
  induction a with
  | nil => exact hb
  | cons c a ih =>
    rw [List.mem_cons, not_or] at ha
    rw [HasOpener, List.cons_append, List.infix_cons_iff, not_or]
    exact ⟨not_opensComment_of_ne (Ne.symm ha.1) _, ih ha.2⟩

theorem pieces_of_not_hasOpener {t : Text} (h : ¬ HasOpener t) : pieces t = t.map .char := by
  induction t with
  | nil => rw [pieces_nil, List.map_nil]
  | cons c t ih =>
    rw [HasOpener, List.infix_cons_iff, not_or] at h
    rw [pieces_char h.1, ih h.2, List.map_cons]

theorem pieces_append_of_not_hasOpener {a b : Text} (ha : ¬ HasOpener a)
    (hb : b.head? ≠ some '*') : pieces (a ++ b) = a.map .char ++ pieces b := by
  have hpieces := pieces_of_not_hasOpener ha
  have hclosed : CommentsClosed (pieces a) := by
    rw [hpieces]
    exact commentsClosed_map_char a
  rw [pieces_append hclosed hb, hpieces]

theorem not_hasOpener_chars {t : Text} (h : ¬ ['/', '/', '*'] <:+: t) :
    ¬ HasOpener ((pieces t).filterMap Piece.char?) := by
  have key : ∀ {t ps}, Reads t ps → ¬ ['/', '/', '*'] <:+: t →
      ¬ HasOpener (ps.filterMap Piece.char?) := by
    intro t ps hr
    induction hr with
    | done => simp [HasOpener]
    | @comment inner rest ps _ _ ih =>
      intro h
      apply ih
      intro hin
      have hsuffix : rest <:+ '/' :: '*' :: (inner ++ '*' :: '/' :: rest) :=
        ⟨'/' :: '*' :: (inner ++ ['*', '/']), by simp⟩
      exact h (hin.trans hsuffix.isInfix)
    | unclosed _ =>
      intro _
      show ¬ HasOpener []
      simp [HasOpener]
    | @char c rest ps hopen htail ih =>
      intro h
      have hrest : ¬ ['/', '/', '*'] <:+: rest := fun hin => h (hin.trans (List.suffix_cons c rest).isInfix)
      show ¬ HasOpener (c :: ps.filterMap Piece.char?)
      rw [HasOpener, List.infix_cons_iff, not_or]
      refine ⟨?_, ih hrest⟩
      intro hpre
      obtain ⟨rfl, hstar⟩ := List.cons_prefix_cons.1 hpre
      -- the piece after the slash is neither a comment, which `h` excludes, nor the star
      cases htail with
      | done => simp at hstar
      | comment _ _ => exact h ⟨[], _, rfl⟩
      | unclosed _ => exact h ⟨[], _, rfl⟩
      | char _ _ =>
        obtain ⟨rfl, _⟩ := List.cons_prefix_cons.1 hstar
        exact hopen ⟨_, rfl⟩
  exact key (reads_pieces t) h

theorem prefix_append_cases {α : Type} {q a b : List α} (h : q <+: a ++ b) :
    q <+: a ∨ ∃ q', q = a ++ q' ∧ q' <+: b := by
  rcases List.prefix_or_prefix_of_prefix h (List.prefix_append a b) with hq | ⟨q', rfl⟩
  · exact Or.inl hq
  · exact Or.inr ⟨q', rfl, (List.prefix_append_right_inj a).1 h⟩

def Piece.Braceless (p : Piece) : Prop := p ≠ .char '{' ∧ p ≠ .char '}'

theorem braceless_comment (c : Text) : (Piece.comment c).Braceless := by
  simp [Piece.Braceless]

theorem braceless_of_prefix_comment {q inner : Text} (h : q <+: '/' :: '*' :: inner)
    (hnone : ¬ HasCloser inner) : ∀ p ∈ pieces q, p.Braceless := by
  intro p hp
  rcases q with - | ⟨c, - | ⟨d, q⟩⟩
  · simp at hp
  · obtain ⟨rfl, _⟩ := List.cons_prefix_cons.1 h
    have ho : ¬ OpensComment ['/'] := by simp [OpensComment, List.cons_prefix_cons]
    rw [pieces_char ho, pieces_nil, List.mem_singleton] at hp
    simp [hp, Piece.Braceless]
  · obtain ⟨rfl, hstar⟩ := List.cons_prefix_cons.1 h
    obtain ⟨rfl, hin⟩ := List.cons_prefix_cons.1 hstar
    have hq : ¬ HasCloser q := fun hc => hnone (hc.trans hin.isInfix)
    rw [pieces_comment, splitComment_of_not_hasCloser hq, pieces_nil, List.mem_singleton] at hp
    rw [hp]
    exact braceless_comment _

theorem exists_prefix_pieces {q t : Text} (h : q <+: t) :
    ∃ ps tail, ps <+: pieces t ∧ pieces q = ps ++ tail ∧ ∀ p ∈ tail, p.Braceless := by
  have key : ∀ {t ts}, Reads t ts → ∀ {q}, q <+: t →
      ∃ ps tail, ps <+: ts ∧ pieces q = ps ++ tail ∧ ∀ p ∈ tail, p.Braceless := by
    intro t ts hr
    induction hr with
    | done =>
      intro q hq
      exact ⟨[], [], List.prefix_rfl, by rw [List.prefix_nil.1 hq, pieces_nil]; rfl, by simp⟩
    | @comment inner rest ps hfirst _ ih =>
      intro q hq
      have hw : '/' :: '*' :: (inner ++ '*' :: '/' :: rest)
          = '/' :: '*' :: (inner ++ ['*']) ++ '/' :: rest := by simp
      rw [hw] at hq
      rcases prefix_append_cases hq with hin | ⟨q', rfl, hq'⟩
      · exact ⟨[], pieces q, List.nil_prefix, rfl, braceless_of_prefix_comment hin hfirst⟩
      · rcases q' with - | ⟨d, q'⟩
        · refine ⟨[], _, List.nil_prefix, rfl, braceless_of_prefix_comment ?_ hfirst⟩
          exact (List.append_nil _).symm ▸ List.prefix_rfl
        · obtain ⟨rfl, hrest⟩ := List.cons_prefix_cons.1 hq'
          obtain ⟨ps', tail, hps, he, htail⟩ := ih hrest
          have hread : Reads ('/' :: '*' :: (inner ++ '*' :: '/' :: q')) _ :=
            .comment hfirst (reads_pieces q')
          refine ⟨.comment ('/' :: '*' :: (inner ++ ['*', '/'])) :: ps', tail, by simpa using hps,
            ?_, htail⟩
          have hpieces := eq_pieces_of_reads hread
          rw [he] at hpieces
          simpa using hpieces.symm
    | @unclosed inner hnone =>
      intro q hq
      exact ⟨[], pieces q, List.nil_prefix, rfl, braceless_of_prefix_comment hq hnone⟩
    | @char c rest ps hopen _ ih =>
      intro q hq
      cases q with
      | nil => exact ⟨[], [], List.nil_prefix, by rw [pieces_nil]; rfl, by simp⟩
      | cons d q =>
        obtain ⟨rfl, hq'⟩ := List.cons_prefix_cons.1 hq
        obtain ⟨ps', tail, hps, he, htail⟩ := ih hq'
        obtain ⟨rest', rfl⟩ := hq'
        refine ⟨.char d :: ps', tail, by simpa using hps, ?_, htail⟩
        rw [pieces_char (not_opensComment_of_append (a := d :: q) hopen), he, List.cons_append]
  exact key (reads_pieces t) h

end ScopedSheets
