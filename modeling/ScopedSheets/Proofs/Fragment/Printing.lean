import ScopedSheets.Proofs.Fragment.Outline
import ScopedSheets.Proofs.Selector

/-!
# Reading a printed rule

A printed rule is read back by itself, whatever text follows it. Its comments end, its scoped selectors
bring no opener, no brace and no comma, and its body is enclosed by its own two braces; the line feeds
after it are blanks before the next header.
-/

namespace ScopedSheets

open Text (isSelectorBlank)

theorem not_mem_of_blank {t : Text} {c : Char} (h : ∀ d ∈ t, isSelectorBlank d)
    (hc : isSelectorBlank c = false) : c ∉ t := by
  intro hm
  rw [h c hm] at hc
  nomatch hc

theorem pieces_append_of_no_slash {a : Text} (h : '/' ∉ a) (b : Text) :
    pieces (a ++ b) = a.map .char ++ pieces b := by
  induction a with
  | nil => rfl
  | cons c a ih =>
    rw [List.mem_cons, not_or] at h
    rw [List.cons_append, pieces_cons_of_ne (Ne.symm h.1), ih h.2, List.map_cons, List.cons_append]

theorem chars_map_char (t : Text) : (t.map Piece.char).filterMap Piece.char? = t := by
  rw [List.filterMap_map]
  exact List.filterMap_some

theorem Piece.char?_eq_some_iff {p : Piece} {c : Char} : p.char? = some c ↔ p = .char c := by
  cases p <;> simp [Piece.char?]

theorem comments_map_char (t : Text) : (t.map Piece.char).filterMap Piece.comment? = [] := by
  rw [List.filterMap_map]
  exact List.filterMap_eq_nil_iff.2 fun _ _ => rfl

theorem open_not_mem_map_char {t : Text} (h : '{' ∉ t) : .char '{' ∉ t.map Piece.char := by
  intro hm
  obtain ⟨c, hc, he⟩ := List.mem_map.1 hm
  exact h (Piece.char.inj he ▸ hc)

theorem braceless_map_char {t : Text} (ho : '{' ∉ t) (hc : '}' ∉ t) :
    ∀ p ∈ t.map Piece.char, p.Braceless := by
  intro p hp
  obtain ⟨c, hmem, rfl⟩ := List.mem_map.1 hp
  constructor
  · intro he
    exact ho (Piece.char.inj he ▸ hmem)
  · intro he
    exact hc (Piece.char.inj he ▸ hmem)

theorem Text.dropLastIf_cases (c : Char) (t : Text) :
    t.dropLastIf c = t ∨ t = t.dropLastIf c ++ [c] := by
  rw [dropLastIf]
  split
  · next h =>
    obtain ⟨init, rfl⟩ := List.getLast?_eq_some_iff.1 h
    rw [List.dropLast_concat]
    exact Or.inr rfl
  · exact Or.inl rfl

/-- A text that can stand between two braces: its braces pair up and its comments end. -/
structure Enclosable (t : Text) : Prop where
  balanced : Balanced (pieces t)
  closed : CommentsClosed (pieces t)

theorem enclosable_nil : Enclosable [] := by
  constructor
  · rw [pieces_nil]
    exact balanced_nil
  · rw [pieces_nil]
    exact commentsClosed_nil

theorem Enclosable.pieces_braced {t : Text} (h : Enclosable t) (rest : Text) :
    pieces (braced t ++ rest) = .char '{' :: (pieces t ++ .char '}' :: pieces rest) := by
  have hw : braced t ++ rest = '{' :: (t ++ '}' :: rest) := by simp [braced]
  rw [hw, pieces_cons_of_ne (by decide), pieces_append h.closed (by simp),
    pieces_cons_of_ne (by decide)]

theorem Enclosable.append_left {lead t : Text} (h : Enclosable t)
    (hlead : ∀ c ∈ lead, isSelectorBlank c) : Enclosable (lead ++ t) := by
  have hpieces := pieces_append_of_no_slash (not_mem_of_blank hlead (by decide)) t
  constructor
  · rw [hpieces]
    refine (balanced_of_braceless (braceless_map_char ?_ ?_)).append h.balanced
    · exact not_mem_of_blank hlead (by decide)
    · exact not_mem_of_blank hlead (by decide)
  · rw [hpieces, commentsClosed_append]
    exact ⟨commentsClosed_map_char lead, h.closed⟩

theorem Enclosable.dropLastIf {t : Text} (h : Enclosable t) : Enclosable (t.dropLastIf '\n') := by
  rcases Text.dropLastIf_cases '\n' t with he | he
  · rw [he]
    exact h
  · rw [he] at h
    have hpieces := pieces_concat (by decide) h.closed
    have hbraceless : ∀ p ∈ [Piece.char '\n'], p.Braceless := by simp [Piece.Braceless]
    constructor
    · have hbal := h.balanced
      rw [hpieces] at hbal
      exact hbal.of_append hbraceless
    · have hclosed := h.closed
      rw [hpieces, commentsClosed_append] at hclosed
      exact hclosed.1

section

variable {f : Text} {r : RawRule}

theorem commentsClosed_of_mem (h : r ∈ (splitRules (pieces f)).1) :
    CommentsClosed r.header ∧ CommentsClosed r.inner := by
  obtain ⟨before, after, hf⟩ := exists_around h
  have hread : Reads f ((before ++ r.header ++ .char '{' :: r.inner) ++ .char '}' :: after) :=
    reads_iff.2 (by rw [hf]; simp)
  have hclosed := hread.commentsClosed (List.cons_ne_nil _ _)
  rw [← List.singleton_append, commentsClosed_append, commentsClosed_append,
    commentsClosed_append] at hclosed
  exact ⟨hclosed.1.2, hclosed.2.2⟩

theorem pieces_innerText (h : r ∈ (splitRules (pieces f)).1) : pieces r.innerText = r.inner := by
  obtain ⟨before, after, hf⟩ := exists_around h
  have hw : pieces f = (before ++ (r.header ++ [.char '{'])) ++ (r.inner ++ (.char '}' :: after)) := by
    rw [hf]
    simp
  exact pieces_writePieces_of_eq hw

theorem infix_of_mem (h : r ∈ (splitRules (pieces f)).1) :
    writePieces r.header <:+: f ∧ r.innerText <:+: f := by
  obtain ⟨before, after, hf⟩ := exists_around h
  have hw := congrArg writePieces hf
  rw [writePieces_pieces] at hw
  constructor
  · refine ⟨writePieces before, writePieces (.char '{' :: (r.inner ++ [.char '}']) ++ after), ?_⟩
    rw [hw]
    simp
  · refine ⟨writePieces (before ++ (r.header ++ [.char '{'])), writePieces (.char '}' :: after), ?_⟩
    rw [hw, RawRule.innerText]
    simp

theorem enclosable_innerText (h : r ∈ (splitRules (pieces f)).1) : Enclosable r.innerText := by
  have hinner := pieces_innerText h
  constructor
  · rw [hinner]
    exact ((splitRules_spec (pieces f)).2.1 r h).2
  · rw [hinner]
    exact (commentsClosed_of_mem h).2

theorem char_mem_header {s : Text} {c : Char} (hs : s ∈ r.selectors) (hc : c ∈ s) :
    .char c ∈ r.header := by
  have hmem := (mem_selectorList hs).1.subset hc
  obtain ⟨piece, hpiece, he⟩ := List.mem_filterMap.1 hmem
  rwa [← Piece.char?_eq_some_iff.1 he]

theorem comment_mem_header {c : Text} (h : c ∈ r.comments) : .comment c ∈ r.header := by
  obtain ⟨piece, hpiece, he⟩ := List.mem_filterMap.1 h
  cases piece with
  | comment d =>
    obtain rfl := Option.some.inj he
    exact hpiece
  | char _ => nomatch he

theorem selector_subset_header {s : Text} (hs : s ∈ r.selectors) : s ⊆ writePieces r.header :=
  fun _ hc => List.mem_flatMap.2 ⟨_, char_mem_header hs hc, List.mem_cons_self ..⟩

theorem comment_subset_header {c : Text} (h : c ∈ r.comments) : c ⊆ writePieces r.header :=
  fun _ hd => List.mem_flatMap.2 ⟨_, comment_mem_header h, hd⟩

theorem length_innerText_lt (h : r ∈ (splitRules (pieces f)).1) : r.innerText.length < f.length := by
  have hlen := length_inner_lt h
  rw [writePieces_pieces] at hlen
  exact hlen

end

theorem rules_append_chars {lead t : Text} (hopen : '{' ∉ lead)
    (hpieces : pieces (lead ++ t) = lead.map .char ++ pieces t) (scope : Text) :
    (rules scope t = [] ∧ rules scope (lead ++ t) = []) ∨
    ∃ (r : RawRule) (rest : List Rule), rules scope t = r.toRule scope :: rest ∧
      rules scope (lead ++ t)
        = (⟨lead.map .char ++ r.header, r.inner⟩ : RawRule).toRule scope :: rest := by
  rw [rules_eq, rules_eq, hpieces, splitRules_append_left (open_not_mem_map_char hopen)]
  cases (splitRules (pieces t)).1 with
  | nil => exact Or.inl ⟨rfl, rfl⟩
  | cons r rest => exact Or.inr ⟨r, rest.map (RawRule.toRule scope), rfl, rfl⟩

theorem comments_append_chars (lead : Text) (r : RawRule) :
    (⟨lead.map .char ++ r.header, r.inner⟩ : RawRule).comments = r.comments := by
  rw [RawRule.comments, RawRule.comments, List.filterMap_append, comments_map_char, List.nil_append]

theorem toRule_append_left {lead : Text} (h : ∀ c ∈ lead, isSelectorBlank c) (scope : Text)
    (r : RawRule) : (⟨lead.map .char ++ r.header, r.inner⟩ : RawRule).toRule scope
      = r.toRule scope := by
  have hselectors : (⟨lead.map .char ++ r.header, r.inner⟩ : RawRule).selectors = r.selectors := by
    rw [RawRule.selectors_eq, RawRule.selectors_eq, List.filterMap_append, chars_map_char,
      selectorList_append_left h]
  simp only [RawRule.toRule, RawRule.isMedia, hselectors, comments_append_chars]
  rfl

theorem rules_append_left {lead : Text} (h : ∀ c ∈ lead, isSelectorBlank c) (scope t : Text) :
    rules scope (lead ++ t) = rules scope t := by
  have hpieces := pieces_append_of_no_slash (not_mem_of_blank h (by decide)) t
  rcases rules_append_chars (not_mem_of_blank h (by decide)) hpieces scope with
    ⟨hnone, hnone'⟩ | ⟨r, rest, hsome, hsome'⟩
  · rw [hnone, hnone']
  · rw [hsome, hsome', toRule_append_left h]

theorem rules_dropLastIf {t : Text} (h : CommentsClosed (pieces t)) (scope : Text) :
    rules scope (t.dropLastIf '\n') = rules scope t := by
  rcases Text.dropLastIf_cases '\n' t with he | he
  · rw [he]
  · rw [he] at h
    have hbraceless : (Piece.char '\n').Braceless := by simp [Piece.Braceless]
    conv => rhs; rw [he]
    rw [rules_eq, rules_eq, pieces_concat (by decide) h, splitRules_concat hbraceless]

theorem rules_mediaBody {t : Text} (h : CommentsClosed (pieces t)) (scope : Text) :
    rules scope ("\n    ".toList ++ t.dropLastIf '\n') = rules scope t := by
  rw [rules_append_left (List.all_eq_true.1 rfl), rules_dropLastIf h]

section

variable {header t : Text}

theorem pieces_headed (hclosed : CommentsClosed (pieces header)) (ht : Enclosable t) :
    pieces (header ++ braced t)
      = pieces header ++ .char '{' :: (pieces t ++ .char '}' :: []) := by
  have hhead : (braced t).head? ≠ some '*' := by simp [braced]
  have hbody := ht.pieces_braced []
  rw [List.append_nil, pieces_nil] at hbody
  rw [pieces_append hclosed hhead, hbody]

theorem commentsClosed_of_not_hasOpener (h : ¬ HasOpener header) : CommentsClosed (pieces header) := by
  rw [pieces_of_not_hasOpener h]
  exact commentsClosed_map_char header

theorem Enclosable.headed (hopen : '{' ∉ header) (hclose : '}' ∉ header) (hnone : ¬ HasOpener header)
    (ht : Enclosable t) : Enclosable (header ++ braced t) := by
  have hpieces := pieces_headed (commentsClosed_of_not_hasOpener hnone) ht
  rw [pieces_of_not_hasOpener hnone] at hpieces
  have hchars := balanced_of_braceless (braceless_map_char hopen hclose)
  constructor
  · rw [hpieces]
    exact hchars.append ht.balanced.enclose
  · intro c hc
    rw [hpieces] at hc
    have hmem : .comment c ∈ pieces t := by simpa using hc
    exact ht.closed c hmem

theorem rules_header_braced (hopen : .char '{' ∉ pieces header) (hclosed : CommentsClosed (pieces header))
    (ht : Enclosable t) (p : Text) :
    rules p (header ++ braced t) = [(⟨pieces header, pieces t⟩ : RawRule).toRule p] := by
  have hsplit := splitRules_append (r := ⟨pieces header, pieces t⟩) hopen ht.balanced []
  rw [rules_eq, pieces_headed hclosed ht, hsplit, splitRules_of_none rfl]
  rfl

def EndsInMedia (header : Text) : Prop :=
  ∃ s, (selectorList header).getLast? = some s ∧ "@media".toList <+: s

theorem toRule_map_char (p : Text) : (⟨header.map .char, pieces t⟩ : RawRule).toRule p
    = ⟨selectorList header,
        if (⟨header.map .char, pieces t⟩ : RawRule).isMedia then mediaBody (applyScope p t)
        else braced t, []⟩ := by
  have hselectors : (⟨header.map .char, pieces t⟩ : RawRule).selectors = selectorList header :=
    congrArg selectorList (chars_map_char header)
  have hinner : (⟨header.map .char, pieces t⟩ : RawRule).innerText = t := writePieces_pieces t
  rw [RawRule.toRule, hselectors, hinner, RawRule.comments, comments_map_char]

theorem endsInMedia_iff :
    (selectorList header).getLast?.any "@media".toList.isPrefixOf = true ↔ EndsInMedia header := by
  rw [Option.any_eq_true, EndsInMedia]
  exact exists_congr fun s => and_congr_right fun _ => List.isPrefixOf_iff_prefix

instance (header : Text) : Decidable (EndsInMedia header) := decidable_of_iff _ endsInMedia_iff

theorem isMedia_map_char_iff {inner : List Piece} :
    (⟨header.map .char, inner⟩ : RawRule).isMedia = true ↔ EndsInMedia header := by
  have hselectors : (⟨header.map .char, inner⟩ : RawRule).selectors = selectorList header :=
    congrArg selectorList (chars_map_char header)
  rw [RawRule.isMedia, hselectors, endsInMedia_iff]

theorem rules_headed (hopen : '{' ∉ header) (hnone : ¬ HasOpener header) (ht : Enclosable t)
    (p : Text) :
    rules p (header ++ braced t) = [(⟨header.map .char, pieces t⟩ : RawRule).toRule p] := by
  have hclosed := commentsClosed_of_not_hasOpener hnone
  have hpieces := pieces_of_not_hasOpener hnone
  rw [← hpieces]
  exact rules_header_braced (hpieces ▸ open_not_mem_map_char hopen) hclosed ht p

theorem rules_headed_media (hopen : '{' ∉ header) (hnone : ¬ HasOpener header) (ht : Enclosable t)
    (hmedia : EndsInMedia header) (p : Text) :
    rules p (header ++ braced t) = [⟨selectorList header, mediaBody (applyScope p t), []⟩] := by
  rw [rules_headed hopen hnone ht, toRule_map_char, if_pos (isMedia_map_char_iff.2 hmedia)]

theorem rules_headed_plain (hopen : '{' ∉ header) (hnone : ¬ HasOpener header) (ht : Enclosable t)
    (hmedia : ¬ EndsInMedia header) (p : Text) :
    rules p (header ++ braced t) = [⟨selectorList header, braced t, []⟩] := by
  rw [rules_headed hopen hnone ht, toRule_map_char, if_neg fun h => hmedia (isMedia_map_char_iff.1 h)]

end

/-! ### The pieces of a printed rule -/

/-- A scope that brings no comma, no brace and no slash into a header. -/
structure PlainScope (scope : Text) : Prop where
  no_comma : ',' ∉ scope
  no_open : '{' ∉ scope
  no_close : '}' ∉ scope
  no_slash : '/' ∉ scope

def Rule.inner (r : Rule) : Text := r.body.tail.dropLast

/-- A rule that can be read back when it is printed. -/
structure Rule.Printable (r : Rule) : Prop where
  comments_closed : ∀ c ∈ r.comments, ClosedComment c
  selectors_ne_nil : r.selectors ≠ []
  no_comma : ∀ s ∈ r.selectors, ',' ∉ s
  no_open : ∀ s ∈ r.selectors, '{' ∉ s
  no_opener : ∀ s ∈ r.selectors, ¬ HasOpener s
  body_eq : r.body = braced r.inner
  enclosable : Enclosable r.inner

def commentLines (comments : List Text) : List Piece :=
  comments.flatMap fun c => [.comment c, .char '\n']

theorem pieces_commentLines {comments : List Text} (h : ∀ c ∈ comments, ClosedComment c)
    (rest : Text) :
    pieces (comments.flatMap (· ++ ['\n']) ++ rest) = commentLines comments ++ pieces rest := by
  induction comments with
  | nil => rfl
  | cons c comments ih =>
    have hw : (c :: comments).flatMap (· ++ ['\n']) ++ rest
        = c ++ '\n' :: (comments.flatMap (· ++ ['\n']) ++ rest) := by simp
    rw [hw, pieces_of_closedComment (h c (List.mem_cons_self ..)), pieces_cons_of_ne (by decide),
      ih fun d hd => h d (List.mem_cons_of_mem _ hd)]
    rfl

theorem comments_commentLines (comments : List Text) :
    (commentLines comments).filterMap Piece.comment? = comments := by
  induction comments with
  | nil => rfl
  | cons c comments ih =>
    show c :: (commentLines comments).filterMap Piece.comment? = c :: comments
    rw [ih]

theorem chars_commentLines (comments : List Text) :
    (commentLines comments).filterMap Piece.char? = List.replicate comments.length '\n' := by
  induction comments with
  | nil => rfl
  | cons c comments ih =>
    show '\n' :: (commentLines comments).filterMap Piece.char? = _
    rw [ih]
    rfl

theorem braceless_commentLines (comments : List Text) :
    ∀ p ∈ commentLines comments, p.Braceless := by
  intro p hp
  obtain ⟨c, _, hp⟩ := List.mem_flatMap.1 hp
  rcases List.mem_cons.1 hp with rfl | hp
  · exact braceless_comment c
  · rw [List.mem_singleton.1 hp]
    simp [Piece.Braceless]

def selectorLines (ss : List Text) : Text := ",\n".toList.intercalate ss ++ [' ']

theorem selectorLines_cons_cons (s s₂ : Text) (ss : List Text) :
    selectorLines (s :: s₂ :: ss) = s ++ ',' :: '\n' :: selectorLines (s₂ :: ss) := by
  rw [selectorLines, List.intercalate_cons_cons, selectorLines]
  simp

theorem pieces_selectorLines {ss : List Text} (h : ∀ s ∈ ss, ¬ HasOpener s) (rest : Text) :
    pieces (selectorLines ss ++ rest) = (selectorLines ss).map .char ++ pieces rest := by
  induction ss with
  | nil =>
    show pieces (' ' :: rest) = .char ' ' :: pieces rest
    exact pieces_cons_of_ne (by decide) rest
  | cons s ss ih =>
    have hs := h s (List.mem_cons_self ..)
    cases ss with
    | nil =>
      have hw : selectorLines [s] = s ++ [' '] := by rw [selectorLines, List.intercalate_singleton]
      rw [hw, List.append_assoc, pieces_append_of_not_hasOpener hs (by simp), List.singleton_append,
        pieces_cons_of_ne (by decide)]
      simp
    | cons s₂ ss =>
      have hrest := ih fun d hd => h d (List.mem_cons_of_mem _ hd)
      rw [selectorLines_cons_cons, List.append_assoc, pieces_append_of_not_hasOpener hs (by simp),
        List.cons_append, List.cons_append, pieces_cons_of_ne (by decide),
        pieces_cons_of_ne (by decide), hrest]
      simp

theorem mem_selectorLines {ss : List Text} {c : Char} (h : c ∈ selectorLines ss) :
    (∃ s ∈ ss, c ∈ s) ∨ c = ',' ∨ c = '\n' ∨ c = ' ' := by
  rcases List.mem_append.1 h with h | h
  · rcases Text.mem_intercalate h with h | h
    · have hc : c = ',' ∨ c = '\n' := by simpa using h
      exact Or.inr (hc.imp_right Or.inl)
    · exact Or.inl h
  · exact Or.inr (Or.inr (Or.inr (List.mem_singleton.1 h)))

def Rule.header (scope : Text) (r : Rule) : List Piece :=
  commentLines r.comments ++ (selectorLines (r.selectors.map (scopeSelector scope))).map .char

theorem not_hasOpener_scopeSelector {scope s : Text} (hscope : '/' ∉ scope) (hs : ¬ HasOpener s) :
    ¬ HasOpener (scopeSelector scope s) := by
  obtain ⟨lead, rest, he, hrest, hlead⟩ := scopeSelector_eq_append scope s
  rw [he]
  apply not_hasOpener_append
  · intro h
    rcases hlead _ h with h | h | h
    · exact hscope h
    · exact absurd h (by decide)
    · exact absurd h (by decide)
  · intro ho
    exact hs (ho.trans hrest.isInfix)

theorem Rule.not_mem_selectorLines {scope : Text} {r : Rule} {c : Char} (hscope : c ∉ scope)
    (h : ∀ s ∈ r.selectors, c ∉ s) (hc : c = '{' ∨ c = '}') :
    c ∉ selectorLines (r.selectors.map (scopeSelector scope)) := by
  have hne : c ≠ '-' ∧ c ≠ ' ' ∧ c ≠ ',' ∧ c ≠ '\n' := by
    rcases hc with rfl | rfl
    · decide
    · decide
  intro hm
  rcases mem_selectorLines hm with ⟨s, hs, hcs⟩ | hcs | hcs | hcs
  · obtain ⟨s', hs', rfl⟩ := List.mem_map.1 hs
    exact not_mem_scopeSelector hscope (h s' hs') hne.1 hne.2.1 hcs
  · exact hne.2.2.1 hcs
  · exact hne.2.2.2 hcs
  · exact hne.2.1 hcs

theorem Rule.comments_header (r : Rule) (scope : Text) (inner : List Piece) :
    (⟨r.header scope, inner⟩ : RawRule).comments = r.comments := by
  rw [RawRule.comments, Rule.header, List.filterMap_append, comments_commentLines, comments_map_char,
    List.append_nil]

namespace Rule.Printable

variable {scope : Text} {r : Rule}

theorem pieces_render_append (h : r.Printable) (hscope : PlainScope scope) (rest : Text) :
    pieces (r.render scope ++ rest) = r.header scope
      ++ .char '{' :: (pieces r.inner ++ .char '}' :: pieces ("\n\n".toList ++ rest)) := by
  have hw : r.render scope ++ rest = r.comments.flatMap (· ++ ['\n'])
      ++ (selectorLines (r.selectors.map (scopeSelector scope))
        ++ (braced r.inner ++ ("\n\n".toList ++ rest))) := by
    rw [Rule.render, h.body_eq, selectorLines]
    simp
  have hopener : ∀ s ∈ r.selectors.map (scopeSelector scope), ¬ HasOpener s := by
    intro s hs
    obtain ⟨s', hs', rfl⟩ := List.mem_map.1 hs
    exact not_hasOpener_scopeSelector hscope.no_slash (h.no_opener s' hs')
  rw [hw, pieces_commentLines h.comments_closed, pieces_selectorLines hopener,
    h.enclosable.pieces_braced, ← List.append_assoc, Rule.header]

theorem open_not_mem_header (h : r.Printable) (hscope : PlainScope scope) :
    .char '{' ∉ r.header scope := by
  intro hm
  rcases List.mem_append.1 hm with hm | hm
  · exact (braceless_commentLines r.comments _ hm).1 rfl
  · refine open_not_mem_map_char ?_ hm
    exact Rule.not_mem_selectorLines hscope.no_open h.no_open (Or.inl rfl)

theorem selectors_header (h : r.Printable) (hscope : PlainScope scope) (inner : List Piece) :
    (⟨r.header scope, inner⟩ : RawRule).selectors
      = r.selectors.map fun s => Text.trim isSelectorBlank (scopeSelector scope s) := by
  have hchars : (r.header scope).filterMap Piece.char? = List.replicate r.comments.length '\n'
      ++ selectorLines (r.selectors.map (scopeSelector scope)) := by
    rw [Rule.header, List.filterMap_append, chars_commentLines, chars_map_char]
  have hblank : ∀ c ∈ List.replicate r.comments.length '\n', isSelectorBlank c := by
    intro c hc
    rw [List.eq_of_mem_replicate hc]
    rfl
  have hcomma : ∀ s ∈ r.selectors.map (scopeSelector scope), ',' ∉ s := by
    intro s hs
    obtain ⟨s', hs', rfl⟩ := List.mem_map.1 hs
    exact not_mem_scopeSelector hscope.no_comma (h.no_comma s' hs') (by decide) (by decide)
  have hne : r.selectors.map (scopeSelector scope) ≠ [] := by
    rw [Ne, List.map_eq_nil_iff]
    exact h.selectors_ne_nil
  rw [RawRule.selectors_eq, hchars, selectorList_append_left hblank, selectorLines,
    selectorList_intercalate hne hcomma, List.map_map]
  rfl

end Rule.Printable

/-! ### Reading printed rules back -/

/-- `r'` is what the rule `r`, printed under the scope `p`, is read back as in the block of `q`. -/
structure Rule.IsReread (p q : Text) (r r' : Rule) : Prop where
  comments : r'.comments = r.comments
  selectors : r'.selectors
    = r.selectors.map fun s => Text.trim isSelectorBlank (scopeSelector p s)
  body_media : r'.IsMedia →
    r'.body = '{' :: ("\n    ".toList ++ (applyScope q r.inner).dropLastIf '\n' ++ ['}'])
  body_plain : ¬ r'.IsMedia → r'.body = r.body

variable {p : Text}

theorem Rule.Printable.isReread_toRule {r : Rule} (h : r.Printable) (hp : PlainScope p) (q : Text) :
    r.IsReread p q ((⟨r.header p, pieces r.inner⟩ : RawRule).toRule q) := by
  have hinner : (⟨r.header p, pieces r.inner⟩ : RawRule).innerText = r.inner :=
    writePieces_pieces r.inner
  have hmedia : (⟨r.header p, pieces r.inner⟩ : RawRule).isMedia = true
      ↔ ((⟨r.header p, pieces r.inner⟩ : RawRule).toRule q).IsMedia := isMedia_iff rfl
  refine ⟨r.comments_header p _, h.selectors_header hp _, ?_, ?_⟩
  · intro hm
    rw [RawRule.toRule, hinner, if_pos (hmedia.2 hm)]
    simp [mediaBody, braced]
  · intro hm
    rw [RawRule.toRule, hinner, if_neg fun hr => hm (hmedia.1 hr)]
    exact h.body_eq.symm

theorem Rule.Printable.rules_render_append {r : Rule} (h : r.Printable) (hp : PlainScope p)
    (q rest : Text) :
    ∃ r', rules q (r.render p ++ rest) = r' :: rules q rest ∧ r.IsReread p q r' := by
  refine ⟨(⟨r.header p, pieces r.inner⟩ : RawRule).toRule q, ?_, h.isReread_toRule hp q⟩
  have hsplit := splitRules_append (r := ⟨r.header p, pieces r.inner⟩) (h.open_not_mem_header hp)
    h.enclosable.balanced (pieces ("\n\n".toList ++ rest))
  have hrest : rules q ("\n\n".toList ++ rest) = rules q rest :=
    rules_append_left (List.all_eq_true.1 rfl) q rest
  rw [← hrest, rules_eq, rules_eq, h.pieces_render_append hp, hsplit, List.map_cons]

theorem flatMap_render_ends (scope : Text) (rs : List Rule) :
    rs.flatMap (Rule.render scope) = [] ∨
      ∃ init, rs.flatMap (Rule.render scope) = init ++ "\n\n".toList := by
  rcases List.eq_nil_or_concat rs with rfl | ⟨rs, r, rfl⟩
  · exact Or.inl rfl
  · rw [List.concat_eq_append, List.flatMap_append, List.flatMap_singleton, Rule.render,
      ← List.append_assoc]
    exact Or.inr ⟨_, rfl⟩

theorem rules_flatMap_render {rs : List Rule} (h : ∀ r ∈ rs, r.Printable) (hp : PlainScope p)
    (q : Text) : List.Forall₂ (Rule.IsReread p q) rs (rules q (rs.flatMap (Rule.render p))) := by
  induction rs with
  | nil =>
    rw [rules_eq, List.flatMap_nil, pieces_nil, splitRules_of_none rfl]
    exact .nil
  | cons r rs ih =>
    obtain ⟨r', hrules, hr'⟩ := (h r (List.mem_cons_self ..)).rules_render_append hp q
      (rs.flatMap (Rule.render p))
    rw [List.flatMap_cons, hrules]
    exact .cons hr' (ih fun r₂ hr₂ => h r₂ (List.mem_cons_of_mem _ hr₂))

theorem enclosable_flatMap_render {rs : List Rule} (h : ∀ r ∈ rs, r.Printable)
    (hclose : ∀ r ∈ rs, ∀ s ∈ r.selectors, '}' ∉ s) (hp : PlainScope p) :
    Enclosable (rs.flatMap (Rule.render p)) := by
  induction rs with
  | nil => exact enclosable_nil
  | cons r rs ih =>
    have hr := h r (List.mem_cons_self ..)
    have hblank : ∀ c ∈ "\n\n".toList, isSelectorBlank c := List.all_eq_true.1 rfl
    have hrest := (ih (fun r₂ hr₂ => h r₂ (List.mem_cons_of_mem _ hr₂))
      (fun r₂ hr₂ => hclose r₂ (List.mem_cons_of_mem _ hr₂))).append_left hblank
    have hheader : ∀ x ∈ r.header p, x.Braceless := by
      intro x hx
      rcases List.mem_append.1 hx with hx | hx
      · exact braceless_commentLines r.comments x hx
      · refine braceless_map_char ?_ ?_ x hx
        · exact Rule.not_mem_selectorLines hp.no_open hr.no_open (Or.inl rfl)
        · exact Rule.not_mem_selectorLines hp.no_close (hclose r (List.mem_cons_self ..)) (Or.inr rfl)
    have hpieces : pieces ((r :: rs).flatMap (Rule.render p)) = r.header p
        ++ ((.char '{' :: pieces r.inner ++ [.char '}'])
          ++ pieces ("\n\n".toList ++ rs.flatMap (Rule.render p))) := by
      rw [List.flatMap_cons, hr.pieces_render_append hp]
      simp
    constructor
    · rw [hpieces]
      exact (balanced_of_braceless hheader).append (hr.enclosable.balanced.enclose.append hrest.balanced)
    · have hcomments : CommentsClosed (r.header p) := by
        rw [Rule.header, commentsClosed_append]
        refine ⟨?_, commentsClosed_map_char _⟩
        intro c hc
        have hmem : c ∈ (commentLines r.comments).filterMap Piece.comment? :=
          List.mem_filterMap.2 ⟨.comment c, hc, rfl⟩
        rw [comments_commentLines] at hmem
        exact hr.comments_closed c hmem
      have hbraces : CommentsClosed (.char '{' :: pieces r.inner ++ [.char '}']) := by
        intro c hc
        have hmem : .comment c ∈ pieces r.inner := by simpa using hc
        exact hr.enclosable.closed c hmem
      rw [hpieces, commentsClosed_append, commentsClosed_append]
      exact ⟨hcomments, hbraces, hrest.closed⟩

end ScopedSheets
