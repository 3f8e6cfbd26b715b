import ScopedSheets.Proofs.Fragment.Printing

/-!
# Quotes, parentheses and brackets

Outside comments every comma, brace and comment opener counts, wherever else it stands: quotes, parentheses
and brackets have no meaning of their own. So a selector list is cut at a comma in parentheses, and a brace
in quotes opens or closes a body. A header and a body that follow the rules of quoting are read as one rule
when they keep together without regard to quotes as well and no comma of the header is hidden;
`readsAsUnit_iff` says how far this is necessary.
-/

namespace ScopedSheets

open Text (isSelectorBlank trim)

/-- A comment, a text with the quotes around it, or a character outside both. -/
inductive Lexeme where
  | comment (text : Text)
  | quoted (text : Text)
  | char (c : Char)
deriving DecidableEq, Repr

def isQuote (c : Char) : Bool := c = '"' || c = '\''

/-- What can stand between two quotes: the quote itself only after a backslash. -/
inductive Inside (quote : Char) : Text → Prop
  | nil : Inside quote []
  | escaped (c : Char) {t : Text} : Inside quote t → Inside quote ('\\' :: c :: t)
  | char {c : Char} {t : Text} : c ≠ quote → c ≠ '\\' → Inside quote t → Inside quote (c :: t)

/-- `Lexed t ls`: read from left to right and with regard to quotes, the text `t` is the lexemes `ls`. All its
comments and all its quotes are closed. -/
inductive Lexed : Text → List Lexeme → Prop
  | done : Lexed [] []
  | comment {c rest : Text} {ls : List Lexeme} :
      ClosedComment c → Lexed rest ls → Lexed (c ++ rest) (.comment c :: ls)
  | quoted {quote : Char} {inner rest : Text} {ls : List Lexeme} :
      isQuote quote = true → Inside quote inner → Lexed rest ls →
      Lexed (quote :: inner ++ quote :: rest) (.quoted (quote :: inner ++ [quote]) :: ls)
  | char {c : Char} {rest : Text} {ls : List Lexeme} :
      ¬ OpensComment (c :: rest) → isQuote c = false → Lexed rest ls →
      Lexed (c :: rest) (.char c :: ls)

theorem Lexed.append_chars {t rest : Text} {ls : List Lexeme}
    (ht : ∀ c ∈ t, c ≠ '/' ∧ isQuote c = false) (h : Lexed rest ls) :
    Lexed (t ++ rest) (t.map .char ++ ls) := by
  induction t with
  | nil => exact h
  | cons c t ih =>
    obtain ⟨hslash, hquote⟩ := ht c (List.mem_cons_self ..)
    exact .char (not_opensComment_of_ne hslash _) hquote
      (ih fun d hd => ht d (List.mem_cons_of_mem _ hd))

namespace Lexeme

/-- The pieces that are read without regard to quotes, when no comment opens in them. -/
def plain : Lexeme → List Piece
  | comment t => [.comment t]
  | quoted t => t.map .char
  | char c => [.char c]

def outside : Lexeme → List Piece
  | comment t => [.comment t]
  | quoted _ => []
  | char c => [.char c]

end Lexeme

def QuotesHideNoOpener (ls : List Lexeme) : Prop := ∀ t, .quoted t ∈ ls → ¬ HasOpener t

theorem QuotesHideNoOpener.tail {l : Lexeme} {ls : List Lexeme} (h : QuotesHideNoOpener (l :: ls)) :
    QuotesHideNoOpener ls :=
  fun t ht => h t (List.mem_cons_of_mem l ht)

theorem ne_of_isQuote {c d : Char} (h : isQuote c = true) (hd : isQuote d = false) : c ≠ d := by
  rintro rfl
  rw [h] at hd
  nomatch hd

theorem pieces_of_lexed {t : Text} {ls : List Lexeme} (h : Lexed t ls)
    (hnone : QuotesHideNoOpener ls) : pieces t = ls.flatMap Lexeme.plain := by
  induction h with
  | done => exact pieces_nil
  | @comment c rest ls hc _ ih =>
    rw [pieces_of_closedComment hc, ih hnone.tail]
    rfl
  | @quoted quote inner rest ls hquote _ _ ih =>
    have hinner : ¬ HasOpener (quote :: inner) := by
      intro ho
      exact hnone _ (List.mem_cons_self ..) (ho.trans (List.prefix_append _ [quote]).isInfix)
    have hstar : (quote :: rest).head? ≠ some '*' := by
      simpa using ne_of_isQuote hquote (d := '*') (by decide)
    have hslash : quote ≠ '/' := ne_of_isQuote hquote (by decide)
    rw [pieces_append_of_not_hasOpener hinner hstar, pieces_cons_of_ne hslash,
      ih hnone.tail, List.flatMap_cons, Lexeme.plain, List.map_append, List.append_assoc]
    rfl
  | @char c rest ls hopen _ _ ih =>
    rw [pieces_char hopen, ih hnone.tail]
    rfl

theorem Lexed.commentsClosed {t : Text} {ls : List Lexeme} (h : Lexed t ls)
    (hnone : QuotesHideNoOpener ls) : CommentsClosed (pieces t) := by
  rw [pieces_of_lexed h hnone]
  clear hnone
  induction h with
  | done => exact commentsClosed_nil
  | @comment c rest ls hc _ ih =>
    refine commentsClosed_append.2 ⟨?_, ih⟩
    intro d hd
    obtain rfl := Piece.comment.inj (List.mem_singleton.1 hd)
    exact hc
  | @quoted quote inner rest ls _ _ _ ih => exact commentsClosed_append.2 ⟨commentsClosed_map_char _, ih⟩
  | @char c rest ls _ _ _ ih => exact commentsClosed_append.2 ⟨commentsClosed_map_char [c], ih⟩

theorem length_splitOnP {α : Type} (p : α → Bool) (xs : List α) :
    (xs.splitOnP p).length = xs.countP p + 1 := by
  induction xs with
  | nil => rfl
  | cons x xs ih =>
    rw [List.splitOnP_cons_eq_if_modifyHead, List.countP_cons]
    split
    · rw [List.length_cons, ih]
    · rw [List.length_modifyHead, ih, Nat.add_zero]

theorem map_splitOnP {α β : Type} {f : α → β} {p : α → Bool} {q : β → Bool} {xs : List α}
    (h : ∀ x ∈ xs, p x = q (f x)) :
    (xs.splitOnP p).map (List.map f) = (xs.map f).splitOnP q := by
  induction xs with
  | nil => rfl
  | cons x xs ih =>
    have hrest := ih fun y hy => h y (List.mem_cons_of_mem _ hy)
    rw [List.map_cons, List.splitOnP_cons_eq_if_modifyHead, List.splitOnP_cons_eq_if_modifyHead,
      h x (List.mem_cons_self ..), ← hrest]
    split
    · rfl
    · cases xs.splitOnP p with
      | nil => rfl
      | cons first parts => rfl

theorem exists_mem_splitOnP {α : Type} {p : α → Bool} {x : α} {xs : List α} (hx : x ∈ xs)
    (hp : p x = false) : ∃ part ∈ xs.splitOnP p, x ∈ part := by
  induction xs with
  | nil => nomatch hx
  | cons y xs ih =>
    rw [List.splitOnP_cons_eq_if_modifyHead]
    rcases List.mem_cons.1 hx with rfl | hx
    · rw [hp, if_neg (by decide)]
      obtain ⟨first, parts, hs⟩ := List.exists_cons_of_ne_nil (List.splitOnP_ne_nil p xs)
      rw [hs]
      exact ⟨x :: first, List.mem_cons_self .., List.mem_cons_self ..⟩
    · obtain ⟨part, hpart, hmem⟩ := ih hx
      split
      · exact ⟨part, List.mem_cons_of_mem _ hpart, hmem⟩
      · obtain ⟨first, parts, hs⟩ := List.exists_cons_of_ne_nil (List.splitOnP_ne_nil p xs)
        rw [hs] at hpart ⊢
        rcases List.mem_cons.1 hpart with rfl | hpart
        · exact ⟨y :: part, List.mem_cons_self .., List.mem_cons_of_mem _ hmem⟩
        · exact ⟨part, List.mem_cons_of_mem _ hpart, hmem⟩

/-! ### Structural commas -/

/-- How many parentheses and brackets are open after a character, when `n` are open before it. -/
def nestingAfter (n : Nat) (c : Char) : Nat :=
  if c = '(' ∨ c = '[' then n + 1 else if c = ')' ∨ c = ']' then n - 1 else n

/-- The characters outside comments, each with whether it stands outside quotes, parentheses and brackets as
well; `n` parentheses and brackets are open at the beginning. -/
def marked : Nat → List Lexeme → List (Char × Bool)
  | _, [] => []
  | n, .comment _ :: ls => marked n ls
  | n, .quoted t :: ls => t.map (·, false) ++ marked n ls
  | n, .char c :: ls => (c, n == 0) :: marked (nestingAfter n c) ls

def isSeparator (x : Char × Bool) : Bool := x.1 == ',' && x.2

/-- The header without its comments, cut at the commas outside quotes, parentheses and brackets, each part
trimmed. -/
def structuralSelectors (ls : List Lexeme) : List Text :=
  ((marked 0 ls).splitOnP isSeparator).map fun part => trim isSelectorBlank (part.map Prod.fst)

def HidesComma (ls : List Lexeme) : Prop := (',', false) ∈ marked 0 ls

theorem chars_plain (n : Nat) (ls : List Lexeme) :
    (ls.flatMap Lexeme.plain).filterMap Piece.char? = (marked n ls).map Prod.fst := by
  induction ls generalizing n with
  | nil => rfl
  | cons l ls ih =>
    rw [List.flatMap_cons, List.filterMap_append]
    cases l with
    | comment t =>
      rw [marked, ← ih n]
      rfl
    | quoted t =>
      have hfst : (t.map (·, false)).map Prod.fst = t := by
        rw [List.map_map]
        exact List.map_id t
      rw [marked, Lexeme.plain, chars_map_char, ih n, List.map_append, hfst]
    | char c =>
      rw [marked, ih (nestingAfter n c)]
      rfl

theorem countP_isSeparator_lt {xs : List (Char × Bool)} (h : (',', false) ∈ xs) :
    xs.countP isSeparator < (xs.map Prod.fst).countP (· == ',') := by
  have hle (ys : List (Char × Bool)) :
      ys.countP isSeparator ≤ (ys.map Prod.fst).countP (· == ',') := by
    rw [List.countP_map]
    exact List.countP_mono_left fun x _ hx => (Bool.and_eq_true_iff.1 hx).1
  -- the hidden comma counts on the right only
  obtain ⟨before, after, rfl⟩ := List.append_of_mem h
  have hbefore := hle before
  have hafter := hle after
  have hcut : isSeparator (',', false) = false := rfl
  rw [List.map_append, List.map_cons, List.countP_append, List.countP_append, List.countP_cons,
    List.countP_cons, hcut]
  simp only [beq_self_eq_true, if_true, if_neg Bool.false_ne_true]
  omega

theorem isSeparator_of_ne {x : Char × Bool} (h : x ≠ (',', false)) : isSeparator x = (x.1 == ',') := by
  obtain ⟨c, outside⟩ := x
  cases outside with
  | true => exact Bool.and_true _
  | false =>
    have hc : c ≠ ',' := by
      rintro rfl
      exact h rfl
    simp [isSeparator, hc]

theorem selectorList_eq_structuralSelectors_iff (ls : List Lexeme) :
    selectorList ((ls.flatMap Lexeme.plain).filterMap Piece.char?) = structuralSelectors ls ↔
      ¬ HidesComma ls := by
  rw [chars_plain 0, selectorList, structuralSelectors, List.splitOn_eq_splitOnP]
  constructor
  · -- a hidden comma cuts one selector into two, and the numbers of selectors differ
    intro heq hhides
    have hlen := congrArg List.length heq
    rw [List.length_map, List.length_map, length_splitOnP, length_splitOnP] at hlen
    have hlt := countP_isSeparator_lt hhides
    omega
  · intro hnone
    have hcut : ∀ x ∈ marked 0 ls, isSeparator x = (x.1 == ',') := by
      intro x hx
      refine isSeparator_of_ne ?_
      rintro rfl
      exact hnone hx
    rw [← map_splitOnP hcut, List.map_map]
    rfl

theorem exists_mem_structuralSelectors {c : Char} {ls : List Lexeme} (hcomma : c ≠ ',')
    (hblank : isSelectorBlank c = false) (h : .char c ∈ ls.flatMap Lexeme.plain) :
    ∃ s ∈ structuralSelectors ls, c ∈ s := by
  have hchars : c ∈ (marked 0 ls).map Prod.fst := by
    rw [← chars_plain 0]
    exact List.mem_filterMap.2 ⟨.char c, h, rfl⟩
  obtain ⟨x, hx, rfl⟩ := List.mem_map.1 hchars
  have hcut : isSeparator x = false := by simp [isSeparator, hcomma]
  obtain ⟨part, hpart, hmem⟩ := exists_mem_splitOnP hx hcut
  refine ⟨trim isSelectorBlank (part.map Prod.fst), List.mem_map_of_mem hpart, ?_⟩
  have htrimmed := Text.trimmed_trim isSelectorBlank (part.map Prod.fst)
  obtain ⟨lead, trail, ht, hlead, htrail⟩ := htrimmed.around
  have hin : x.1 ∈ part.map Prod.fst := List.mem_map_of_mem hmem
  rw [ht, List.mem_append, List.mem_append] at hin
  rcases hin with (hin | hin) | hin
  · exact absurd hin (not_mem_of_blank hlead hblank)
  · exact hin
  · exact absurd hin (not_mem_of_blank htrail hblank)

/-- No comment opens in a quoted text, and it holds no brace. -/
structure QuotesPlain (ls : List Lexeme) : Prop where
  no_opener : QuotesHideNoOpener ls
  no_open : ∀ t, .quoted t ∈ ls → '{' ∉ t
  no_close : ∀ t, .quoted t ∈ ls → '}' ∉ t

theorem QuotesPlain.of_no_slash {ls : List Lexeme}
    (h : ∀ t, .quoted t ∈ ls → '/' ∉ t ∧ '{' ∉ t ∧ '}' ∉ t) : QuotesPlain ls where
  no_opener t ht := not_hasOpener_of_no_slash (h t ht).1
  no_open t ht := (h t ht).2.1
  no_close t ht := (h t ht).2.2

theorem open_mem_plain_iff {ls : List Lexeme} (h : .char '{' ∉ ls) :
    .char '{' ∈ ls.flatMap Lexeme.plain ↔ ∃ t, .quoted t ∈ ls ∧ '{' ∈ t := by
  constructor
  · intro hm
    obtain ⟨l, hl, hp⟩ := List.mem_flatMap.1 hm
    cases l with
    | comment t => nomatch List.mem_singleton.1 hp
    | quoted t =>
      obtain ⟨c, hc, he⟩ := List.mem_map.1 hp
      exact ⟨t, hl, Piece.char.inj he ▸ hc⟩
    | char c =>
      obtain rfl := Piece.char.inj (List.mem_singleton.1 hp)
      exact absurd hl h
  · rintro ⟨t, ht, hc⟩
    exact List.mem_flatMap.2 ⟨.quoted t, ht, List.mem_map_of_mem hc⟩

theorem Lexeme.staysOpen_plain {d : Int} {l : Lexeme} (h : ∀ t, l = .quoted t → '{' ∉ t ∧ '}' ∉ t)
    (ho : StaysOpen d l.outside) : depth l.plain = depth l.outside ∧ StaysOpen d l.plain := by
  cases l with
  | comment t => exact ⟨rfl, ho⟩
  | char c => exact ⟨rfl, ho⟩
  | quoted t =>
    have hbraceless := braceless_map_char (h t rfl).1 (h t rfl).2
    exact ⟨depth_eq_zero hbraceless, StaysOpen.of_braceless ho.nonneg hbraceless⟩

theorem staysOpen_plain {d : Int} {ls : List Lexeme}
    (h : ∀ t, .quoted t ∈ ls → '{' ∉ t ∧ '}' ∉ t) (ho : StaysOpen d (ls.flatMap Lexeme.outside)) :
    depth (ls.flatMap Lexeme.plain) = depth (ls.flatMap Lexeme.outside) ∧
      StaysOpen d (ls.flatMap Lexeme.plain) := by
  induction ls generalizing d with
  | nil => exact ⟨rfl, ho⟩
  | cons l ls ih =>
    rw [List.flatMap_cons, staysOpen_append_iff] at ho
    have hhead : ∀ t, l = .quoted t → '{' ∉ t ∧ '}' ∉ t := by
      rintro t rfl
      exact h t (List.mem_cons_self ..)
    obtain ⟨hdepth, hopen⟩ := Lexeme.staysOpen_plain hhead ho.1
    obtain ⟨hdepths, hopens⟩ := ih (fun t ht => h t (List.mem_cons_of_mem _ ht)) ho.2
    rw [List.flatMap_cons, List.flatMap_cons, depth_append, depth_append, staysOpen_append_iff,
      hdepth, hdepths]
    exact ⟨rfl, hopen, hopens⟩

theorem enclosable_of_quotesPlain {t : Text} {ls : List Lexeme} (ht : Lexed t ls) (h : QuotesPlain ls)
    (hbalanced : Balanced (ls.flatMap Lexeme.outside)) : Enclosable t := by
  have hbraces := fun q hq => And.intro (h.no_open q hq) (h.no_close q hq)
  obtain ⟨hdepth, hopen⟩ := staysOpen_plain hbraces hbalanced.staysOpen
  refine ⟨?_, ht.commentsClosed h.no_opener⟩
  rw [pieces_of_lexed ht h.no_opener]
  exact ⟨hopen, hdepth.trans hbalanced.depth_eq⟩

/-! ### Headers and bodies that keep together -/

theorem braced_inj {a b : Text} : braced a = braced b ↔ a = b := by simp [braced]

theorem outline_eq_unit_iff {header t : Text} :
    outline (header ++ braced t) = ⟨[⟨header, braced t⟩], []⟩ ↔
      .char '{' ∉ pieces header ∧ CommentsClosed (pieces header) ∧ Enclosable t := by
  constructor
  · intro h
    have hrules := congrArg Outline.rules h
    obtain ⟨raw, hraw, hwritten⟩ := List.map_eq_singleton_iff.1 hrules
    have hmem : raw ∈ (splitRules (pieces (header ++ braced t))).1 := by simp [hraw]
    have hheader : pieces header = raw.header := by
      rw [← (pieces_written hmem).1, hwritten]
    have hinner : raw.innerText = t := by
      rw [← braced_inj, ← body_written, hwritten]
    rw [hheader, ← hinner]
    exact ⟨((splitRules_spec _).2.1 raw hmem).1, (commentsClosed_of_mem hmem).1,
      enclosable_innerText hmem⟩
  · rintro ⟨hopen, hclosed, ht⟩
    have hsplit := splitRules_append (r := ⟨pieces header, pieces t⟩) hopen ht.balanced []
    rw [outline, pieces_headed hclosed ht, hsplit, splitRules_of_none rfl]
    simp [RawRule.written, writePieces_pieces, braced, Piece.text]

def NamesMedia (ls : List Lexeme) : Prop :=
  ∃ s, (structuralSelectors ls).getLast? = some s ∧ "@media".toList <+: s

/-- A header and what stands between the braces after it are exactly one rule: it has the header's selectors
and, apart from media queries, the body as written. -/
def ReadsAsUnit (p header inner : Text) (ls : List Lexeme) : Prop :=
  ∃ r, rules p (header ++ braced inner) = [r] ∧ r.selectors = structuralSelectors ls ∧
    (¬ r.IsMedia → r.body = braced inner)

section

variable {p header inner : Text} {ls : List Lexeme}

theorem readsAsUnit_iff_selectors (hopen : .char '{' ∉ pieces header)
    (hclosed : CommentsClosed (pieces header)) (ht : Enclosable inner) :
    ReadsAsUnit p header inner ls ↔
      selectorList ((pieces header).filterMap Piece.char?) = structuralSelectors ls := by
  rw [ReadsAsUnit, rules_header_braced hopen hclosed ht]
  constructor
  · rintro ⟨r, hr, hselectors, _⟩
    obtain rfl := (List.cons.inj hr).1
    exact hselectors
  · intro h
    refine ⟨_, rfl, h, ?_⟩
    intro hplain
    have hmedia : ¬ (⟨pieces header, pieces inner⟩ : RawRule).isMedia = true :=
      fun hm => hplain ((isMedia_iff rfl).1 hm)
    rw [RawRule.toRule, if_neg hmedia, RawRule.innerText, writePieces_pieces]

theorem ReadsAsUnit.exists_rawRule (h : ReadsAsUnit p header inner ls) :
    ∃ raw ∈ (splitRules (pieces (header ++ braced inner))).1,
      raw.selectors = structuralSelectors ls ∧ (¬ NamesMedia ls → raw.innerText = inner) := by
  obtain ⟨r, hrules, hselectors, hbody⟩ := h
  rw [rules_eq] at hrules
  obtain ⟨raw, hraw, rfl⟩ := List.map_eq_singleton_iff.1 hrules
  refine ⟨raw, by simp [hraw], hselectors, ?_⟩
  intro hplain
  have hnot : ¬ (raw.toRule p).IsMedia := by rwa [Rule.IsMedia, hselectors]
  have hmedia : ¬ raw.isMedia = true := fun hm => hnot ((isMedia_iff rfl).1 hm)
  have hbody := hbody hnot
  rw [RawRule.toRule, if_neg hmedia] at hbody
  exact braced_inj.1 hbody

theorem ReadsAsUnit.enclosable (h : ReadsAsUnit p header inner ls) (hplain : ¬ NamesMedia ls) :
    Enclosable inner := by
  obtain ⟨raw, hraw, _, hinner⟩ := h.exists_rawRule
  rw [← hinner hplain]
  exact enclosable_innerText hraw

theorem ReadsAsUnit.open_not_mem (h : ReadsAsUnit p header inner ls) :
    .char '{' ∉ ls.flatMap Lexeme.plain := by
  intro hm
  -- the brace stays in one of the structural selectors, and those of a rule stand before all braces
  obtain ⟨raw, hraw, hselectors, _⟩ := h.exists_rawRule
  obtain ⟨s, hs, hin⟩ := exists_mem_structuralSelectors (by decide) (by decide) hm
  rw [← hselectors] at hs
  exact ((splitRules_spec _).2.1 raw hraw).1 (char_mem_header hs hin)

end

/-- Take a header and a text between its braces that follow the rules of quoting. The two are cut apart at
these braces and read as one rule exactly when both keep together without regard to quotes and all commas of
the header together give its selectors. When no comment opens in the header's quotes, they are read as one
rule, apart from media queries, exactly when no body opens in the header's quotes either, the text keeps
together, and no comma is hidden. So nothing goes wrong when no comment opens and no brace stands in quotes
and no comma is hidden. -/
theorem readsAsUnit_iff {header inner : Text} {ls ms : List Lexeme} (hheader : Lexed header ls)
    (hinner : Lexed inner ms) (hbrace : .char '{' ∉ ls)
    (hbalanced : Balanced (ms.flatMap Lexeme.outside)) (p : Text) :
    (outline (header ++ braced inner) = ⟨[⟨header, braced inner⟩], []⟩ ∧
        ReadsAsUnit p header inner ls ↔
      .char '{' ∉ pieces header ∧ CommentsClosed (pieces header) ∧ Enclosable inner ∧
        selectorList ((pieces header).filterMap Piece.char?) = structuralSelectors ls) ∧
    (QuotesHideNoOpener ls → ¬ NamesMedia ls →
      (ReadsAsUnit p header inner ls ↔
        (∀ t, .quoted t ∈ ls → '{' ∉ t) ∧ Enclosable inner ∧ ¬ HidesComma ls)) ∧
    (QuotesPlain ls → QuotesPlain ms → ¬ HidesComma ls → ReadsAsUnit p header inner ls) := by
  have hplain (hnone : QuotesHideNoOpener ls) (hquotes : ∀ t, .quoted t ∈ ls → '{' ∉ t)
      (ht : Enclosable inner) : ReadsAsUnit p header inner ls ↔ ¬ HidesComma ls := by
    have hopen : .char '{' ∉ pieces header := by
      rw [pieces_of_lexed hheader hnone, open_mem_plain_iff hbrace]
      rintro ⟨t, hmem, hc⟩
      exact hquotes t hmem hc
    rw [readsAsUnit_iff_selectors hopen (hheader.commentsClosed hnone) ht, pieces_of_lexed hheader hnone,
      selectorList_eq_structuralSelectors_iff]
  refine ⟨?_, ?_, ?_⟩
  · rw [outline_eq_unit_iff]
    constructor
    · rintro ⟨⟨hopen, hclosed, ht⟩, hunit⟩
      exact ⟨hopen, hclosed, ht, (readsAsUnit_iff_selectors hopen hclosed ht).1 hunit⟩
    · rintro ⟨hopen, hclosed, ht, hselectors⟩
      exact ⟨⟨hopen, hclosed, ht⟩, (readsAsUnit_iff_selectors hopen hclosed ht).2 hselectors⟩
  · intro hnone hmedia
    constructor
    · intro hunit
      have hquotes : ∀ t, .quoted t ∈ ls → '{' ∉ t := fun t hmem hc =>
        hunit.open_not_mem ((open_mem_plain_iff hbrace).2 ⟨t, hmem, hc⟩)
      have ht := hunit.enclosable hmedia
      exact ⟨hquotes, ht, (hplain hnone hquotes ht).1 hunit⟩
    · rintro ⟨hquotes, ht, hcomma⟩
      exact (hplain hnone hquotes ht).2 hcomma
  · intro hls hms hcomma
    have ht := enclosable_of_quotesPlain hinner hms hbalanced
    exact (hplain hls.no_opener hls.no_open ht).2 hcomma

theorem readsAsUnit_iff_string :
    ∃ ls ms, Lexed "a[t=\"x\"],b/*\x7b,*/".toList ls ∧ Lexed "c:\";\"".toList ms ∧
      .char '{' ∉ ls ∧ Balanced (ms.flatMap Lexeme.outside) ∧
      ReadsAsUnit ".x".toList "a[t=\"x\"],b/*\x7b,*/".toList "c:\";\"".toList ls := by
  have hx : Inside '"' ['x'] := .char (by decide) (by decide) .nil
  have hsemicolon : Inside '"' [';'] := .char (by decide) (by decide) .nil
  have hcomment : ClosedComment "/*\x7b,*/".toList := by
    refine ⟨['{', ','], by decide, ?_⟩
    unfold HasCloser
    decide
  have hheader : Lexed "a[t=\"x\"],b/*\x7b,*/".toList ("a[t=".toList.map .char ++
      .quoted "\"x\"".toList :: ("],b".toList.map .char ++ [.comment "/*\x7b,*/".toList])) := by
    have hbefore : ∀ c ∈ "a[t=".toList, c ≠ '/' ∧ isQuote c = false := by simp [isQuote]
    have hafter : ∀ c ∈ "],b".toList, c ≠ '/' ∧ isQuote c = false := by simp [isQuote]
    exact Lexed.append_chars hbefore
      (.quoted rfl hx (Lexed.append_chars hafter (.comment hcomment .done)))
  have hinner : Lexed "c:\";\"".toList ("c:".toList.map .char ++ [.quoted "\";\"".toList]) := by
    have hplain : ∀ c ∈ "c:".toList, c ≠ '/' ∧ isQuote c = false := by simp [isQuote]
    exact Lexed.append_chars hplain (.quoted rfl hsemicolon .done)
  have hbalanced : Balanced
      (("c:".toList.map Lexeme.char ++ [Lexeme.quoted "\";\"".toList]).flatMap Lexeme.outside) :=
    balanced_of_braceless (by simp [Lexeme.outside, Piece.Braceless])
  have hcomma : ¬ HidesComma ("a[t=".toList.map .char ++
      .quoted "\"x\"".toList :: ("],b".toList.map .char ++ [.comment "/*\x7b,*/".toList])) := by
    rw [HidesComma]
    decide
  have hkeeps := (readsAsUnit_iff hheader hinner (by decide) hbalanced ".x".toList).2.2
  exact ⟨_, _, hheader, hinner, by decide, hbalanced,
    hkeeps (QuotesPlain.of_no_slash (by simp)) (QuotesPlain.of_no_slash (by simp)) hcomma⟩

/-- A comma in parentheses cuts the selector. -/
theorem comma_in_parentheses_cuts :
    Lexed ":is(a, b)".toList (":is(a, b)".toList.map .char) ∧ Lexed [] [] ∧
    .char '{' ∉ ":is(a, b)".toList.map Lexeme.char ∧ Balanced (List.flatMap Lexeme.outside []) ∧
    structuralSelectors (":is(a, b)".toList.map .char) = [":is(a, b)".toList] ∧
    rules ".x".toList ":is(a, b)\x7b\x7d".toList
      = [⟨[":is(a".toList, "b)".toList], "\x7b\x7d".toList, []⟩] ∧
    ¬ ReadsAsUnit ".x".toList ":is(a, b)".toList [] (":is(a, b)".toList.map .char) := by
  have hlexed : Lexed ":is(a, b)".toList (":is(a, b)".toList.map .char) := by
    have hplain : ∀ c ∈ ":is(a, b)".toList, c ≠ '/' ∧ isQuote c = false := by simp [isQuote]
    exact Lexed.append_chars hplain .done
  have hstructural : structuralSelectors (":is(a, b)".toList.map .char) = [":is(a, b)".toList] := by
    decide +kernel
  have hnone : ¬ HasOpener ":is(a, b)".toList := not_hasOpener_of_no_slash (by decide)
  have hrules : rules ".x".toList ":is(a, b)\x7b\x7d".toList
      = [⟨[":is(a".toList, "b)".toList], "\x7b\x7d".toList, []⟩] := by
    have hsel : selectorList ":is(a, b)".toList = [":is(a".toList, "b)".toList] := by decide +kernel
    have hone := rules_headed_plain (by decide) hnone enclosable_nil (by decide +kernel) ".x".toList
    rw [hsel] at hone
    exact hone
  refine ⟨hlexed, .done, by decide, balanced_nil, hstructural, hrules, ?_⟩
  rintro ⟨r, hr, hselectors, _⟩
  have hone := hrules.symm.trans hr
  obtain rfl := (List.cons.inj hone).1
  rw [hstructural] at hselectors
  nomatch (List.cons.inj hselectors).2

end ScopedSheets
