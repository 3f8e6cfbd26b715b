import ScopedSheets.Text.Blank
import ScopedSheets.Text.Find

/-!
# Block markers

A scoped block stands between two marker comments, `/* SCOPE name */` and `/* END */`. A marker is a
value with the text it was written as; reading one gives back exactly what was read. The name takes as
much as it can: all characters up to the next white space when the closer follows that white space, and
otherwise all up to the last closer inside them.
-/

namespace ScopedSheets

open Text (isBlank)

/-- The text cut around the last comment closer in it. -/
def cutLastCloser? : Text → Option (Text × Text)
  | [] => none
  | c :: t =>
    match cutLastCloser? t with
    | some (before, rest) => some (c :: before, rest)
    | none => ("*/".toList.isPrefixOf? (c :: t)).map fun rest => ([], rest)

theorem eq_of_cutLastCloser? {t before rest : Text} (h : cutLastCloser? t = some (before, rest)) :
    t = before ++ "*/".toList ++ rest := by
  induction t generalizing before with
  | nil => simp [cutLastCloser?] at h
  | cons c t ih =>
    simp only [cutLastCloser?] at h
    split at h
    · next before' rest' hs =>
      simp only [Option.some.injEq, Prod.mk.injEq] at h
      obtain ⟨rfl, rfl⟩ := h
      rw [ih hs, List.cons_append, List.cons_append]
    · obtain ⟨rest', hs, he⟩ := Option.map_eq_some_iff.1 h
      simp only [Prod.mk.injEq] at he
      obtain ⟨rfl, rfl⟩ := he
      exact Text.eq_append_of_isPrefixOf? hs

/-- An opening marker: the white space before the keyword, between keyword and name, the name, and the
white space after it. -/
structure Opening where
  lead : Text
  gap : Text
  name : Text
  trail : Text
deriving DecidableEq, Repr

namespace Opening

def text (m : Opening) : Text :=
  "/*".toList ++ m.lead ++ "SCOPE".toList ++ m.gap ++ m.name ++ m.trail ++ "*/".toList

structure WellFormed (m : Opening) : Prop where
  lead_blank : m.lead.all isBlank
  gap_blank : m.gap.all isBlank
  gap_ne_nil : m.gap ≠ []
  name_solid : m.name.all (!isBlank ·)
  name_ne_nil : m.name ≠ []
  trail_blank : m.trail.all isBlank

/-- The name with what follows it, read from the text after the keyword and its white space. -/
def readName? (t : Text) : Option ((Text × Text) × Text) :=
  let run := t.takeWhile (!isBlank ·)
  let after := t.dropWhile (!isBlank ·)
  match "*/".toList.isPrefixOf? (after.dropWhile isBlank) with
  | some rest => if run = [] then none else some ((run, after.takeWhile isBlank), rest)
  | none =>
    match run with
    | [] => none
    | c :: run =>
      (cutLastCloser? run).map fun (name, rest) => ((c :: name, []), rest ++ after)

/-- The opening marker at the beginning of a text, with the text after it. -/
def read? (t : Text) : Option (Opening × Text) := do
  let t ← "/*".toList.isPrefixOf? t
  let lead := t.takeWhile isBlank
  let t ← "SCOPE".toList.isPrefixOf? (t.dropWhile isBlank)
  let gap := t.takeWhile isBlank
  guard (gap ≠ [])
  let ((name, trail), rest) ← readName? (t.dropWhile isBlank)
  return (⟨lead, gap, name, trail⟩, rest)

theorem eq_of_readName? {t name trail rest : Text} (h : readName? t = some ((name, trail), rest)) :
    t = name ++ trail ++ "*/".toList ++ rest := by
  simp only [readName?] at h
  split at h
  · next rest' hs =>
    split at h
    · simp at h
    · simp only [Option.some.injEq, Prod.mk.injEq] at h
      obtain ⟨⟨rfl, rfl⟩, rfl⟩ := h
      have hs := Text.eq_append_of_isPrefixOf? hs
      rw [List.append_assoc, ← hs, List.append_assoc, List.takeWhile_append_dropWhile,
        List.takeWhile_append_dropWhile]
  · split at h
    · simp at h
    · next c run hrun =>
      obtain ⟨⟨name', rest'⟩, hc, he⟩ := Option.map_eq_some_iff.1 h
      simp only [Prod.mk.injEq] at he
      obtain ⟨⟨rfl, rfl⟩, rfl⟩ := he
      have ht := (List.takeWhile_append_dropWhile (p := (!isBlank ·)) (l := t)).symm
      rw [hrun, eq_of_cutLastCloser? hc] at ht
      conv => lhs; rw [ht]
      simp

theorem text_append_of_read? {t rest : Text} {m : Opening} (h : read? t = some (m, rest)) :
    m.text ++ rest = t := by
  obtain ⟨t₁, h₁, h⟩ := Option.bind_eq_some_iff.1 h
  obtain ⟨t₂, h₂, h⟩ := Option.bind_eq_some_iff.1 h
  obtain ⟨_, _, h⟩ := Option.bind_eq_some_iff.1 h
  obtain ⟨⟨⟨name, trail⟩, rest'⟩, h₃, he⟩ := Option.bind_eq_some_iff.1 h
  simp only [Option.pure_def, Option.some.injEq, Prod.mk.injEq] at he
  obtain ⟨rfl, rfl⟩ := he
  have e₁ := (List.takeWhile_append_dropWhile (p := isBlank) (l := t₁)).symm
  have e₂ := (List.takeWhile_append_dropWhile (p := isBlank) (l := t₂)).symm
  rw [Text.eq_append_of_isPrefixOf? h₂] at e₁
  rw [eq_of_readName? h₃] at e₂
  rw [Text.eq_append_of_isPrefixOf? h₁]
  conv => rhs; rw [e₁, e₂]
  simp [text]

end Opening

/-- A closing marker: the white space on both sides of the keyword. -/
structure Closing where
  lead : Text
  trail : Text
deriving DecidableEq, Repr

namespace Closing

def text (m : Closing) : Text :=
  "/*".toList ++ m.lead ++ "END".toList ++ m.trail ++ "*/".toList

theorem length_text_pos (m : Closing) : 0 < m.text.length := by
  simp [text]

structure WellFormed (m : Closing) : Prop where
  lead_blank : m.lead.all isBlank
  lead_ne_nil : m.lead ≠ []
  trail_blank : m.trail.all isBlank
  trail_ne_nil : m.trail ≠ []

def read? (t : Text) : Option (Closing × Text) := do
  let t ← "/*".toList.isPrefixOf? t
  let lead := t.takeWhile isBlank
  guard (lead ≠ [])
  let t ← "END".toList.isPrefixOf? (t.dropWhile isBlank)
  let trail := t.takeWhile isBlank
  guard (trail ≠ [])
  let rest ← "*/".toList.isPrefixOf? (t.dropWhile isBlank)
  return (⟨lead, trail⟩, rest)

theorem text_append_of_read? {t rest : Text} {m : Closing} (h : read? t = some (m, rest)) :
    m.text ++ rest = t := by
  obtain ⟨t₁, h₁, h⟩ := Option.bind_eq_some_iff.1 h
  obtain ⟨_, _, h⟩ := Option.bind_eq_some_iff.1 h
  obtain ⟨t₂, h₂, h⟩ := Option.bind_eq_some_iff.1 h
  obtain ⟨_, _, h⟩ := Option.bind_eq_some_iff.1 h
  obtain ⟨rest', h₃, he⟩ := Option.bind_eq_some_iff.1 h
  simp only [Option.pure_def, Option.some.injEq, Prod.mk.injEq] at he
  obtain ⟨rfl, rfl⟩ := he
  have e₁ := (List.takeWhile_append_dropWhile (p := isBlank) (l := t₁)).symm
  have e₂ := (List.takeWhile_append_dropWhile (p := isBlank) (l := t₂)).symm
  rw [Text.eq_append_of_isPrefixOf? h₂] at e₁
  rw [Text.eq_append_of_isPrefixOf? h₃] at e₂
  rw [Text.eq_append_of_isPrefixOf? h₁]
  conv => rhs; rw [e₁, e₂]
  simp [text]

end Closing

def findOpening? (t : Text) : Option (Text × Opening × Text) := t.find? Opening.read?

def findClosing? (t : Text) : Option (Text × Closing × Text) := t.find? Closing.read?

/-- The first opening marker between two offsets of a text, with the offset at which it begins. -/
def searchOpening? (t : Text) (start stop : Nat) : Option (Nat × Opening) :=
  (findOpening? ((t.take stop).drop start)).map fun (before, m, _) => (start + before.length, m)

theorem eq_of_findOpening? {t before rest : Text} {m : Opening}
    (h : findOpening? t = some (before, m, rest)) : t = before ++ m.text ++ rest := by
  obtain ⟨tail, ht, hm⟩ := Text.matcher_of_find? h
  rw [ht, ← Opening.text_append_of_read? hm, List.append_assoc]

theorem eq_of_findClosing? {t before rest : Text} {m : Closing}
    (h : findClosing? t = some (before, m, rest)) : t = before ++ m.text ++ rest := by
  obtain ⟨tail, ht, hm⟩ := Text.matcher_of_find? h
  rw [ht, ← Closing.text_append_of_read? hm, List.append_assoc]

/-- Nothing outside the two offsets is looked at. -/
theorem searchOpening?_append (a body b : Text) :
    searchOpening? (a ++ (body ++ b)) a.length (a.length + body.length)
      = (findOpening? body).map fun (before, m, _) => (a.length + before.length, m) := by
  have htake : (a ++ (body ++ b)).take (a.length + body.length) = a ++ body := by
    rw [← List.append_assoc, ← List.length_append, List.take_left]
  unfold searchOpening?
  rw [htake, List.drop_left]

end ScopedSheets
