/-!
# Text

Text is a list of Unicode code points, so a length, an offset and a column all count code points.
The module holds the few cuts that the rest of the library is made of: removing a fixed beginning
or end, trimming by a class of characters, and cutting at a character.
-/

namespace ScopedSheets

abbrev Text := List Char

namespace Text

theorem isPrefixOf?_cons (a c : Char) (p t : Text) :
    (a :: p).isPrefixOf? (c :: t) = if a == c then p.isPrefixOf? t else none := rfl

theorem isPrefixOf?_append (p t : Text) : p.isPrefixOf? (p ++ t) = some t := by
  induction p with
  | nil => rfl
  | cons a p ih => rw [List.cons_append, isPrefixOf?_cons, if_pos (beq_self_eq_true a), ih]

theorem eq_append_of_isPrefixOf? {p t r : Text} (h : p.isPrefixOf? t = some r) : t = p ++ r := by
  induction p generalizing t with
  | nil => exact Option.some.inj h
  | cons a p ih =>
    cases t with
    | nil => nomatch h
    | cons c t =>
      rw [isPrefixOf?_cons] at h
      split at h
      · next hac => rw [eq_of_beq hac, ih h, List.cons_append]
      · simp at h

/-- The text without its last code point when that is `c`; at most one is removed. -/
def dropLastIf (c : Char) (t : Text) : Text :=
  if t.getLast? = some c then t.dropLast else t

def trimRight (p : Char → Bool) (t : Text) : Text := (t.reverse.dropWhile p).reverse

def trim (p : Char → Bool) (t : Text) : Text := trimRight p (t.dropWhile p)

/-- The text cut at the first occurrence of `sep`, which is dropped. -/
def cutAt? (sep : Char) (t : Text) : Option (Text × Text) :=
  match t.dropWhile (· != sep) with
  | [] => none
  | _ :: rest => some (t.takeWhile (· != sep), rest)

/-- Whether a text comes no later than another in the order of code points. What a text begins with
comes before the text. -/
def atMost : Text → Text → Bool
  | [], _ => true
  | _ :: _, [] => false
  | a :: as, b :: bs => a < b || a == b && atMost as bs

def sort (texts : List Text) : List Text := texts.mergeSort atMost

def ofNat (n : Nat) : Text := (toString n).toList

def ofInt (n : Int) : Text := (toString n).toList

end Text

end ScopedSheets
