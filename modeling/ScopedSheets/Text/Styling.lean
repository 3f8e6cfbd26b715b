import ScopedSheets.Text

/-!
# Terminal styling

Output that goes to no terminal loses the sequences that style it: the escape character, an opening
bracket, any number of digits, semicolons and question marks, and one letter.
-/

namespace ScopedSheets.Text

def isStyleParameter (c : Char) : Bool := c = ';' || c = '?' || c.isDigit

def afterStyle? : Text → Option Text
  | '\x1b' :: '[' :: t =>
    match t.dropWhile isStyleParameter with
    | [] => none
    | c :: rest => if c.isAlpha then some rest else none
  | _ => none

theorem length_lt_of_afterStyle? {t rest : Text} (h : afterStyle? t = some rest) :
    rest.length < t.length := by
  simp only [afterStyle?] at h
  split at h
  · next t =>
    split at h
    · simp at h
    · next c rest' hd =>
      split at h
      · simp only [Option.some.injEq] at h
        subst h
        have := (List.dropWhile_sublist isStyleParameter (l := t)).length_le
        rw [hd] at this
        simp only [List.length_cons] at this ⊢
        omega
      · simp at h
  · simp at h

def stripStyling (t : Text) : Text :=
  match h : afterStyle? t with
  | some rest =>
    have := length_lt_of_afterStyle? h
    stripStyling rest
  | none =>
    match t with
    | [] => []
    | c :: t => c :: stripStyling t
termination_by t.length

end ScopedSheets.Text
