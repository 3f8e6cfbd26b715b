import ScopedSheets.Text

/-!
# The pieces of a style sheet fragment

A fragment reads from left to right as comments and single characters. A comment runs from its opener
through the first closer after it, or to the end of the text when there is none; what stands inside it
has no meaning of its own. The pieces, written one after the other, are the fragment again.
-/

namespace ScopedSheets

/-- A comment with its delimiters, or a character outside all comments. -/
inductive Piece where
  | comment (text : Text)
  | char (c : Char)
deriving DecidableEq, Repr

namespace Piece

def text : Piece → Text
  | comment t => t
  | char c => [c]

def comment? : Piece → Option Text
  | comment t => some t
  | char _ => none

def char? : Piece → Option Char
  | comment _ => none
  | char c => some c

end Piece

/-- The text cut after the first comment closer, or at its end. -/
def splitComment : Text → Text × Text
  | [] => ([], [])
  | '*' :: '/' :: rest => (['*', '/'], rest)
  | c :: rest => (c :: (splitComment rest).1, (splitComment rest).2)

theorem splitComment_append (t : Text) : (splitComment t).1 ++ (splitComment t).2 = t := by
  fun_induction splitComment t with
  | case1 => rfl
  | case2 rest => rfl
  | case3 c rest _ ih => simp [ih]

theorem length_splitComment_snd_le (t : Text) : (splitComment t).2.length ≤ t.length := by
  have h := congrArg List.length (splitComment_append t)
  rw [List.length_append] at h
  omega

def pieces : Text → List Piece
  | [] => []
  | '/' :: '*' :: rest =>
    .comment ('/' :: '*' :: (splitComment rest).1) :: pieces (splitComment rest).2
  | c :: rest => .char c :: pieces rest
termination_by t => t.length
decreasing_by
  · have := length_splitComment_snd_le rest
    simp only [List.length_cons]
    omega
  · simp

def writePieces (ps : List Piece) : Text := ps.flatMap Piece.text

@[simp] theorem writePieces_nil : writePieces [] = [] := rfl

@[simp] theorem writePieces_cons (p : Piece) (ps : List Piece) :
    writePieces (p :: ps) = p.text ++ writePieces ps := rfl

@[simp] theorem writePieces_append (ps qs : List Piece) :
    writePieces (ps ++ qs) = writePieces ps ++ writePieces qs := by
  simp [writePieces]

/-- Nothing of the fragment is lost or added. -/
theorem writePieces_pieces (t : Text) : writePieces (pieces t) = t := by
  fun_induction pieces t with
  | case1 => rfl
  | case2 rest ih => simp [Piece.text, ih, splitComment_append]
  | case3 c rest _ ih => simp [Piece.text, ih]

end ScopedSheets
