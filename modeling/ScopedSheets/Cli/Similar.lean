import ScopedSheets.Text

/-!
# Similar words

Which of some words are close enough to a mistyped one to be suggested. Two words are compared by the
number of characters that they share in order: the longest run that both hold, and then what they share
on either side of it. They are similar when these make up three fifths of the two words at least.
-/

namespace ScopedSheets.Similar

def commonStart : Text → Text → Nat
  | a :: as, b :: bs => if a = b then commonStart as bs + 1 else 0
  | _, _ => 0

structure CommonRun where
  left : Nat
  right : Nat
  length : Nat
deriving DecidableEq, Repr

/-- The longest run in both words; of several, the one that begins first on the left, and then first on
the right. -/
def longestRun (a b : Text) : CommonRun :=
  (List.range a.length).foldl (fun best i =>
    (List.range b.length).foldl (fun best j =>
      let n := commonStart (a.drop i) (b.drop j)
      if best.length < n then ⟨i, j, n⟩ else best) best) ⟨0, 0, 0⟩

/-- How many characters two words share: those of the longest run, and those shared before and after
it. The number bounds how often the words are cut. -/
def shared : (cuts : Nat) → Text → Text → Nat
  | 0, _, _ => 0
  | cuts + 1, a, b =>
    let run := longestRun a b
    if run.length = 0 then 0
    else run.length + shared cuts (a.take run.left) (b.take run.right)
      + shared cuts (a.drop (run.left + run.length)) (b.drop (run.right + run.length))

def overlap (a b : Text) : Nat := shared (a.length + 1) a b

def isSimilar (candidate word : Text) : Bool :=
  3 * (candidate.length + word.length) ≤ 10 * overlap candidate word

/-- Whether the first candidate is at least as close to the word as the second; of two that are equally
close the one that comes later in the order of code points. -/
def atLeastAsClose (word a b : Text) : Bool :=
  let left := overlap a word * (b.length + word.length)
  let right := overlap b word * (a.length + word.length)
  right < left || left = right && Text.atMost b a

/-- The candidates to suggest for a word: the three closest of those that are close enough, in the order
of code points. -/
def suggestions (word : Text) (candidates : List Text) : List Text :=
  let close := (candidates.filter (isSimilar · word)).mergeSort (atLeastAsClose word)
  Text.sort (close.take 3)

end ScopedSheets.Similar
