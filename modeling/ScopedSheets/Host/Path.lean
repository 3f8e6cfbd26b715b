import ScopedSheets.Text

/-!
# File paths

A path as it is written, read into its components. Empty components and single dots say nothing and are
left out; double dots stay, because what they mean depends on the disk. A path that begins with exactly
two slashes keeps both, and otherwise one slash stands for any number of them.
-/

namespace ScopedSheets

structure Path where
  slashes : Nat
  parts : List Text
deriving DecidableEq, Repr

namespace Path

def isPart (part : Text) : Bool := part ≠ [] && part ≠ ['.']

def ofText (t : Text) : Path :=
  let slashes := (t.takeWhile (· == '/')).length
  ⟨if slashes = 2 then 2 else min slashes 1, (t.splitOn '/').filter isPart⟩

/-- The path in its shortest writing. -/
def text (p : Path) : Text :=
  if p.slashes = 0 ∧ p.parts = [] then ['.']
  else List.replicate p.slashes '/' ++ ['/'].intercalate p.parts

def isAbsolute (p : Path) : Bool := p.slashes ≠ 0

/-- The path `q` as seen from the directory `p`. -/
def join (p q : Path) : Path := if q.isAbsolute then q else ⟨p.slashes, p.parts ++ q.parts⟩

def parent (p : Path) : Path := ⟨p.slashes, p.parts.dropLast⟩

end Path

end ScopedSheets
