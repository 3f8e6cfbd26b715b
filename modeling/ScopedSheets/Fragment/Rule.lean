import ScopedSheets.Fragment.Braces
import ScopedSheets.Selector
import ScopedSheets.Text.Blank

/-!
# The rules of a fragment, and the fragment under a scope

The rules of a fragment are its raw rules read further: the comments of a header stand apart, its
characters split at commas into trimmed selectors. A body is kept as written, except that the body of an
`@media` rule holds rules itself and is put under the scope too. A fragment under a scope is all its
rules, one after the other, with their selectors scoped; selector text, comments and unclosed bodies
after the last closed rule are dropped.
-/

namespace ScopedSheets

namespace RawRule

def comments (r : RawRule) : List Text := r.header.filterMap Piece.comment?

/-- The selectors: the header without its comments, split at commas, each part trimmed. -/
def selectors (r : RawRule) : List Text :=
  ((r.header.filterMap Piece.char?).splitOn ',').map (Text.trim Text.isSelectorBlank)

/-- Whether the body holds rules: the last selector decides, since it stands next to the brace. -/
def isMedia (r : RawRule) : Bool :=
  r.selectors.getLast?.any "@media".toList.isPrefixOf

def innerText (r : RawRule) : Text := writePieces r.inner

end RawRule

structure Rule where
  selectors : List Text
  body : Text
  comments : List Text
deriving DecidableEq, Repr

namespace Rule

/-- The rule under a scope: a line for each comment, the scoped selectors on a line each, the body,
and an empty line. -/
def render (scope : Text) (r : Rule) : Text :=
  r.comments.flatMap (· ++ ['\n'])
    ++ ",\n".toList.intercalate (r.selectors.map (scopeSelector scope))
    ++ ' ' :: r.body ++ "\n\n".toList

end Rule

def braced (t : Text) : Text := '{' :: t ++ ['}']

/-- A scoped `@media` body: it starts on a line of its own, and one of the line feeds at its end
goes. -/
def mediaBody (inner : Text) : Text := braced ("\n    ".toList ++ inner.dropLastIf '\n')

/-- The rules of a fragment, in order, with the bodies of `@media` rules put under `scope`. -/
def rules (scope fragment : Text) : List Rule :=
  (splitRules (pieces fragment)).1.attach.map fun ⟨r, _⟩ =>
    { selectors := r.selectors
      body :=
        if r.isMedia then mediaBody ((rules scope r.innerText).flatMap (Rule.render scope))
        else braced r.innerText
      comments := r.comments }
termination_by fragment.length
decreasing_by
  have := length_inner_lt ‹_›
  rwa [writePieces_pieces] at this

/-- A fragment under a scope: all its rules, each with its selectors scoped. -/
def applyScope (scope fragment : Text) : Text := (rules scope fragment).flatMap (Rule.render scope)

namespace RawRule

def toRule (scope : Text) (r : RawRule) : Rule :=
  { selectors := r.selectors
    body := if r.isMedia then mediaBody (applyScope scope r.innerText) else braced r.innerText
    comments := r.comments }

end RawRule

/-- Each closed rule of the fragment is one rule, and nothing else is. -/
theorem rules_eq (scope fragment : Text) :
    rules scope fragment = (splitRules (pieces fragment)).1.map (RawRule.toRule scope) := by
  rw [rules]
  exact List.attach_map_val (f := RawRule.toRule scope)

end ScopedSheets
