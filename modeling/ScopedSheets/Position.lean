import ScopedSheets.Text

/-!
# Positions

A place in a text as line and column. Both count from one, and only a line feed starts a new line.
-/

namespace ScopedSheets

/-- Line and column of a place in a text, both counted from one. -/
structure Position where
  line : Nat
  column : Nat
deriving DecidableEq, Repr

namespace Position

/-- The place just after `before`: one line for each line feed, one column for each code point since
the last of them. -/
def after (before : Text) : Position :=
  ⟨before.count '\n' + 1, (before.reverse.takeWhile (· != '\n')).length + 1⟩

def ofOffset (t : Text) (offset : Nat) : Position := after (t.take offset)

@[simp] theorem after_nil : after [] = ⟨1, 1⟩ := rfl

theorem after_concat_newline (t : Text) : after (t ++ ['\n']) = ⟨(after t).line + 1, 1⟩ := by
  simp [after]

theorem after_concat {t : Text} {c : Char} (h : c ≠ '\n') :
    after (t ++ [c]) = ⟨(after t).line, (after t).column + 1⟩ := by
  simp [after, h]

end Position

end ScopedSheets
