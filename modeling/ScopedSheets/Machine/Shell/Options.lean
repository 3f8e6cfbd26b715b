import ScopedSheets.Text

/-!
# Options of a shell

The options by which a shell can be told to behave, each with its name and its letter.
-/

namespace ScopedSheets.Shell

inductive Setting where
  | errexit | noglob | noexec | stdin | xtrace | verbose | noclobber | allexport | nounset
deriving DecidableEq

namespace Setting

def table : List (Setting × String × Char) :=
  [(errexit, "errexit", 'e'), (noglob, "noglob", 'f'), (noexec, "noexec", 'n'), (stdin, "stdin", 's'),
   (xtrace, "xtrace", 'x'), (verbose, "verbose", 'v'), (noclobber, "noclobber", 'C'),
   (allexport, "allexport", 'a'), (nounset, "nounset", 'u')]

def ofLetter? (letter : Char) : Option Setting :=
  (table.find? fun (_, _, l) => l = letter).map Prod.fst

def ofName? (name : Text) : Option Setting :=
  (table.find? fun (_, n, _) => n.toList = name).map Prod.fst

/-- The letters of options, the last in the table first. -/
def letters (settings : List Setting) : Text :=
  table.reverse.filterMap fun (s, _, letter) => if settings.contains s then some letter else none

def set (settings : List Setting) (s : Setting) (on : Bool) : List Setting :=
  if on then s :: settings.filter (· ≠ s) else settings.filter (· ≠ s)

end Setting

end ScopedSheets.Shell
