import ScopedSheets.Machine.Octets
import ScopedSheets.Text.Printable

/-!
# Names in quotes

How programs show names in what they say: as a word that a shell reads back, between double or typographic
quotes, or with escapes alone. Octets that are no printable characters are written as escapes. Where quotes
are wanted only if they are needed, what would have to be escaped needs them.
-/

namespace ScopedSheets.Quoting

/-- A text of octets in its characters; octets that are part of no character are alone. -/
def characters : Bytes → List (Option Char × Text)
  | [] => []
  | b :: bs =>
    match _h : Utf8.readChar b bs with
    | (some c, rest) =>
      (some c, Octets.ofBytes ((b :: bs).take (bs.length + 1 - rest.length))) :: characters rest
    | (none, _) => (none, Octets.ofBytes [b]) :: characters bs
termination_by bs => bs.length
decreasing_by
  · have := Utf8.length_readChar_le b bs
    simp only [_h] at this
    simp only [List.length_cons]
    omega
  · simp only [List.length_cons]
    omega

def octal (c : Char) : Text :=
  [Nat.digitChar (c.toNat / 64), Nat.digitChar (c.toNat / 8 % 8), Nat.digitChar (c.toNat % 8)]

def escape (c : Char) : Text :=
  match c with
  | '\x07' => "\\a".toList
  | '\x08' => "\\b".toList
  | '\x0c' => "\\f".toList
  | '\n' => "\\n".toList
  | '\r' => "\\r".toList
  | '\t' => "\\t".toList
  | '\x0b' => "\\v".toList
  | c => '\\' :: octal c

def isShown : Option Char → Bool
  | some c => Text.isTerminal c
  | none => false

inductive Style where
  | plain
  /-- As a word of a command, between quotes always or where it needs them. `escapes` tells whether octets that
  are not printable become escapes. -/
  | word (always escapes : Bool)
  | quoted (always : Bool)
  | escaped
  | typographic
deriving DecidableEq

def escapedIn (special : Text) (cs : List (Option Char × Text)) : Text :=
  cs.flatMap fun (c, octets) =>
    if c.any special.contains then '\\' :: octets
    else if isShown c then octets
    else octets.flatMap escape

def betweenDouble (special : Text) (cs : List (Option Char × Text)) : Text :=
  '"' :: escapedIn ('"' :: '\\' :: special) cs ++ ['"']

def meaningful : Text := "!\"$&()*;<=>[^`|?\\' \n\r\t".toList

def needsQuotes (escapes : Bool) (special t : Text) : Bool :=
  t = [] || t = ['{'] || t = ['}'] || t.head? = some '#' || t.head? = some '~'
    || t.any meaningful.contains || t.any special.contains
    || escapes && (characters (Octets.toBytes t)).any fun (c, _) => !isShown c

/-- The characters that leave a text with single quotes in it a simple one: between double quotes all of
them stand for themselves. -/
def isSimple (c : Char) : Bool :=
  c.isAlphanum || "'%+,-./:]_ @".toList.contains c || 127 < c.toNat

/-- A text between single quotes. One that is simple but for single quotes in it stands between double
quotes. -/
def asWord (escapes : Bool) (special t : Text) : Text :=
  let cs := characters (Octets.toBytes t)
  let opensSimply := t.head?.any fun c => isSimple c || c = '#' || c = '~'
  if t.contains '\'' && opensSimply && t.tail.all isSimple && cs.all fun (c, _) => isShown c then
    betweenDouble special cs
  else '\'' :: write false cs
where
  write (isOpen : Bool) : List (Option Char × Text) → Text
    | [] => ['\'']
    | (c, octets) :: cs =>
      if isShown c || !escapes then
        if c = some '\'' then "'\\''".toList ++ write false cs
        else (if isOpen then "''".toList else []) ++ octets ++ write false cs
      else (if isOpen then [] else "'$'".toList) ++ octets.flatMap escape ++ write true cs

/-- A text in a style. The special characters need quotes, or a backslash where there are quotes already. -/
def write (style : Style) (special t : Text) : Text :=
  let cs := characters (Octets.toBytes t)
  match style with
  | .plain => t
  | .word true escapes => asWord escapes special t
  | .word false escapes => if needsQuotes escapes special t then asWord escapes [] t else t
  | .quoted true => betweenDouble special cs
  | .quoted false =>
    if cs.any fun (c, _) => !isShown c || c.any ('"' :: special).contains then betweenDouble [] cs else t
  | .escaped => escapedIn ('\\' :: special) cs
  | .typographic =>
    Octets.ofText ['‘'] ++ escapedIn ('\\' :: '’' :: special) cs ++ Octets.ofText ['’']

def always (t : Text) : Text := write (.word true true) [] t

def asNeeded (t : Text) : Text := write (.word false true) [] t

def beforeColon (t : Text) : Text := write (.word false true) [':'] t

def typographic (t : Text) : Text := write .typographic [] t

end ScopedSheets.Quoting
