import ScopedSheets.Text

/-!
# Selectors under a scope

A scope has a selector of its own, such as `.nav-items`, and every selector written inside it is
changed so that it matches only there. Two words stand for elements of the scope itself: `root` for
its own element, `directory` for the scope one naming level up.
-/

namespace ScopedSheets

def segments (scope : Text) : List Text := (scope.splitOn '-').filter (!·.isEmpty)

/-- The scope one naming level up: the segments without the last, joined by single hyphens. -/
def parentScope (scope : Text) : Text := ['-'].intercalate (segments scope).dropLast

inductive Selector where
  /-- An at-rule header or a comment, which no scope changes. -/
  | verbatim (text : Text)
  /-- The scope's own element, with what is written after the word `root`. -/
  | own (rest : Text)
  /-- The scope above, with what is written after the word `directory`. -/
  | parent (rest : Text)
  /-- An element inside the scope. -/
  | inner (text : Text)
deriving DecidableEq

namespace Selector

/-- Whether the word `root` stands alone when this follows it. -/
def endsWord : Text → Bool
  | [] => true
  | c :: _ => c = '.' || c = ':' || c = ' '

def ofText (text : Text) : Selector :=
  if "/*".toList.isPrefixOf text || "@".toList.isPrefixOf text then .verbatim text
  else match "root".toList.isPrefixOf? text with
    | some rest => if endsWord rest then .own rest else .inner text
    | none => match "directory".toList.isPrefixOf? text with
      | some rest => .parent rest
      | none => .inner text

def render (scope : Text) : Selector → Text
  | verbatim text => text
  | own rest => scope ++ rest
  | parent rest => parentScope scope ++ rest
  | inner text => scope ++ ' ' :: text

end Selector

/-- A selector of the block of `scope`, changed so that it matches only inside that scope. -/
def scopeSelector (scope selector : Text) : Text := (Selector.ofText selector).render scope

end ScopedSheets
