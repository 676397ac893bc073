import TripleSlash.Directive.Quoting

/-! How a reference directive is laid out on its line: three slashes, the tag, the quoted
path and the end mark, with blanks where they may stand. A layout keeps every character, so
writing it gives the line back. -/
namespace TripleSlash

structure Layout where
  /-- Blanks between the slashes and the tag. -/
  lead : Text
  /-- Blanks, at least one, between the tag and its attribute. -/
  gap : Text
  quote : Quote
  body : Text
  /-- Blanks between the closing quote and the end mark. -/
  trail : Text
  /-- Whatever follows the end mark. -/
  rest : Text
deriving DecidableEq, Repr

namespace Layout

def slashes : Text := ['/', '/', '/']

def tag : Text := "<reference".toList

def pathKey : Text := "path=".toList

def close : Text := ['/', '>']

/-- The line in front of the quoted path. -/
def before (l : Layout) : Text :=
  slashes ++ l.lead ++ tag ++ l.gap ++ pathKey ++ [l.quote.char]

/-- The line behind the quoted path. -/
def after (l : Layout) : Text := l.quote.char :: l.trail ++ close ++ l.rest

def text (l : Layout) : Text := l.before ++ l.body ++ l.after

def ofText? (line : Text) : Option Layout := do
  let afterSlashes ← Text.after? slashes line
  let afterTag ← Text.after? tag (afterSlashes.dropWhile Text.isBlank)
  let afterKey ← Text.after? pathKey (afterTag.dropWhile Text.isBlank)
  let quote ← afterKey.head?.bind Quote.ofChar?
  let (body, afterBody) ← quote.takeBody afterKey.tail
  let rest ← Text.after? close (afterBody.dropWhile Text.isBlank)
  let gap := afterTag.takeWhile Text.isBlank
  let lead := afterSlashes.takeWhile Text.isBlank
  let trail := afterBody.takeWhile Text.isBlank
  if gap = [] ∨ body = [] then none else some ⟨lead, gap, quote, body, trail, rest⟩

end Layout
end TripleSlash
