import TripleSlash.Directive.Layout
import TripleSlash.Path.Normal

/-! Reference directives of a source, each located by its line and by the bytes of its path.
A source is scanned piece by piece, and a directive starts its piece. -/
namespace TripleSlash

/-- Byte offsets, the end not included. -/
structure Span where
  start : Nat
  stop : Nat
deriving DecidableEq, Repr

def Span.shift (s : Span) (n : Nat) : Span := ⟨n + s.start, n + s.stop⟩

structure Directive where
  /-- The number of the line, from one. -/
  line : Nat
  /-- The byte offset of the line in the source. -/
  lineStart : Nat
  /-- The path within the line, without its quotes. -/
  span : Span
  quote : Quote
  /-- The path as it is written. -/
  raw : Text
  /-- The path that is meant. -/
  path : Path
deriving DecidableEq, Repr

namespace Directive

def ofLayout (line lineStart : Nat) (l : Layout) : Directive where
  line
  lineStart
  span := ⟨Text.size l.before, Text.size l.before + Text.size l.body⟩
  quote := l.quote
  raw := l.body
  path := ⟨l.quote.decode l.body⟩

/-- The directive that a text starts with, as if it were the first line of a source. -/
def parse? (line : Text) : Option Directive := (Layout.ofText? line).map (ofLayout 1 0)

/-- The path within the whole source. -/
def sourceSpan (d : Directive) : Span := d.span.shift d.lineStart

/-- The file that is meant, for a directive of a file in `dir`. -/
def target (d : Directive) (dir : Path) : Path := dir.resolve d.path

def scanFrom (line lineStart : Nat) : List Text → List Directive
  | [] => []
  | piece :: more =>
    (Layout.ofText? piece).toList.map (ofLayout line lineStart)
      ++ scanFrom (line + 1) (lineStart + Text.size piece) more

/-- All directives of a source, in line order. -/
def scan (source : Text) : List Directive := scanFrom 1 0 (Text.pieces source)

end Directive
end TripleSlash
