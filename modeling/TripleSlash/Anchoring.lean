import TripleSlash.Files

/-! Anchoring a source: its relative reference paths are made absolute in place. Only the
path between the quotes of a relative directive changes: the directory of the file goes in
front of it, escaped for the quotes it is put between. -/
namespace TripleSlash

namespace Anchoring

/-- What is written between the quotes in place of the relative path `raw`. -/
def absoluteBody (dir : Text) (quote : Quote) (raw : Text) : Text :=
  let escaped := quote.escape dir
  if escaped.getLast? = some '/' then escaped ++ raw else escaped ++ '/' :: raw

/-- The layout of a piece whose directive names a relative path. -/
def relative? (piece : Text) : Option Layout :=
  (Layout.ofText? piece).filter fun l => !(Path.mk (l.quote.decode l.body)).isAbsolute

def anchorPiece (dir piece : Text) : Text :=
  match relative? piece with
  | none => piece
  | some l => l.before ++ absoluteBody dir l.quote l.body ++ l.after

/-- The source of a file in `dir` with every relative reference made absolute. -/
def anchorIn (dir source : Text) : Text := (Text.pieces source).flatMap (anchorPiece dir)

/-- The source of the file at `p` with every relative reference made absolute. -/
def anchor (files : Files) (p : Path) (source : Text) : Except ReferenceError Text :=
  (files.absolute p).map fun file => anchorIn file.dir.text source

/-- A path as it was written and as it is written now. -/
structure Change where
  raw : Text
  replaced : Text
deriving DecidableEq, Repr

/-- What `anchorIn` changes, in order. -/
def changesIn (dir source : Text) : List Change :=
  (Text.pieces source).filterMap fun piece =>
    (relative? piece).map fun l => ⟨l.body, absoluteBody dir l.quote l.body⟩

end Anchoring
end TripleSlash
