import Mathlib.Data.List.Forall2
import TripleSlash.Anchoring
import TripleSlash.Proofs.Grammar
import TripleSlash.Proofs.Lines
import TripleSlash.Proofs.NormalForm

/-! Anchored sources. Each line keeps everything but the path between its quotes, and a path
that was relative is read back as the path seen from the directory of the file, whatever
quotes and backslashes stand in either. So a reference leads to the same file as before, from
wherever the anchored text is read. -/
namespace TripleSlash

namespace Layout

/-- The path that is meant. -/
def path (l : Layout) : Path := ⟨l.quote.decode l.body⟩

/-- What the reference is to those who read its file in `dir`. -/
def seenFrom (dir : Path) (l : Layout) : Quote × Path := (l.quote, dir.resolve l.path)

variable {l : Layout}

theorem WellFormed.withBody (formed : l.WellFormed) {body : Text} (units : l.quote.Units body)
    (some_char : body ≠ []) : WellFormed { l with body } :=
  { formed with body := units, body_some := some_char }

end Layout

namespace Path

theorem resolve_of_absolute {p : Path} (absolute : p.isAbsolute = true) (dir : Path) :
    dir.resolve p = p.normalize := by
  simp [resolve, join, absolute]

end Path

namespace Anchoring

/-- A directory as it stands in front of the files in it. -/
def lead (dir : Text) : Text := if dir.getLast? = some '/' then dir else dir ++ ['/']

def anchored (dir : Text) (l : Layout) : Layout :=
  { l with body := absoluteBody dir l.quote l.body }

variable {dir piece : Text} {l : Layout}

theorem absoluteBody_eq (dir : Text) (q : Quote) (raw : Text) :
    absoluteBody dir q raw = q.escape (lead dir) ++ raw := by
  have slash : q.escape ['/'] = ['/'] := by cases q <;> rfl
  simp only [absoluteBody, lead, q.getLast?_escape]
  split
  · rfl
  · rw [q.escape_append, slash, List.append_assoc]
    rfl

theorem anchored_path (dir : Text) (l : Layout) :
    (anchored dir l).path = ⟨lead dir ++ l.path.text⟩ := by
  simp only [Layout.path, anchored, absoluteBody_eq, Quote.decode_escape_append]

theorem isAbsolute_lead {dir : Path} (absolute : dir.isAbsolute = true) (t : Text) :
    (Path.mk (lead dir.text ++ t)).isAbsolute = true := by
  obtain ⟨rest, shape⟩ := Path.isAbsolute_iff.mp absolute
  unfold lead
  split <;> simp [Path.isAbsolute, shape]

/-- A relative path seen from a directory is the text with the directory in front. -/
theorem join_relative {dir p : Path} (absolute : dir.isAbsolute = true)
    (relative : p.isAbsolute = false) : dir.join p = ⟨lead dir.text ++ p.text⟩ := by
  have some_char : dir.text ≠ [] := by
    intro empty
    simp [Path.isAbsolute, empty] at absolute
  simp only [Path.join, relative, Bool.false_eq_true, if_false, some_char, false_or, lead]
  split
  · rfl
  · rw [List.append_assoc]
    rfl

/-- From wherever it is seen, an anchored path is the one seen from the directory before. -/
theorem resolve_anchored {dir : Path} (absolute : dir.isAbsolute = true)
    (relative : l.path.isAbsolute = false) (other : Path) :
    other.resolve (anchored dir.text l).path = dir.resolve l.path := by
  rw [anchored_path, Path.resolve_of_absolute (isAbsolute_lead absolute _), Path.resolve,
    join_relative absolute relative]

theorem relative?_eq_some_iff :
    relative? piece = some l ↔ Layout.ofText? piece = some l ∧ l.path.isAbsolute = false := by
  simp [relative?, Option.filter_eq_some_iff, Layout.path]

theorem anchorPiece_relative (relative : relative? piece = some l) :
    anchorPiece dir piece = (anchored dir l).text := by
  rw [anchorPiece, relative]
  rfl

theorem anchorPiece_other (other : relative? piece = none) : anchorPiece dir piece = piece := by
  rw [anchorPiece, other]

theorem anchored_wellFormed (dir : Text) (formed : l.WellFormed) : (anchored dir l).WellFormed := by
  refine formed.withBody ?_ ?_
  · rw [absoluteBody_eq]
    exact (Quote.units_escape _ _).append formed.body
  · rw [absoluteBody_eq]
    exact List.append_ne_nil_of_right_ne_nil _ formed.body_some

theorem ofText?_anchorPiece (relative : relative? piece = some l) :
    Layout.ofText? (anchorPiece dir piece) = some (anchored dir l) := by
  have read := (relative?_eq_some_iff.mp relative).1
  rw [anchorPiece_relative relative, Layout.ofText?_eq_some_iff]
  exact ⟨anchored_wellFormed dir (Layout.ofText?_eq_some_iff.mp read).1, rfl⟩

/-- Whether an anchored piece is a directive, with which quotes and to which file, is as it
was when seen from the directory. -/
theorem seenFrom_anchorPiece {dir : Path} (absolute : dir.isAbsolute = true) (piece : Text) :
    (Layout.ofText? (anchorPiece dir.text piece)).map (Layout.seenFrom dir) =
      (Layout.ofText? piece).map (Layout.seenFrom dir) := by
  cases relative : relative? piece with
  | none => rw [anchorPiece_other relative]
  | some l =>
    obtain ⟨read, inside⟩ := relative?_eq_some_iff.mp relative
    rw [ofText?_anchorPiece relative, read, Option.map_some, Option.map_some, Layout.seenFrom,
      Layout.seenFrom, resolve_anchored absolute inside]
    rfl

section Lines
open Text

theorem after_ne_nil (l : Layout) : l.after ≠ [] := List.cons_ne_nil _ _

theorem closed_anchorPiece (closed : Closed piece) : Closed (anchorPiece dir piece) := by
  cases relative : relative? piece with
  | none => rwa [anchorPiece_other relative]
  | some l =>
    obtain ⟨-, rfl⟩ := Layout.ofText?_eq_some_iff.mp (relative?_eq_some_iff.mp relative).1
    rw [anchorPiece_relative relative]
    unfold Closed Layout.text at closed ⊢
    rw [List.getLast?_append_of_ne_nil _ (after_ne_nil l)] at closed
    rwa [List.getLast?_append_of_ne_nil _ (after_ne_nil (anchored dir l))]

theorem newline_mem_lead : '\n' ∈ lead dir ↔ '\n' ∈ dir := by
  unfold lead
  split <;> simp

theorem parts_of_line (line : IsLine l.text) : '\n' ∉ l.before ∧ '\n' ∉ l.body ∧ IsLine l.after := by
  obtain ⟨free, ending⟩ := (isLine_append (after_ne_nil l)).mp line
  simp only [List.mem_append, not_or] at free
  exact ⟨free.1, free.2, ending⟩

/-- A directory without line feeds leaves each line a line. -/
theorem isLine_anchorPiece (free : '\n' ∉ dir) (line : IsLine piece) :
    IsLine (anchorPiece dir piece) := by
  cases relative : relative? piece with
  | none => rwa [anchorPiece_other relative]
  | some l =>
    obtain ⟨-, rfl⟩ := Layout.ofText?_eq_some_iff.mp (relative?_eq_some_iff.mp relative).1
    obtain ⟨front, body, ending⟩ := parts_of_line line
    have inserted : '\n' ∉ (anchored dir l).body := by
      simp only [anchored, absoluteBody_eq, List.mem_append, not_or]
      exact ⟨fun h => (Quote.mem_escape h).elim (by decide) (mt newline_mem_lead.mp free), body⟩
    rw [anchorPiece_relative relative]
    refine (isLine_append (after_ne_nil (anchored dir l))).mpr ⟨?_, ending⟩
    simp only [List.mem_append, not_or]
    exact ⟨front, inserted⟩

theorem pieces_anchorIn (dir source : Text) :
    pieces (anchorIn dir source) =
      (pieces source).flatMap fun piece => pieces (anchorPiece dir piece) :=
  pieces_flatMap (cut_pieces source) fun _ _ => closed_anchorPiece

theorem pieces_anchorIn_of_not_mem (free : '\n' ∉ dir) (source : Text) :
    pieces (anchorIn dir source) = (pieces source).map (anchorPiece dir) := by
  have single : ∀ piece ∈ pieces source, pieces (anchorPiece dir piece) = [anchorPiece dir piece] :=
    fun piece h => pieces_line (isLine_anchorPiece free (isLine_of_mem_pieces h))
  rw [pieces_anchorIn, List.flatMap_congr single, List.map_eq_flatMap]

end Lines
end Anchoring

namespace Directive

theorem parse?_eq_some_iff {piece : Text} {d : Directive} :
    parse? piece = some d ↔ ∃ l, Layout.ofText? piece = some l ∧ ofLayout 1 0 l = d :=
  Option.map_eq_some_iff

/-- Its line, its quotes and the file that it leads to from `dir`. -/
def seenFrom (dir : Path) (d : Directive) : Nat × Quote × Path := (d.line, d.quote, d.target dir)

theorem seenFrom_toList (dir : Path) (line start : Nat) (read : Option Layout) :
    (read.toList.map (ofLayout line start)).map (seenFrom dir) =
      (read.map (Layout.seenFrom dir)).toList.map (line, ·) := by
  cases read <;> rfl

/-- Changes that keep quotes and files of the pieces keep those of the source, whatever bytes
the lines begin at. -/
theorem scanFrom_map_seenFrom {dir : Path} {change : Text → Text} {all : List Text}
    (same : ∀ piece ∈ all, (Layout.ofText? (change piece)).map (Layout.seenFrom dir) =
      (Layout.ofText? piece).map (Layout.seenFrom dir)) (line start start' : Nat) :
    (scanFrom line start (all.map change)).map (seenFrom dir) =
      (scanFrom line start' all).map (seenFrom dir) := by
  induction all generalizing line start start' with
  | nil => rfl
  | cons piece more ih =>
    have later := ih (fun p h => same p (List.mem_cons_of_mem _ h)) (line + 1)
      (start + Text.size (change piece)) (start' + Text.size piece)
    simp only [List.map_cons, scanFrom, List.map_append, seenFrom_toList,
      same piece List.mem_cons_self, later]

/-- The path of a directive stands between these two parts of its line. -/
def Splits (d : Directive) (line before after : Text) : Prop :=
  line = before ++ d.raw ++ after ∧
    d.span = ⟨Text.size before, Text.size before + Text.size d.raw⟩

end Directive

namespace Anchoring

/-- What a line of a file in `dir` becomes: a relative reference has its path seen from `dir`
and leads from anywhere to the file that it led to from `dir`; any other line stays. -/
structure Emitted (dir : Path) (line out : Text) : Prop where
  relative : ∀ d, Directive.parse? line = some d → d.path.isAbsolute = false →
    ∃ d' before after, Directive.parse? out = some d' ∧ d.Splits line before after ∧
      d'.Splits out before after ∧ d'.quote = d.quote ∧
      d'.path = ⟨lead dir.text ++ d.path.text⟩ ∧ ∀ base, d'.target base = d.target dir
  other : (∀ d, Directive.parse? line = some d → d.path.isAbsolute = true) → out = line

theorem splits_ofLayout (l : Layout) (line start : Nat) :
    (Directive.ofLayout line start l).Splits l.text l.before l.after :=
  ⟨rfl, rfl⟩

theorem emitted_anchorPiece {dir : Path} (absolute : dir.isAbsolute = true) (line : Text) :
    Emitted dir line (anchorPiece dir.text line) := by
  cases relative : relative? line with
  | none =>
    refine ⟨fun d parsed inside => ?_, fun _ => anchorPiece_other relative⟩
    obtain ⟨l, read, rfl⟩ := Directive.parse?_eq_some_iff.mp parsed
    exact nomatch relative.symm.trans (relative?_eq_some_iff.mpr ⟨read, inside⟩)
  | some l =>
    obtain ⟨read, inside⟩ := relative?_eq_some_iff.mp relative
    have written := (Layout.ofText?_eq_some_iff.mp read).2
    refine ⟨fun d parsed _ => ?_, fun all => ?_⟩
    · obtain ⟨l', read', rfl⟩ := Directive.parse?_eq_some_iff.mp parsed
      obtain rfl : l = l' := Option.some.inj (read.symm.trans read')
      refine ⟨Directive.ofLayout 1 0 (anchored dir.text l), l.before, l.after,
        Directive.parse?_eq_some_iff.mpr ⟨_, ofText?_anchorPiece relative, rfl⟩, ?_, ?_, rfl,
        anchored_path dir.text l, fun base => ?_⟩
      · rw [written]
        exact splits_ofLayout l 1 0
      · rw [anchorPiece_relative relative]
        exact splits_ofLayout (anchored dir.text l) 1 0
      · exact resolve_anchored absolute inside base
    · have outside := all _ (Directive.parse?_eq_some_iff.mpr ⟨l, read, rfl⟩)
      exact nomatch inside.symm.trans outside

theorem isAbsolute_dir {files : Files} {path file : Path} (located : files.absolute path = .ok file) :
    file.dir.isAbsolute = true := by
  obtain ⟨names, proper, rfl⟩ := Files.absolute_shape located
  rw [Path.dir_ofParts proper]
  rfl

/-- A text with the references of a source whose file is in `dir`. -/
structure KeepsReferences (dir : Path) (source text : Text) : Prop where
  lines : ∃ lines, text = lines.flatten ∧ List.Forall₂ (Emitted dir) (Text.pieces source) lines
  /-- A line feed in the name of the directory breaks the line that the name is written on. -/
  scanned : '\n' ∉ dir.text → (Directive.scan text).map (Directive.seenFrom dir) =
    (Directive.scan source).map (Directive.seenFrom dir)

/-- Anchoring keeps every reference of a source and the file it leads to. -/
theorem anchor_keeps_references {files : Files} {path file : Path}
    (located : files.absolute path = .ok file) (source : Text) :
    ∃ text, anchor files path source = .ok text ∧ KeepsReferences file.dir source text := by
  have absolute := isAbsolute_dir located
  refine ⟨anchorIn file.dir.text source, by rw [anchor, located]; rfl,
    ⟨(Text.pieces source).map (anchorPiece file.dir.text), rfl, ?_⟩, fun free => ?_⟩
  · rw [List.forall₂_map_right_iff, List.forall₂_same]
    exact fun line _ => emitted_anchorPiece absolute line
  · rw [Directive.scan, Directive.scan, pieces_anchorIn_of_not_mem free]
    exact Directive.scanFrom_map_seenFrom (fun piece _ => seenFrom_anchorPiece absolute piece) 1 0 0

/-- A relative path in the quotes that the name of its directory holds as well. -/
theorem quoted_directory_keeps_references :
    (Files.ofTexts []).absolute (.ofString "/a\"b\\c'/./main.ts") =
        .ok (.ofString "/a\"b\\c'/main.ts") ∧
      ∃ text, anchor (.ofTexts []) (.ofString "/a\"b\\c'/./main.ts")
          "/// <reference path=\"lib\\\".ts\" />\r\nlet x\n".toList = .ok text ∧
        KeepsReferences (Path.ofString "/a\"b\\c'/main.ts").dir
          "/// <reference path=\"lib\\\".ts\" />\r\nlet x\n".toList text :=
  ⟨rfl, anchor_keeps_references rfl _⟩

end Anchoring
end TripleSlash
