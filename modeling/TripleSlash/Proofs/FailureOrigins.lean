import TripleSlash.Proofs.Reachability
import TripleSlash.Proofs.Scanning

/-! Why a walk breaks off. The error names a directive by its file, its line and its span. That
directive stands in the text that the walk went by, it leads to the file that cannot be read, and
it is the first one of its file to lead anywhere that was not visited. An error without a
directive is about the entry itself. -/
namespace TripleSlash

namespace Text

/-- A line with the text in front of it is one of the lines, and that text is what comes before. -/
theorem of_mem_placed {start front line : Text} {all : List Text}
    (member : (front, line) ∈ placed start all) :
    line ∈ all ∧ ∃ rest, start ++ all.flatten = front ++ line ++ rest := by
  induction all generalizing start with
  | nil => exact absurd member List.not_mem_nil
  | cons first more ih =>
    rw [placed] at member
    rcases List.mem_cons.mp member with here | later
    · obtain ⟨rfl, rfl⟩ := Prod.mk.inj here
      refine ⟨List.mem_cons_self, more.flatten, ?_⟩
      rw [List.flatten_cons, List.append_assoc]
    · obtain ⟨inside, rest, split⟩ := ih later
      refine ⟨List.mem_cons_of_mem _ inside, rest, ?_⟩
      rw [List.flatten_cons, ← List.append_assoc, split]

end Text

namespace Directive
open Text

/-- The number of a line counts the line feeds in front of the path, as there are none between
the start of a line and the path of its directive. -/
theorem line_of_mem_scan {source : Text} {d : Directive} (member : d ∈ scan source) :
    ∃ front back, source = front ++ d.raw ++ back ∧
      d.sourceSpan = ⟨Text.size front, Text.size front + Text.size d.raw⟩ ∧
      d.line = 1 + front.count '\n' := by
  rw [scan_placed] at member
  obtain ⟨⟨front, line⟩, place, read⟩ := List.mem_filterMap.mp member
  obtain ⟨own, parsed, rfl⟩ := Option.map_eq_some_iff.mp read
  obtain ⟨l, layout, rfl⟩ := Option.map_eq_some_iff.mp parsed
  obtain ⟨-, rfl⟩ := Layout.ofText?_eq_some_iff.mp layout
  obtain ⟨inside, rest, split⟩ := of_mem_placed place
  have unbroken : '\n' ∉ l.before := by
    have isLine := isLine_of_mem_pieces inside
    rw [Layout.text, List.append_assoc] at isLine
    have rear : l.body ++ l.after ≠ [] :=
      List.append_ne_nil_of_right_ne_nil _ (List.cons_ne_nil _ _)
    exact ((isLine_append rear).mp isLine).1
  refine ⟨front ++ l.before, l.after ++ rest, ?_, ?_, ?_⟩
  · rw [← flatten_pieces source]
    simpa only [Layout.text, ofLayout, List.nil_append, List.append_assoc] using split
  · simp only [sourceSpan, Span.shift, ofLayout, Text.size_append, Nat.add_assoc]
  · rw [List.count_append, List.count_eq_zero.mpr unbroken]
    rfl

end Directive

/-- A path has no absolute form only for want of a current directory. -/
theorem Files.absolute_error {files : Files} {p : Path} {error : ReferenceError}
    (lost : files.absolute p = .error error) : ∃ cause, error = .currentDir p cause := by
  unfold absolute at lost
  split at lost
  · contradiction
  · split at lost
    · cases lost
      exact ⟨_, rfl⟩
    · contradiction

namespace Discovery

/-- One of these directives of a file leads to `target` and stands where `origin` says, and those
in front of it lead to visited files. -/
def Blames (visited : PathSet) (file : Path) (directives : List Directive) (target : Path)
    (origin : Origin) : Prop :=
  ∃ earlier d later, directives = earlier ++ d :: later ∧ d.target file.dir = target ∧
    origin = ⟨file, d.line, d.sourceSpan⟩ ∧ Covered visited file earlier

/-- A directive in front that leads to a visited file is not to blame. -/
theorem Blames.behind {visited : PathSet} {file target : Path} {d : Directive}
    {pending : List Directive} {origin : Origin} (blames : Blames visited file pending target origin)
    (seen : PathSet.Mem (d.target file.dir) visited) :
    Blames visited file (d :: pending) target origin := by
  obtain ⟨earlier, e, later, rfl, leads, named, covered⟩ := blames
  refine ⟨d :: earlier, e, later, rfl, leads, named, ?_⟩
  intro f member
  rcases List.mem_cons.mp member with rfl | member
  · exact seen
  · exact covered f member

/-- The directive to blame is one of those that are passed through, or one of a find. -/
theorem Descends.failure_origin {files : Files} {visited : PathSet} {file : Path}
    {pending : List Directive} {outcome : Descent}
    (h : Descends files visited file pending outcome) {target : Path} {origin : Origin}
    {cause : IoError} (failed : outcome.failure = some (.fileRead target (some origin) cause)) :
    Blames outcome.visited file pending target origin ∨
      ∃ found ∈ outcome.found, ∃ text, files.read found = .ok text ∧
        Blames outcome.visited found (Directive.scan text) target origin := by
  induction h with
  | done => contradiction
  | known seen later ih =>
    have seen := later.grows _ (PathSet.contains_iff.mp seen)
    exact (ih failed).imp_left fun blames => blames.behind seen
  | @unreadable visited file d pending cause' fresh unread =>
    cases failed
    exact Or.inl ⟨[], d, pending, rfl, rfl, rfl, fun e h => absurd h List.not_mem_nil⟩
  | @broken visited file d pending source inside error fresh readable below broken ih =>
    right
    rcases ih failed with blames | ⟨found, member, deeper⟩
    · exact ⟨_, List.mem_cons_self, source, readable, blames⟩
    · exact ⟨found, List.mem_cons_of_mem _ member, deeper⟩
  | @entered visited file d pending source inside rest fresh readable below done after first last =>
    have marked : PathSet.Mem (d.target file.dir) rest.visited :=
      after.grows _ (below.grows _ (PathSet.mem_insert.mpr (Or.inr (Path.Same.refl _))))
    rw [Descent.report, Descent.andThen_of_done done] at failed ⊢
    rcases last failed with blames | ⟨found, member, deeper⟩
    · exact Or.inl (blames.behind marked)
    · exact Or.inr ⟨found, List.mem_cons_of_mem _ (List.mem_append_right _ member), deeper⟩

/-- `origin` is where `d` stands, a directive of this text that leads to `target`, and nothing in
front of it leads to a file that was not visited. -/
structure Pinpoints (text : Text) (visited : PathSet) (target : Path) (origin : Origin)
    (d : Directive) : Prop where
  /-- The directives in front of it lead to visited files. -/
  first : ∃ earlier later, Directive.scan text = earlier ++ d :: later ∧
    Covered visited origin.file earlier
  leads : d.target origin.file.dir = target
  bytes : ((Utf8.encode text).take origin.span.stop).drop origin.span.start = Utf8.encode d.raw
  /-- The span begins behind as many bytes, and the line has one more in front of its number than
  there are line feeds, as are in front of the path. -/
  line : ∃ front back, text = front ++ d.raw ++ back ∧
    origin.span = ⟨Text.size front, Text.size front + Text.size d.raw⟩ ∧
    origin.line = 1 + front.count '\n'

theorem Blames.pinpoints {visited : PathSet} {file target : Path} {text : Text} {origin : Origin}
    (blames : Blames visited file (Directive.scan text) target origin) :
    origin.file = file ∧ ∃ d, Pinpoints text visited target origin d := by
  obtain ⟨earlier, d, later, scanned, leads, rfl, covered⟩ := blames
  have member : d ∈ Directive.scan text := by
    rw [scanned]
    exact List.mem_append_right _ List.mem_cons_self
  obtain ⟨front, back, split, span, line⟩ := Directive.line_of_mem_scan member
  have bytes := Directive.bytes_between split
  refine ⟨rfl, d, ⟨earlier, later, scanned, covered⟩, leads, ?_, front, back, split, span, line⟩
  rw [span]
  exact bytes

/-- The walk came to `target`, which cannot be read, by a directive of its entry or of a find, and
`origin` is where that directive stands. -/
def BrokeOffAt (files : Files) (path : Path) (source : Option Text) (walk : Walk) (target : Path)
    (origin : Origin) (cause : IoError) : Prop :=
  ∃ entry text d, files.absolute path = .ok entry ∧
    (origin.file = entry ∨ origin.file ∈ walk.found) ∧
    textIn files entry source origin.file = .ok text ∧
    Pinpoints text walk.visited target origin d ∧
    files.read target = .error cause ∧ ¬ PathSet.Mem target walk.visited

/-- Once its entry is open, a walk breaks off only at a directive. -/
theorem brokeOffAt_of_opened {files : Files} {path entry : Path} {source : Option Text}
    {seen : PathSet} {text : Text} (located : files.absolute path = .ok entry)
    (opened : textIn files entry source entry = .ok text) {target : Path} {origin : Option Origin}
    {cause : IoError}
    (failed : (discover files path source seen).failure = some (.fileRead target origin cause)) :
    ∃ place, origin = some place ∧
      BrokeOffAt files path source (discover files path source seen) target place cause := by
  rw [discover_opened source located (textIn_entry.symm.trans opened)] at failed ⊢
  have h : Descends files (seen.insert entry) entry (Directive.scan text)
      (walk files (seen.insert entry) [.ofSource entry text]).outcome :=
    Descends.iff_outcome.mpr rfl
  obtain ⟨_, place, _, same, unread, absent⟩ := h.failure_spec failed
  cases same
  refine ⟨place, rfl, ?_⟩
  rcases h.failure_origin failed with blames | ⟨found, member, own, read, blames⟩
  · obtain ⟨here, d, points⟩ := blames.pinpoints
    refine ⟨entry, text, d, located, Or.inl here, ?_, points, unread, absent⟩
    rw [here]
    exact opened
  · obtain ⟨here, d, points⟩ := blames.pinpoints
    have other := (not_mem_insert.mp (h.found_spec found member).1).2
    refine ⟨entry, own, d, located, Or.inr ?_, ?_, points, unread, absent⟩
    · rw [here]
      exact member
    · rw [here, textIn_other other]
      exact read

/-- A walk that breaks off at a reference points at the directive that is to blame, the first one
of its file that leads to a file that was not visited. A walk that breaks off without a directive
has found nothing, and it is its entry that was to be read and could not be. -/
theorem discover_pinpoints (files : Files) (path : Path) (source : Option Text) (seen : PathSet) :
    (∀ target origin cause, (discover files path source seen).failure =
        some (.fileRead target (some origin) cause) →
      BrokeOffAt files path source (discover files path source seen) target origin cause) ∧
    ∀ target cause, (discover files path source seen).failure =
        some (.fileRead target none cause) →
      (discover files path source seen).found = [] ∧ source = none ∧
        files.absolute path = .ok target ∧ files.read target = .error cause := by
  cases located : files.absolute path with
  | error error =>
    obtain ⟨cause, rfl⟩ := Files.absolute_error located
    rw [discover_lost source located]
    exact ⟨fun _ _ _ failed => (nomatch failed), fun _ _ failed => (nomatch failed)⟩
  | ok entry =>
    cases opened : textIn files entry source entry with
    | error cause =>
      rw [discover_unreadable source located (textIn_entry.symm.trans opened)]
      refine ⟨fun _ _ _ failed => (nomatch failed), fun target cause' failed => ?_⟩
      cases failed
      rw [textIn_entry] at opened
      cases source with
      | some own => contradiction
      | none => exact ⟨rfl, rfl, rfl, opened⟩
    | ok text =>
      constructor
      · intro target origin cause failed
        obtain ⟨_, same, broke⟩ := brokeOffAt_of_opened located opened failed
        cases same
        exact broke
      · intro target cause failed
        obtain ⟨_, same, -⟩ := brokeOffAt_of_opened located opened failed
        exact nomatch same

/-- The text of a file that refers back to its entry, and then to a file that is not there. -/
def lostText : Text :=
  "é\n/// <reference path='a.ts' />\n/// <reference path='lib/c.ts' />".toList

def lostFiles : Files := .ofTexts [(.ofString "/b.ts", lostText)]

/-- The text of the entry, and its one directive. -/
def lostSource : Text := "/// <reference path=\"b.ts\" />\n".toList

def lostEntry : Directive := ⟨1, 0, ⟨21, 25⟩, .double, "b.ts".toList, .ofString "b.ts"⟩

/-- The reference to the missing file, on the third line of the file that is found. -/
def lostOrigin : Origin := ⟨.ofString "/b.ts", 3, ⟨54, 62⟩⟩

theorem lostFiles_failure :
    (discover lostFiles (.ofString "a.ts") (some lostSource) .empty).failure =
      some (.fileRead (.ofString "/lib/c.ts") (some lostOrigin) .notFound) := by
  have located : lostFiles.absolute (.ofString "a.ts") = .ok (.ofString "/a.ts") := rfl
  have opened : lostFiles.read (lostEntry.target (Path.ofString "/a.ts").dir) = .ok lostText := rfl
  have fresh : (PathSet.empty.insert (.ofString "/a.ts")).contains
      (lostEntry.target (Path.ofString "/a.ts").dir) = false := by decide
  have inside : Descends lostFiles ⟨[.ofString "/a.ts", .ofString "/b.ts"]⟩ (.ofString "/b.ts")
      [⟨2, 3, ⟨21, 25⟩, .single, "a.ts".toList, .ofString "a.ts"⟩,
        ⟨3, 33, ⟨21, 29⟩, .single, "lib/c.ts".toList, .ofString "lib/c.ts"⟩]
      ⟨[], ⟨[.ofString "/a.ts", .ofString "/b.ts"]⟩,
        some (.fileRead (.ofString "/lib/c.ts") (some lostOrigin) .notFound)⟩ :=
    .known (by decide) (.unreadable (by decide) rfl)
  rw [discover_opened (some lostSource) located rfl]
  exact congrArg Descent.failure (Descends.broken fresh opened inside rfl).outcome_eq

/-- Without a text of its own the entry is missing as well. -/
theorem lostFiles_unopened :
    (discover lostFiles (.ofString "a.ts") none .empty).failure =
      some (.fileRead (.ofString "/a.ts") none .notFound) := by
  have located : lostFiles.absolute (.ofString "a.ts") = .ok (.ofString "/a.ts") := rfl
  rw [discover_unreadable none located rfl]

theorem lostFiles_pinpointed :
    ((discover lostFiles (.ofString "a.ts") (some lostSource) .empty).failure =
        some (.fileRead (.ofString "/lib/c.ts") (some lostOrigin) .notFound) ∧
      BrokeOffAt lostFiles (.ofString "a.ts") (some lostSource)
        (discover lostFiles (.ofString "a.ts") (some lostSource) .empty) (.ofString "/lib/c.ts")
        lostOrigin .notFound) ∧
    (discover lostFiles (.ofString "a.ts") none .empty).failure =
      some (.fileRead (.ofString "/a.ts") none .notFound) ∧
    (discover lostFiles (.ofString "a.ts") none .empty).found = [] := by
  have given := discover_pinpoints lostFiles (.ofString "a.ts") (some lostSource) .empty
  have read := discover_pinpoints lostFiles (.ofString "a.ts") none .empty
  exact ⟨⟨lostFiles_failure, given.1 _ _ _ lostFiles_failure⟩, lostFiles_unopened,
    (read.2 _ _ lostFiles_unopened).1⟩

end Discovery
end TripleSlash
