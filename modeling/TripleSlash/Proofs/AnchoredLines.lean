import Mathlib.Algebra.Order.BigOperators.Group.List
import Mathlib.Algebra.Order.Ring.Nat
import TripleSlash.Proofs.Anchored

/-! The lines of an anchored source. What is put into a line comes from the name of a directory
and stands before the closing quote, so a line keeps its ending whatever the name is. A name
without line feeds keeps the lines apart as they were; one with a line feed adds lines wherever
it is written, so the lines stay as they were only if it is written nowhere. -/
namespace TripleSlash

namespace Text

/-- How a line ends: with a carriage return and a line feed, with a line feed, or without. -/
def ending (line : Text) : Text :=
  match line.reverse with
  | '\n' :: '\r' :: _ => ['\r', '\n']
  | '\n' :: _ => ['\n']
  | _ => []

/-- Only what follows an ordinary character has a say in the ending. -/
theorem ending_append {c : Char} (no_return : c ≠ '\r') (no_feed : c ≠ '\n') (s t : Text) :
    ending (s ++ c :: t) = ending (c :: t) := by
  have whole : (s ++ c :: t).reverse = t.reverse ++ c :: s.reverse := by simp
  have rear : (c :: t).reverse = t.reverse ++ [c] := by simp
  unfold ending
  rw [whole, rear]
  cases t.reverse with
  | nil => simp [no_feed]
  | cons last before =>
    cases before with
    | nil => by_cases feed : last = '\n' <;> simp [feed, no_return]
    | cons next before =>
      by_cases feed : last = '\n'
      · by_cases back : next = '\r' <;> simp [feed, back]
      · simp [feed]

/-- A line feed with something behind it ends a line and leaves another one. -/
theorem two_le_length_pieces {s t : Text} (feed : '\n' ∈ s) (some_char : t ≠ []) :
    2 ≤ (pieces (s ++ t)).length := by
  obtain ⟨first, rest, rfl, free⟩ := List.eq_append_cons_of_mem feed
  have behind : rest ++ t ≠ [] := List.append_ne_nil_of_right_ne_nil rest some_char
  have more : 0 < (pieces (rest ++ t)).length := List.length_pos_iff.mpr (pieces_ne_nil behind)
  rw [List.append_assoc, List.cons_append, pieces_first free, List.length_cons]
  omega

end Text

namespace Anchoring
open Text

variable {dir source piece line out text : Text} {l : Layout}

/-- A line that ends as it did, and that is still the same line unless it was a directive with a
relative path. -/
structure KeepsLine (line out : Text) : Prop where
  ending : out.ending = line.ending
  other : (∀ d, Directive.parse? line = some d → d.path.isAbsolute = true) → out = line

/-- As many lines as before, each of which keeps its place. -/
def KeepsLines (source text : Text) : Prop := List.Forall₂ KeepsLine (pieces source) (pieces text)

theorem ending_text (l : Layout) : l.text.ending = l.after.ending := by
  rw [Layout.text, Layout.after]
  apply ending_append
  · cases l.quote <;> decide
  · exact l.quote.char_ne_newline

theorem relative?_eq_none_iff :
    relative? line = none ↔ ∀ d, Directive.parse? line = some d → d.path.isAbsolute = true := by
  constructor
  · intro other d parsed
    obtain ⟨l, read, rfl⟩ := Directive.parse?_eq_some_iff.mp parsed
    by_contra inside
    have relative := relative?_eq_some_iff.mpr ⟨read, Bool.eq_false_of_not_eq_true inside⟩
    rw [other] at relative
    contradiction
  · intro outside
    cases relative : relative? line with
    | none => rfl
    | some l =>
      obtain ⟨read, inside⟩ := relative?_eq_some_iff.mp relative
      have absolute := outside _ (Directive.parse?_eq_some_iff.mpr ⟨l, read, rfl⟩)
      exact nomatch inside.symm.trans absolute

theorem keepsLine_anchorPiece (dir line : Text) : KeepsLine line (anchorPiece dir line) := by
  constructor
  · cases relative : relative? line with
    | none => rw [anchorPiece_other relative]
    | some l =>
      obtain ⟨-, rfl⟩ := Layout.ofText?_eq_some_iff.mp (relative?_eq_some_iff.mp relative).1
      rw [anchorPiece_relative relative, ending_text, ending_text]
      rfl
  · intro outside
    exact anchorPiece_other (relative?_eq_none_iff.mpr outside)

/-- A name without line feeds leaves the lines as they were. -/
theorem keepsLines_of_not_mem (free : '\n' ∉ dir) (source : Text) :
    KeepsLines source (anchorIn dir source) := by
  rw [KeepsLines, pieces_anchorIn_of_not_mem free, List.forall₂_map_right_iff, List.forall₂_same]
  exact fun line _ => keepsLine_anchorPiece dir line

/-- Without relative references nothing is written anywhere. -/
theorem anchorIn_eq_self (nowhere : ∀ line ∈ pieces source, relative? line = none) :
    anchorIn dir source = source := by
  have same : ∀ line ∈ pieces source, anchorPiece dir line = line :=
    fun line here => anchorPiece_other (nowhere line here)
  calc anchorIn dir source
      = (pieces source).flatMap id := List.flatMap_congr same
    _ = source := by rw [List.flatMap_id, flatten_pieces]

/-- A line feed in the name adds a line wherever the name is written. -/
theorem two_le_length_anchorPiece (feed : '\n' ∈ dir) (relative : relative? line = some l) :
    2 ≤ (pieces (anchorPiece dir line)).length := by
  have inside : '\n' ∈ (anchored dir l).before ++ (anchored dir l).body := by
    refine List.mem_append_right _ ?_
    change '\n' ∈ absoluteBody dir l.quote l.body
    rw [absoluteBody_eq]
    exact List.mem_append_left _ (Quote.mem_escape_of_mem (newline_mem_lead.mpr feed))
  rw [anchorPiece_relative relative]
  exact two_le_length_pieces inside (after_ne_nil (anchored dir l))

theorem length_lt_of_feed (feed : '\n' ∈ dir) (here : line ∈ pieces source)
    (relative : relative? line = some l) :
    (pieces source).length < (pieces (anchorIn dir source)).length := by
  have each : ∀ piece ∈ pieces source, 1 ≤ (pieces (anchorPiece dir piece)).length := by
    intro piece member
    cases changed : relative? piece with
    | none =>
      rw [anchorPiece_other changed, pieces_line (isLine_of_mem_pieces member)]
      exact Nat.le_refl 1
    | some l => exact Nat.le_of_succ_le (two_le_length_anchorPiece feed changed)
  have more := List.sum_lt_sum (l := pieces source) (fun _ => 1) _ each
    ⟨line, here, two_le_length_anchorPiece feed relative⟩
  rw [pieces_anchorIn, List.length_flatMap]
  simpa using more

/-- The lines stay as they were exactly if the name of the directory has no line feed, or is
written nowhere. -/
theorem keepsLines_iff (dir source : Text) :
    KeepsLines source (anchorIn dir source) ↔
      '\n' ∉ dir ∨ ∀ line ∈ pieces source, relative? line = none := by
  constructor
  · intro keeps
    by_contra broken
    simp only [not_or, not_not, not_forall] at broken
    obtain ⟨feed, line, here, written⟩ := broken
    obtain ⟨l, relative⟩ := Option.ne_none_iff_exists'.mp written
    have longer := length_lt_of_feed feed here relative
    have same := List.Forall₂.length_eq keeps
    omega
  · rintro (free | nowhere)
    · exact keepsLines_of_not_mem free source
    · rw [anchorIn_eq_self nowhere, KeepsLines, List.forall₂_same]
      exact fun line _ => ⟨rfl, fun _ => rfl⟩

/-- Anchoring a source keeps its lines, unless it has a relative reference and there is a line
feed in the name of its directory. -/
theorem anchor_keepsLines_iff {files : Files} {path file : Path}
    (located : files.absolute path = .ok file) (source : Text) :
    ∃ text, anchor files path source = .ok text ∧
      (KeepsLines source text ↔ '\n' ∉ file.dir.text ∨
        ∀ line ∈ pieces source, ∀ d, Directive.parse? line = some d → d.path.isAbsolute = true) := by
  refine ⟨anchorIn file.dir.text source, by rw [anchor, located]; rfl, ?_⟩
  rw [keepsLines_iff]
  simp only [relative?_eq_none_iff]

/-- Lines of each ending, one of them rewritten. -/
theorem mixed_endings_kept :
    (Files.ofTexts []).absolute (.ofString "/p/main.ts") = .ok (.ofString "/p/main.ts") ∧
      ∃ text, anchor (.ofTexts []) (.ofString "/p/main.ts")
          "/// <reference path='x.ts' />\r\n\nlet x".toList = .ok text ∧
        KeepsLines "/// <reference path='x.ts' />\r\n\nlet x".toList text := by
  have located : (Files.ofTexts []).absolute (.ofString "/p/main.ts") =
      .ok (.ofString "/p/main.ts") := rfl
  obtain ⟨text, anchored, keeps⟩ :=
    anchor_keepsLines_iff located "/// <reference path='x.ts' />\r\n\nlet x".toList
  exact ⟨located, text, anchored, keeps.mpr (Or.inl (by decide))⟩

/-- A line that is a directive, and the line feed of a directory that breaks it. -/
theorem feed_in_directory_adds_line :
    (Files.ofTexts []).absolute (.ofString "/a\nb/main.ts") = .ok (.ofString "/a\nb/main.ts") ∧
      anchor (.ofTexts []) (.ofString "/a\nb/main.ts") "/// <reference path=\"x.ts\" />\n".toList =
        .ok "/// <reference path=\"/a\nb/x.ts\" />\n".toList ∧
      ¬ KeepsLines "/// <reference path=\"x.ts\" />\n".toList
        "/// <reference path=\"/a\nb/x.ts\" />\n".toList := by
  refine ⟨rfl, rfl, fun keeps => ?_⟩
  have same := List.Forall₂.length_eq keeps
  contradiction

end Anchoring
end TripleSlash
