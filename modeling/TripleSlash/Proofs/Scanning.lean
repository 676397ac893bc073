import Mathlib.Data.List.Basic
import TripleSlash.Proofs.Lines
import TripleSlash.Proofs.Recognition

/-! What is scanned off a source, and where. The lines that are directives are found, each of
them in its place: the number and the start of a line follow from the text in front of it, and a
span holds the bytes of the path. Text in front of a source only moves what is found, so two
sources one behind the other are scanned one by one if the first ends where a line does. -/
namespace TripleSlash

namespace Text

/-- Lines behind some text, each with the text in front of it. -/
def placed : Text → List Text → List (Text × Text)
  | _, [] => []
  | front, line :: more => (front, line) :: placed (front ++ line) more

variable {s t : Text}

/-- A text that ends where a line does has as many lines as line feeds. -/
theorem length_pieces (closed : Closed s) : (pieces s).length = s.count '\n' := by
  induction s with
  | nil => exact nomatch closed
  | cons c s ih =>
    cases s with
    | nil =>
      obtain rfl : c = '\n' := by simpa [Closed] using closed
      rfl
    | cons d s =>
      have later := ih (by simpa [Closed] using closed)
      by_cases break_here : c = '\n'
      · subst break_here
        rw [pieces_break, List.length_cons, later, List.count_cons_self]
      · cases cut : pieces (d :: s) with
        | nil => exact absurd cut (pieces_ne_nil (List.cons_ne_nil d s))
        | cons piece more =>
          rw [cut] at later
          rw [pieces_cons break_here cut, List.count_cons_of_ne break_here, ← later]
          rfl

/-- A line that has its line feed has just this one. -/
theorem count_line (line : IsLine t) (closed : Closed t) : t.count '\n' = 1 := by
  have counted := length_pieces closed
  rw [pieces_line line] at counted
  exact counted.symm

end Text

namespace Directive
open Text

/-- The same directive in a source with more text in front of it. -/
def behind (front : Text) (d : Directive) : Directive :=
  { d with line := d.line + front.count '\n', lineStart := d.lineStart + Text.size front }

/-- How the directives of a source are found. -/
structure Locates (source : Text) (found : List Directive) : Prop where
  /-- Line by line, those that are directives. A line has one more in front of its number than
  there are line feeds in front of it, and it starts behind as many bytes as are in front of it. -/
  lines : found = (placed [] (pieces source)).filterMap fun (front, line) =>
    (parse? line).map fun d =>
      { d with line := 1 + front.count '\n', lineStart := Text.size front }
  /-- Spans begin and end between two characters of the source. -/
  between : ∀ d ∈ found, ∃ before after, source = before ++ d.raw ++ after ∧
    d.sourceSpan = ⟨Text.size before, Text.size before + Text.size d.raw⟩
  bytes : ∀ d ∈ found,
    ((Utf8.encode source).take d.sourceSpan.stop).drop d.sourceSpan.start = Utf8.encode d.raw
  filled : ∀ d ∈ found, d.sourceSpan.start < d.sourceSpan.stop
  apart : found.Pairwise fun d e => d.sourceSpan.stop < e.sourceSpan.start

section Moving
variable {all more : List Text} {d : Directive}

theorem behind_behind (first next : Text) (d : Directive) :
    (d.behind next).behind first = d.behind (first ++ next) := by
  simp only [behind, List.count_append, Text.size_append]
  congr 1 <;> omega

/-- Text in front of all lines moves all that is found. -/
theorem scanFrom_behind (front : Text) (all : List Text) (line start : Nat) :
    scanFrom (line + front.count '\n') (start + Text.size front) all =
      (scanFrom line start all).map (behind front) := by
  induction all generalizing line start with
  | nil => rfl
  | cons piece more ih =>
    have numbers : line + front.count '\n' + 1 = line + 1 + front.count '\n' := by omega
    have starts : start + Text.size front + Text.size piece =
        start + Text.size piece + Text.size front := by omega
    have here : ofLayout (line + front.count '\n') (start + Text.size front) =
        behind front ∘ ofLayout line start := rfl
    rw [scanFrom, scanFrom, numbers, starts, ih, List.map_append, here, List.map_map]

/-- Lines are scanned one after another. -/
theorem scanFrom_append (all more : List Text) (line start : Nat) :
    scanFrom line start (all ++ more) =
      scanFrom line start all ++
        scanFrom (line + all.length) (start + Text.size all.flatten) more := by
  induction all generalizing line start with
  | nil => rfl
  | cons piece rest ih =>
    have numbers : line + 1 + rest.length = line + (piece :: rest).length := by
      rw [List.length_cons]
      omega
    have starts : start + Text.size piece + Text.size rest.flatten =
        start + Text.size (piece :: rest).flatten := by
      rw [List.flatten_cons, Text.size_append]
      omega
    rw [List.cons_append, scanFrom, scanFrom, ih, numbers, starts, List.append_assoc]

/-- Two sources one behind the other are scanned one by one if the first ends where a line does. -/
theorem scan_append {a : Text} (ended : a = [] ∨ Closed a) (b : Text) :
    scan (a ++ b) = scan a ++ (scan b).map (behind a) := by
  rcases ended with rfl | closed
  · exact (List.map_id (scan b)).symm
  · have moved := scanFrom_behind a (pieces b) 1 0
    rw [scan, pieces_append closed, scanFrom_append, length_pieces closed, flatten_pieces]
    exact congrArg (scan a ++ ·) moved

/-- What is found at a line, with the text in front of it. -/
def foundAt : Text × Text → Option Directive
  | (front, line) => (parse? line).map (behind front)

/-- A line is looked at before those that follow it. -/
theorem scanFrom_placed_cons {front piece : Text}
    (later : (scanFrom 2 (Text.size piece) more).map (behind front) =
      (placed (front ++ piece) more).filterMap foundAt) :
    (scanFrom 1 0 (piece :: more)).map (behind front) =
      (placed front (piece :: more)).filterMap foundAt := by
  have starts : 0 + Text.size piece = Text.size piece := Nat.zero_add _
  rw [scanFrom, starts, List.map_append, later, placed]
  cases read : Layout.ofText? piece with
  | none =>
    have nothing : foundAt (front, piece) = none := by
      rw [foundAt, parse?, read]
      rfl
    rw [List.filterMap_cons_none nothing]
    rfl
  | some l =>
    have here : foundAt (front, piece) = some ((ofLayout 1 0 l).behind front) := by
      rw [foundAt, parse?, read]
      rfl
    rw [List.filterMap_cons_some here]
    rfl

/-- What is found at lines is found line by line, whatever stands in front of them. -/
theorem scanFrom_placed (cut : Cut all) (front : Text) :
    (scanFrom 1 0 all).map (behind front) = (placed front all).filterMap foundAt := by
  induction cut generalizing front with
  | nil => rfl
  | last _ => exact scanFrom_placed_cons rfl
  | @cons line more isLine closed _ ih =>
    have moved := scanFrom_behind line more 1 0
    rw [count_line isLine closed, Nat.zero_add] at moved
    have both : behind front ∘ behind line = behind (front ++ line) :=
      funext fun d => behind_behind front line d
    apply scanFrom_placed_cons
    rw [moved, List.map_map, both, ih]

/-- A directive on a line alone is on the first line, which starts at nothing. -/
theorem behind_parsed {line front : Text} (parsed : parse? line = some d) :
    d.behind front = { d with line := 1 + front.count '\n', lineStart := Text.size front } := by
  obtain ⟨l, -, rfl⟩ := Option.map_eq_some_iff.mp parsed
  simp [behind, ofLayout]

theorem scan_placed (source : Text) :
    scan source = (placed [] (pieces source)).filterMap fun (front, line) =>
      (parse? line).map fun d =>
        { d with line := 1 + front.count '\n', lineStart := Text.size front } := by
  have moved := scanFrom_placed (cut_pieces source) []
  have still : (scanFrom 1 0 (pieces source)).map (behind []) = scan source := List.map_id _
  rw [← still, moved]
  refine List.filterMap_congr fun (front, line) _ => ?_
  exact Option.map_congr fun d parsed => behind_parsed parsed

end Moving

section Spans
variable {all : List Text} {line start : Nat} {d : Directive}

/-- What is found at lines is on one of them. -/
theorem exists_of_mem_scanFrom (member : d ∈ scanFrom line start all) :
    ∃ (l : Layout) (number : Nat) (before after : Text), l.WellFormed ∧
      all.flatten = before ++ l.text ++ after ∧
      d = ofLayout number (start + Text.size before) l := by
  induction all generalizing line start with
  | nil => exact nomatch member
  | cons piece more ih =>
    rw [scanFrom, List.mem_append] at member
    rcases member with here | later
    · obtain ⟨l, read, rfl⟩ := List.mem_map.mp here
      obtain ⟨formed, rfl⟩ := Layout.ofText?_eq_some_iff.mp (Option.mem_toList.mp read)
      exact ⟨l, line, [], more.flatten, formed, rfl, rfl⟩
    · obtain ⟨l, number, before, after, formed, split, rfl⟩ := ih later
      refine ⟨l, number, piece ++ before, after, formed, ?_, ?_⟩
      · simp only [List.flatten_cons, split, List.append_assoc]
      · rw [Text.size_append, Nat.add_assoc]

theorem sourceSpan_ofLayout (line start : Nat) (l : Layout) :
    (ofLayout line start l).sourceSpan =
      ⟨start + Text.size l.before, start + Text.size l.before + Text.size l.body⟩ := by
  simp only [sourceSpan, Span.shift, ofLayout, Nat.add_assoc]

/-- A span begins behind the start of its lines. -/
theorem le_start_of_mem_scanFrom (member : d ∈ scanFrom line start all) :
    start ≤ d.sourceSpan.start := by
  obtain ⟨l, number, before, after, -, -, rfl⟩ := exists_of_mem_scanFrom member
  rw [sourceSpan_ofLayout]
  exact Nat.le_trans (Nat.le_add_right _ _) (Nat.le_add_right _ _)

theorem size_pos {t : Text} (some_char : t ≠ []) : 0 < Text.size t := by
  have long := Text.length_le_size t
  have filled := List.length_pos_iff.mpr some_char
  omega

/-- The span of a directive ends within its line, and the next line begins behind it. -/
theorem pairwise_scanFrom (all : List Text) (line start : Nat) :
    (scanFrom line start all).Pairwise fun d e => d.sourceSpan.stop < e.sourceSpan.start := by
  induction all generalizing line start with
  | nil => exact .nil
  | cons piece more ih =>
    rw [scanFrom]
    cases read : Layout.ofText? piece with
    | none => exact ih (line + 1) (start + Text.size piece)
    | some l =>
      obtain ⟨-, rfl⟩ := Layout.ofText?_eq_some_iff.mp read
      refine List.pairwise_cons.mpr ⟨fun e later => ?_, ih (line + 1) (start + Text.size l.text)⟩
      have behind := le_start_of_mem_scanFrom later
      have rear : 0 < Text.size l.after := size_pos (List.cons_ne_nil _ _)
      have whole : Text.size l.text =
          Text.size l.before + Text.size l.body + Text.size l.after := by
        simp only [Layout.text, Text.size_append]
      rw [sourceSpan_ofLayout]
      change start + Text.size l.before + Text.size l.body < e.sourceSpan.start
      omega

end Spans

theorem between_of_mem_scan {source : Text} {d : Directive} (member : d ∈ scan source) :
    d.raw ≠ [] ∧ ∃ before after, source = before ++ d.raw ++ after ∧
      d.sourceSpan = ⟨Text.size before, Text.size before + Text.size d.raw⟩ := by
  obtain ⟨l, number, before, after, formed, split, rfl⟩ := exists_of_mem_scanFrom member
  refine ⟨formed.body_some, before ++ l.before, l.after ++ after, ?_, ?_⟩
  · rw [← flatten_pieces source, split, Layout.text]
    simp only [ofLayout, List.append_assoc]
  · rw [sourceSpan_ofLayout, Text.size_append, Nat.zero_add]
    rfl

/-- The bytes between two places of a text are those of the text between them. -/
theorem bytes_between {source before raw after : Text} (split : source = before ++ raw ++ after) :
    ((Utf8.encode source).take (Text.size before + Text.size raw)).drop (Text.size before) =
      Utf8.encode raw := by
  have front : Text.size before + Text.size raw = (Utf8.encode (before ++ raw)).length := by
    rw [Utf8.length_encode, Text.size_append]
  rw [split, Utf8.encode_append, front, List.take_left, Utf8.encode_append, ← Utf8.length_encode,
    List.drop_left]

/-- A scan finds every directive, each in its place, and it finds those of one source behind
those of another that ends where a line does. -/
theorem scan_locates :
    (∀ source, Locates source (scan source)) ∧
    ∀ a b, a = [] ∨ a.getLast? = some '\n' → scan (a ++ b) = scan a ++ (scan b).map (behind a) := by
  refine ⟨fun source => ⟨scan_placed source, ?_, ?_, ?_, pairwise_scanFrom _ _ _⟩, ?_⟩
  · exact fun d member => (between_of_mem_scan member).2
  · intro d member
    obtain ⟨-, before, after, split, span⟩ := between_of_mem_scan member
    rw [span]
    exact bytes_between split
  · intro d member
    obtain ⟨some_char, before, after, -, span⟩ := between_of_mem_scan member
    have filled := size_pos some_char
    rw [span]
    exact Nat.lt_add_of_pos_right filled
  · exact fun a b ended => scan_append ended b

/-- Wide characters in front of a directive and before its path. -/
theorem wide_text_in_front :
    ("é\r\n".toList = [] ∨ "é\r\n".toList.getLast? = some '\n') ∧
      scan ("é\r\n".toList ++ "///\u2003<reference path='ä.ts' />".toList) =
        scan "é\r\n".toList ++
          (scan "///\u2003<reference path='ä.ts' />".toList).map (behind "é\r\n".toList) ∧
      scan ("é\r\n".toList ++ "///\u2003<reference path='ä.ts' />".toList) =
        [⟨2, 4, ⟨23, 28⟩, .single, "ä.ts".toList, .ofString "ä.ts"⟩] :=
  ⟨by decide, scan_locates.2 _ _ (Or.inr rfl), rfl⟩

end Directive
end TripleSlash
