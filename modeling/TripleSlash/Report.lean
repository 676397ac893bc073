import TripleSlash.Directive
import TripleSlash.Text.Width

/-! The report that points at the path of a directive in its source: a frame with the place,
the line, the path underlined and an arrow with the reason. A path that runs over several
lines has its first and last line shown instead, joined by a bracket. Lines of a report end at
every character that ends a line on a terminal, not at line feeds alone. -/
namespace TripleSlash.Report

def isLineEnd (c : Char) : Bool :=
  let n := c.toNat
  (0x0A ≤ n && n ≤ 0x0D) || n == 0x85 || n == 0x2028 || n == 0x2029

/-- Cuts behind every line end; a carriage return and its line feed are one. -/
def lines : Text → List Text
  | [] => []
  | '\r' :: '\n' :: rest => ['\r', '\n'] :: lines rest
  | c :: rest =>
    if isLineEnd c then [c] :: lines rest
    else match lines rest with
      | [] => [[c]]
      | line :: more => (c :: line) :: more

/-- A line, its number and the bytes of it before a place. -/
structure Spot where
  line : Text
  number : Nat
  before : Nat

/-- The line of a byte offset. -/
def find? (number offset : Nat) : List Text → Option Spot
  | [] => none
  | [line] => if offset ≤ Text.size line then some ⟨line, number, offset⟩ else none
  | line :: more =>
    if offset < Text.size line then some ⟨line, number, offset⟩
    else find? (number + 1) (offset - Text.size line) more

/-- How many characters begin within the first bytes of a text. -/
def charsWithin : Nat → Text → Nat
  | _, [] => 0
  | 0, _ => 0
  | bytes, c :: rest => 1 + charsWithin (bytes - c.utf8Size) rest

def tabWidth : Nat := 4

/-- The columns of a character that is the `index`th of its line. -/
def columns (index : Nat) (c : Char) : Nat :=
  if c = '\t' then (index / tabWidth + 1) * tabWidth - index
  else if Text.isBlank c then 1
  else Text.width c

/-- A line without the blanks at its end. -/
def trimmed (line : Text) : Text := (line.reverse.dropWhile Text.isBlank).reverse

/-- A line as it is shown, blanks as spaces and none at its end. -/
def shown (line : Text) : Text :=
  (trimmed line).zipIdx.flatMap fun (c, index) =>
    if Text.isBlank c then List.replicate (columns index c) ' ' else [c]

/-- The columns of the first characters of a line. What is not shown counts one each. -/
def widths (line : Text) (count : Nat) : List Nat :=
  (((trimmed line).zipIdx.map fun (c, index) => columns index c)
    ++ List.replicate count 1).take count

/-- Draws one row under a line: a mark for every character, repeated over its columns. -/
def row (line : Text) (count : Nat) (mark : Nat → Char × Char) : Text :=
  (widths line count).zipIdx.flatMap fun (wide, index) =>
    let (first, other) := mark index
    if wide = 0 then [] else first :: List.replicate (wide - 1) other

/-- How far an arrow reaches behind what it points at. -/
def reach : Nat := 2

/-- The row that underlines the characters from `start` on and marks the middle one. -/
def underline (line : Text) (start length : Nat) : Text :=
  let middle := start + length / 2
  row line (start + length) fun index =>
    if index = middle then ('┬', '─')
    else if start ≤ index then ('─', '─')
    else (' ', ' ')

/-- The row of the arrow, which ends behind the underlined characters. -/
def arrow (line : Text) (start length : Nat) : Text :=
  let middle := start + length / 2
  row line (start + length + reach) fun index =>
    if index = middle then ('╰', '─')
    else if middle < index then ('─', '─')
    else (' ', ' ')

/-- The row that closes a bracket, which ends behind the whole line. -/
def closing (line : Text) : Text :=
  "╰───".toList ++ row line (line.length + reach) fun _ => ('─', '─')

/-- What stands left of the lines of a report, as wide as its greatest line number. -/
structure Margin where
  digits : Nat

namespace Margin

def blank (m : Margin) : Text := List.replicate (m.digits + 2) ' '

/-- The start of a row without a number. -/
def bar (m : Margin) : Text := m.blank ++ ['│']

/-- The start of a row that stands for lines left out. -/
def gap (m : Margin) : Text := m.blank ++ ['┆']

def numbered (m : Margin) (number : Nat) : Text :=
  let digits := Text.ofNat number
  ' ' :: List.replicate (m.digits - digits.length) ' ' ++ digits ++ " │".toList

def last (m : Margin) : Text := List.replicate (m.digits + 2) '─' ++ ['╯']

end Margin

def title : Text := "[E0001] Error: Unreadable reference".toList

/-- The rows for a path that stands on one line. -/
def inlineRows (m : Margin) (spot : Spot) (start length : Nat) (reason : Text) : List Text :=
  [m.numbered spot.number ++ ' ' :: shown spot.line,
    m.bar ++ ' ' :: underline spot.line start length,
    m.bar ++ ' ' :: arrow spot.line start length ++ ' ' :: reason]

/-- The rows for a path that runs from one line to another. -/
def bracketRows (m : Margin) (first last : Spot) (reason : Text) : List Text :=
  [m.numbered first.number ++ " ╭─▶ ".toList ++ shown first.line]
    ++ (if first.number + 1 < last.number then [m.gap ++ " ┆".toList] else [])
    ++ [m.numbered last.number ++ " ├─▶ ".toList ++ shown last.line,
      m.bar ++ " │".toList,
      m.bar ++ ' ' :: closing last.line ++ ' ' :: reason]

/-- The rows of the report for a span of a source, with the name of the file and the
reason. -/
def rows (file source : Text) (span : Span) (reason : Text) : List Text :=
  match find? 1 span.start (lines source), find? 1 (span.stop - 1) (lines source) with
  | some first, some last =>
    let m : Margin := ⟨(Text.ofNat last.number).length⟩
    let start := charsWithin first.before first.line
    let length := charsWithin (span.stop - span.start) (first.line.drop start)
    let place := file ++ ':' :: Text.ofNat first.number ++ ':' :: Text.ofNat (start + 1)
    [title, m.blank ++ "╭─[ ".toList ++ place ++ " ]".toList, m.bar]
      ++ (if first.number = last.number then inlineRows m first start length reason
        else bracketRows m first last reason)
      ++ [m.last]
  | _, _ => [title]

def text (file source : Text) (span : Span) (reason : Text) : Text :=
  (rows file source span reason).flatMap fun row => row ++ ['\n']

end TripleSlash.Report
