import TripleSlash.Shell.Regex
import TripleSlash.Shell.Tool.Files

/-! The tool that finds the lines of files that an expression fits. -/
namespace TripleSlash.Shell.Tool

/-- What a search looks for: one of some expressions, in any part of a line, a word of it or
the whole line. -/
structure Search where
  wanted : List Regex
  ignoreCase : Bool
  words : Bool
  whole : Bool

namespace Search

/-- The first part of a line that fits, and what is behind it. -/
def part? (s : Search) (before line : Text) : Option (Text × Text × Text) :=
  let fitting := s.wanted.filterMap fun r =>
    let r := if s.whole then .both .start (.both r .finish)
      else if s.words then
        .both (.edge none (some true)) (.both r (.edge (some true) none))
      else r
    (r.find? s.ignoreCase before line).map fun (a, b) =>
      (a.before, a.rest.take (a.rest.length - b.rest.length), b.rest)
  fitting.foldl (fun best found => match best with
    | none => some found
    | some b =>
      if found.1.length < b.1.length then some found
      else if found.1.length = b.1.length ∧ b.2.1.length < found.2.1.length then some found
      else some b) none

def finds (s : Search) (line : Text) : Bool := (s.part? [] line).isSome

/-- All parts of a line that fit, as far as they are not empty. -/
def parts (s : Search) : Nat → Text → Text → List Text
  | 0, _, _ => []
  | fuel + 1, before, line =>
    match s.part? before line with
    | none => []
    | some (front, found, rest) =>
      if found = [] then
        match rest with
        | [] => []
        | c :: rest => s.parts fuel (c :: front) rest
      else found :: s.parts fuel (found.reverse ++ front) rest

end Search

/-- Points to the help of `grep`. -/
def grepAdvice : Tool Unit := do
  mention "Usage: grep [OPTION]... PATTERNS [FILE]...".toList
  mention (advice "grep".toList)
  finish 2

def grepOptions : Known :=
  ⟨"abcEFGhHiIlLnoPqrRsTuUvVwxyzZ", "ABCdDefmX", [("quiet", 'q'), ("silent", 'q'),
    ("count", 'c'), ("invert-match", 'v'), ("ignore-case", 'i'), ("only-matching", 'o'),
    ("extended-regexp", 'E'), ("fixed-strings", 'F'), ("line-number", 'n')]⟩

def grep (words : List Text) : Tool Unit :=
  reading false grepAdvice grepOptions words fun o => do
    let given := o.flags.filterMap fun (flag, value) => if flag = 'e' then some value else none
    let (patterns, files) := match given, o.words with
      | [], pattern :: files => ([pattern], files)
      | given, files => (given, files)
    let read (t : Text) : Option Regex :=
      if o.has 'F' then some (Regex.ofText t) else Regex.parse? (o.has 'E' || o.has 'P') t
    match patterns, (patterns.flatMap (Text.splitAt '\n')).mapM read with
    | [], _ =>
      grepAdvice
    | _, none => fail 2 "Invalid regular expression".toList
    | _, some wanted =>
      let search : Search := ⟨wanted, o.has 'i', o.has 'w', o.has 'x'⟩
      let titled := (files.length > 1 || o.has 'H') && !o.has 'h'
      let mut any := false
      let mut bad := false
      let m := (← get).machine
      let inside (p : Text) : List Text :=
        match nameOf? m (path p) with
        | .ok place =>
          if isDirectory m p then
            below m ⟨none, some ['f'], 0, 1000⟩ (m.tree.entries.length + 2) 0 p place
          else [p]
        | .error _ => [p]
      let deep := o.has 'r' || o.has 'R'
      let files := if deep then (if files = [] then [['.']] else files).flatMap inside else files
      let titled := (titled || deep) && !o.has 'h'
      for p in orInput files do
        match ← source p with
        | .error cause =>
          if !o.has 's' then complain (about p cause)
          bad := true
        | .ok t =>
          let title := if titled then
            (if p = ['-'] then "(standard input)".toList else p) ++ [':'] else []
          let hits := (lines t).zipIdx 1 |>.filter fun (l, _) => search.finds l != o.has 'v'
          let hits := match (o.value? 'm').map fun n => (Arithmetic.digits 10 n).1 with
            | some n => hits.take n
            | none => hits
          if hits ≠ [] then any := true
          if o.has 'q' then pure ()
          else if o.has 'c' then sayLine (title ++ Text.ofNat hits.length)
          else if o.has 'l' || o.has 'L' then
            if o.has 'l' != (hits == []) then sayLine p
          else
            for (l, n) in hits do
              let lead := title ++ (if o.has 'n' then Text.ofNat n ++ [':'] else [])
              if o.has 'o' then
                if !o.has 'v' then
                  for part in search.parts (l.length + 1) [] l do sayLine (lead ++ part)
              else sayLine (lead ++ l)
      finish (if bad && !(any && o.has 'q') then 2 else if any then 0 else 1)

/-- Searches by its usual name with one more option. -/
def grepWith (option : String) (words : List Text) : Tool Unit := do
  modify fun w => { w with name := "grep".toList }
  grep (option.toList :: words)

end TripleSlash.Shell.Tool
