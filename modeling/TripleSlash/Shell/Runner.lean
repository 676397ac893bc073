import TripleSlash.Shell.Fields
import TripleSlash.Shell.Tool.Values

/-! Tools that run other programs: the options that they know, the words in which they name a
program that cannot be started, and how the input of `xargs` is made into lists of words. -/
namespace TripleSlash.Shell

inductive Runner where
  | env
  | nice
  | nohup
  | setsid
  | timeout
  | which
  | xargs
deriving DecidableEq, Repr

namespace Runner

def named : List (String × Runner) :=
  [("env", env), ("nice", nice), ("nohup", nohup), ("setsid", setsid), ("timeout", timeout),
    ("which", which), ("xargs", xargs)]

def ofName? (name : String) : Option Runner := named.lookup name

/-- The options in front of the program to run. -/
def known : Runner → Tool.Known
  | env => ⟨"iv0", "uS", [("ignore-environment", 'i'), ("unset", 'u'), ("split-string", 'S'),
      ("null", '0')]⟩
  | nice => ⟨"", "n", [("adjustment", 'n')]⟩
  | nohup => ⟨"", "", []⟩
  | setsid => ⟨"cfw", "", [("fork", 'f'), ("wait", 'w')]⟩
  | timeout => ⟨"fpv", "ks", [("kill-after", 'k'), ("signal", 's'), ("foreground", 'f'),
      ("preserve-status", 'p')]⟩
  | which => ⟨"as", "", []⟩
  | xargs => ⟨"0eilorptx", "adEILnPs", [("null", '0'), ("no-run-if-empty", 'r'),
      ("max-args", 'n'), ("max-lines", 'L'), ("delimiter", 'd')]⟩

/-- The status after words that are no good. -/
def misuse : Runner → Nat
  | setsid | xargs => 1
  | which => 2
  | _ => 125

/-- What is said where no program is named. -/
def bare : Runner → Text
  | setsid => "no command specified".toList
  | _ => "missing operand".toList

/-- What is said about an option that is no good. -/
def refusal (r : Runner) (name what : Text) : List Text :=
  match r with
  | which =>
    let c := (what.dropLast.getLast?).getD '-'
    ["Illegal option -".toList ++ [if what.head? = some 'u' then '-' else c]]
  | _ => [name ++ ": ".toList ++ what, Tool.advice name]

/-- How a program is named that cannot be started. -/
def naming (r : Runner) (name : Text) : Text :=
  match r with
  | env | nice => Tool.quoted name
  | nohup | timeout => "failed to run command ".toList ++ Tool.quoted name
  | setsid => "failed to execute ".toList ++ name
  | which | xargs => name

/-- Reads one word of an input, up to a blank that is not quoted. -/
def inputWord : Nat → Text → Text × Text
  | 0, t => ([], t)
  | fuel + 1, t =>
    match t with
    | [] => ([], [])
    | '\\' :: c :: rest =>
      let (w, rest) := inputWord fuel rest
      (c :: w, rest)
    | c :: rest =>
      if Arithmetic.isGap c then ([], c :: rest)
      else if c = '"' ∨ c = '\'' then
        let inner := rest.takeWhile (· ≠ c)
        let (w, rest) := inputWord fuel (rest.drop (inner.length + 1))
        (inner ++ w, rest)
      else
        let (w, rest) := inputWord fuel rest
        (c :: w, rest)

/-- The words of an input, at blanks that are not quoted. -/
def inputWords : Nat → Text → List Text
  | 0, _ => []
  | fuel + 1, t =>
    let t := t.dropWhile Arithmetic.isGap
    if t = [] then []
    else
      let (w, rest) := inputWord (t.length + 1) t
      w :: inputWords fuel rest

/-- Groups of so many words. -/
def groupsOf (n : Nat) : Nat → List Text → List (List Text)
  | 0, _ => []
  | fuel + 1, words =>
    if words = [] then [] else words.take n :: groupsOf n fuel (words.drop n)

/-- A text with every mark replaced by a line. -/
def replaced (mark l : Text) : Nat → Text → Text
  | 0, t => t
  | _, [] => []
  | fuel + 1, c :: rest =>
    if mark ≠ [] ∧ mark.isPrefixOf (c :: rest) then
      l ++ replaced mark l fuel (rest.drop (mark.length - 1))
    else c :: replaced mark l fuel rest

/-- The lists of words that a program is run with, each behind some words that stay or, where a
mark is given, put in place of it. -/
def groups (o : Tool.Options) (fixed : List Text) (input : Text) : List (List Text) :=
  let cut (c : Char) : List Text :=
    let parts := Text.splitAt c input
    if parts.getLast? = some [] then parts.dropLast else parts
  let mark? := if o.has '0' then some '\x00'
    else (o.value? 'd').bind fun t => ((Format.expanded t).1).head?
  match o.value? 'I' with
  | some mark =>
    let all := ((mark?.map cut).getD (Tool.lines input)).map (·.dropWhile Fields.isBlank)
    (all.filter (· ≠ [])).map fun l =>
      fixed.map fun t => replaced mark l (t.length + 1) t
  | none =>
    let size := ((o.value? 'n').map fun t => max 1 (Arithmetic.digits 10 t).1).getD input.length
    let words := (mark?.map cut).getD (inputWords (input.length + 1) input)
    let groups := match (o.value? 'L').map fun t => max 1 (Arithmetic.digits 10 t).1 with
      | some count =>
        let rows := (Tool.lines input).filter fun l => l.any fun c => !Arithmetic.isGap c
        (groupsOf count (rows.length + 1) rows).map fun rows =>
          rows.flatMap fun l => inputWords (l.length + 1) l
      | none => groupsOf (max 1 size) (words.length + 1) words
    (if groups = [] ∧ !o.has 'r' then [[]] else groups).map (fixed ++ ·)

end Runner
end TripleSlash.Shell
