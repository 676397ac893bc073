import TripleSlash.Log.Entry
import TripleSlash.Log.Expression
import TripleSlash.Text.Alphanumeric

/-! Filters of the log. A filter text is a list of rules, each a level for all entries, for
those of one part of the program, or for those with a field. Of the rules that fit an entry
the most particular one decides. A rule that cannot be read is reported and left out. -/
namespace TripleSlash.Log

/-- The most that entries may have to be let through, for those that a rule is about. -/
structure Rule where
  /-- How the names of the parts that it is about begin. -/
  target : Option Text
  /-- The field that its entries have. -/
  field : Option Text
  /-- It holds inside of spans only, and this program opens none. -/
  inSpan : Bool
  rank : Nat
deriving DecidableEq, Repr

/-- What is wrong with the text of a rule. -/
inductive RuleFault where
  | shape
  | level
  | value (fault : ExpressionFault)
deriving DecidableEq, Repr

def RuleFault.message : RuleFault → Text
  | shape => "invalid filter directive".toList
  | level =>
    ("error parsing level filter: expected one of \"off\", \"error\", \"warn\", \"info\", " ++
      "\"debug\", \"trace\", or a number 0-5").toList
  | value fault => "invalid field filter: ".toList ++ fault.message

/-- The names of the ranks; in front of them, none at all. -/
def rankNames : List Text :=
  ["off", "error", "warn", "info", "debug", "trace"].map String.toList

/-- The value of a decimal numeral, which may have a plus sign. -/
def numeral? (t : Text) : Option Nat :=
  let digits := (Text.after? ['+'] t).getD t
  if digits ≠ [] ∧ digits.all Char.isDigit then
    some (digits.foldl (fun n c => n * 10 + (c.toNat - '0'.toNat)) 0)
  else none

/-- A rank by its number or by its name in any case. -/
def rank? (t : Text) : Option Nat :=
  match numeral? t with
  | some n => if n < rankNames.length then some n else none
  | none => rankNames.findIdx? (· == t.map Char.toLower)

/-- The rank that lets everything through. -/
def everything : Nat := Level.trace.rank

/-- The characters of a text from one byte offset up to another. -/
def slice (t : Text) (start stop : Nat) : Text :=
  match t with
  | [] => []
  | c :: rest =>
    if stop = 0 then []
    else if start = 0 then c :: slice rest 0 (stop - c.utf8Size)
    else slice rest (start - c.utf8Size) (stop - c.utf8Size)

/-- Whether the text of a rule without a bracket may begin with a character. -/
def startsRule (c : Char) : Bool :=
  Text.isAlphanumeric c || c == '-' || c == ':' || c == '_'

namespace Rule

/-- A rule that is nothing but a level or a target. -/
def plain (t : Text) : Rule :=
  match rank? t with
  | some rank => ⟨none, none, false, rank⟩
  | none => ⟨some t, none, false, everything⟩

/-- The rule with the level that a text names; without any it lets everything through. -/
def withLevel (rule : Rule) (t : Text) : Except RuleFault Rule :=
  if t = [] then .ok { rule with rank := everything }
  else match rank? t with
    | some rank => .ok { rule with rank }
    | none => .error .level

/-- Reads what follows the closing bracket, which ends at the offset `here` of `text`. -/
def afterBracket (text : Text) (rule : Rule) (here : Nat) : Text → Except RuleFault Rule
  | [] => .ok rule
  | '=' :: _ => rule.withLevel (slice text (here + 1) (Text.size text))
  | _ => .error .shape

/-- Reads what stands between the brackets: a span, a field in braces, or both. A field with
a value is only ever looked for in spans. -/
def inBrackets (text : Text) (target : Option Text) (here : Nat) (inner : Text) :
    Except RuleFault Rule :=
  let span := inner.takeWhile fun c => c ≠ ']' && c ≠ '\x7b'
  let here := here + Text.size span
  match inner.drop span.length with
  | ']' :: rest => afterBracket text ⟨target, none, true, everything⟩ (here + 1) rest
  | '\x7b' :: rest =>
    let field := rest.takeWhile (· ≠ '\x7d')
    let stop := here + 1 + Text.size field
    let shown := slice text (here + 1) stop
    let name := shown.takeWhile (· ≠ '=')
    let value := (shown.drop (name.length + 1)).takeWhile (· ≠ '=')
    match rest.drop field.length, Expression.fault? value with
    | '\x7d' :: _, some fault => .error (.value fault)
    | '\x7d' :: ']' :: rest, none =>
      let rule := ⟨target, some name, span ≠ [] ∨ '=' ∈ shown, everything⟩
      if field = [] then .error .shape else afterBracket text rule (stop + 2) rest
    | _, _ => .error .shape
  | _ => .error .shape

/-- Reads a rule. Its parts are found by their offsets in the text without the blanks around
it, and are taken at those offsets from the whole text. -/
def ofText (text : Text) : Except RuleFault Rule :=
  let seen := ((text.dropWhile Text.isBlank).reverse.dropWhile Text.isBlank).reverse
  match seen with
  | [] => .error .shape
  | '[' :: inner => inBrackets text none 1 inner
  | c :: _ =>
    if !startsRule c then .error .shape
    else
      let target := seen.takeWhile fun c => c ≠ '=' && c ≠ '['
      let stop := Text.size target
      let named := some (slice text 0 stop)
      match seen.drop target.length with
      | '=' :: _ =>
        withLevel ⟨named, none, false, everything⟩ (slice text (stop + 1) (Text.size text))
      | '[' :: inner => inBrackets text named (stop + 1) inner
      | _ => .ok (plain text)

/-- Whether a rule is about an entry. -/
def fits (rule : Rule) (e : Entry) : Bool :=
  !rule.inSpan && rule.target.all (·.isPrefixOf e.target) && rule.field.all e.has

/-- How much of a name a rule asks for; no name is less than an empty one. -/
def reach (rule : Rule) : Nat := (rule.target.map fun t => t.length + 1).getD 0

/-- Whether a rule gives way to a later one: to one that asks for more of the name, then to
one with a field, of two fields to the one that comes later in a dictionary, and to its
like. -/
def yieldsTo (rule later : Rule) : Bool :=
  if rule.reach ≠ later.reach then rule.reach < later.reach
  else match rule.field, later.field with
    | none, _ => true
    | some _, none => false
    | some a, some b => Text.isLe a b

end Rule

/-- The rules of a filter text, and what is said about those that cannot be read. -/
def rules (filter : Text) : List Rule × Text :=
  let parts := (Text.splitAt ',' filter).filter (· ≠ [])
  let remark (part : Text) : Text :=
    match Rule.ofText part with
    | .ok _ => []
    | .error fault => "ignoring `".toList ++ part ++ "`: ".toList ++ fault.message ++ ['\n']
  (parts.filterMap fun part => (Rule.ofText part).toOption, parts.flatMap remark)

/-- Whether rules let an entry through. Without any rule errors are let through. -/
def lets (rules : List Rule) (e : Entry) : Bool :=
  if rules = [] then e.level.rank ≤ Level.error.rank
  else
    let choose (best : Option Rule) (rule : Rule) : Option Rule :=
      match best with
      | none => some rule
      | some b => if b.yieldsTo rule then some rule else some b
    match (rules.filter (·.fits e)).foldl choose none with
    | some rule => e.level.rank ≤ rule.rank
    | none => false

end TripleSlash.Log
