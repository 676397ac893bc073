import TripleSlash.Shell.Condition
import TripleSlash.Shell.Format
import TripleSlash.Shell.Regex
import TripleSlash.Shell.Tool.Files

/-! Tools that show values: texts, parts of paths, results of expressions, and what is known of
the machine. -/
namespace TripleSlash.Shell.Tool

def echo (words : List Text) : Tool Unit := do
  let isOption (w : Text) : Bool := match w with
    | '-' :: c :: rest => (c :: rest).all ("neE".toList.contains ·)
    | _ => false
  let flags := (words.takeWhile isOption).flatten
  let text := Text.joinWith ' ' (words.dropWhile isOption)
  let escapes := (flags.filter fun c => c = 'e' ∨ c = 'E').getLast? = some 'e'
  let (text, ended) := if escapes then Format.expanded text else (text, false)
  say (if flags.contains 'n' || ended then text else text ++ ['\n'])

def printf (words : List Text) : Tool Unit :=
  match words with
  | [] => missing "missing operand" 1
  | format :: arguments => do
    let printed := Format.print format arguments
    for c in printed.complaints do fail 1 c
    say printed.text
    match printed.fault, printed.arguments with
    | some what, _ => fail 1 what
    | none, word :: _ =>
      if !printed.ended then
        complain ("warning: ignoring excess arguments, starting with ".toList ++ quoted word)
    | none, [] => pure ()

def test (closes : Bool) (words : List Text) : Tool Unit := do
  let words? := if closes then
    (if words.getLast? = some [']'] then some words.dropLast else none) else some words
  match words? with
  | none => fail 2 "missing ']'".toList
  | some words =>
    match Condition.holds (← get).machine (words.length + 1) words with
    | .ok found => finish (if found then 0 else 1)
    | .error what => fail 2 what

def withoutSuffix (name ending : Text) : Text :=
  if ending.reverse.isPrefixOf name.reverse ∧ name ≠ ending then
    name.take (name.length - ending.length)
  else name

def basename (words : List Text) : Tool Unit :=
  withLeadingOptions 1 ⟨"az", "s", [("suffix", 's'), ("multiple", 'a')]⟩ words fun o =>
    match o.value? 's', o.words with
    | _, [] => missing "missing operand" 1
    | some ending, all => for p in all do sayLine (withoutSuffix (lastName p) ending)
    | none, p :: rest => do
      if o.has 'a' then for p in p :: rest do sayLine (lastName p)
      else match rest with
        | [] => sayLine (lastName p)
        | [ending] => sayLine (withoutSuffix (lastName p) ending)
        | _ :: extra :: _ => surplus 1 extra

def dirOf (p : Text) : Text :=
  let bare := p.reverse.dropWhile (· = '/')
  if bare = [] then (if p = [] then ['.'] else ['/'])
  else
    let above := bare.dropWhile (· ≠ '/')
    let dir := (above.dropWhile (· = '/')).reverse
    if above = [] then ['.'] else if dir = [] then ['/'] else dir

def dirname (words : List Text) : Tool Unit :=
  withOptions 1 ⟨"z", "", []⟩ words fun o => do
    if o.words = [] then missing "missing operand" 1
    for p in o.words do sayLine (dirOf p)

namespace Expression

/-- The words that are left of an expression. -/
abbrev Reading := StateT (List Text) (Except Text)

def levels : List (List String) :=
  [["|"], ["&"], ["<", "<=", "=", "==", "!=", ">=", ">"], ["+", "-"], ["*", "/", "%"], [":"]]

def isNull (t : Text) : Bool := t = [] || (Arithmetic.number? false t == some 0)

def ofInt (n : Int) : Text := (toString n).toList

def truth (b : Bool) : Text := if b then ['1'] else ['0']

/-- The first group of an expression in a text, or else how much of the text it fits. -/
def fitting (t pattern : Text) : Except Text Text :=
  match Regex.parse? false pattern with
  | none => .error "Invalid regular expression".toList
  | some r =>
    let here : Regex.Spot := ⟨[], t, []⟩
    let grouped := (pattern.zip pattern.tail).contains ('\\', '(')
    match Regex.furthest (r.ends false here) with
    | none => .ok (if grouped then [] else ['0'])
    | some s =>
      .ok (if grouped then (s.groups.lookup 1).getD [] else Text.ofNat (t.length - s.rest.length))

def operate (op : String) (a b : Text) : Except Text Text := do
  let numbers (f : Int → Int → Text) : Except Text Text :=
    match Arithmetic.number? false a, Arithmetic.number? false b with
    | some x, some y => .ok (f x y)
    | _, _ => .error "non-integer argument".toList
  let compare (onNumbers : Int → Int → Bool) (onTexts : Text → Text → Bool) : Except Text Text :=
    match Arithmetic.number? false a, Arithmetic.number? false b with
    | some x, some y => .ok (truth (onNumbers x y))
    | _, _ => .ok (truth (onTexts a b))
  match op with
  | "|" => .ok (if !isNull a then a else if isNull b then ['0'] else b)
  | "&" => .ok (if isNull a || isNull b then ['0'] else a)
  | "<" => compare (fun x y => x < y) fun x y => !Text.isLe y x
  | "<=" => compare (fun x y => x ≤ y) Text.isLe
  | "=" | "==" => compare (fun x y => x = y) fun x y => x == y
  | "!=" => compare (fun x y => x ≠ y) fun x y => x != y
  | ">=" => compare (fun x y => x ≥ y) fun x y => Text.isLe y x
  | ">" => compare (fun x y => x > y) fun x y => !Text.isLe x y
  | "+" => numbers fun x y => ofInt (x + y)
  | "-" => numbers fun x y => ofInt (x - y)
  | "*" => numbers fun x y => ofInt (x * y)
  | ":" => fitting a b
  | _ =>
    if Arithmetic.number? false b = some 0 then .error "division by zero".toList
    else numbers fun x y => ofInt (if op = "/" then Int.tdiv x y else Int.tmod x y)

def next : Reading Text := do
  match ← get with
  | [] => throw "syntax error: missing argument".toList
  | t :: rest =>
    set rest
    return t

mutual

def value : Nat → List (List String) → Reading Text
  | 0, _ => throw "syntax error".toList
  | fuel + 1, levels => do
    match levels with
    | [] =>
      let t ← next
      match String.ofList t with
      | "(" =>
        let found ← value fuel Expression.levels
        if (← next) = [')'] then return found else throw "syntax error: expecting ')'".toList
      | "length" => return Text.ofNat (← value fuel []).length
      | "substr" =>
        let text ← value fuel []
        let start ← value fuel []
        let count ← value fuel []
        match Arithmetic.number? false start, Arithmetic.number? false count with
        | some s, some c =>
          if s < 1 ∨ c < 1 then return []
          return (text.drop (s.toNat - 1)).take c.toNat
        | _, _ => return []
      | "index" =>
        let text ← value fuel []
        let set ← value fuel []
        return Text.ofNat (((text.findIdx? set.contains).map (· + 1)).getD 0)
      | "match" =>
        let text ← value fuel []
        (fitting text (← value fuel []) : Except Text Text)
      | _ => return t
    | level :: tighter => further fuel level tighter (← value fuel tighter)

def further : Nat → List String → List (List String) → Text → Reading Text
  | 0, _, _, _ => throw "syntax error".toList
  | fuel + 1, level, tighter, a => do
    match ← get with
    | op :: rest =>
      if level.contains (String.ofList op) then
        set rest
        let b ← value fuel tighter
        further fuel level tighter (← (operate (String.ofList op) a b : Except Text Text))
      else return a
    | [] => return a

end

end Expression

def expr (words : List Text) : Tool Unit :=
  let words := if words.head? = some ['-', '-'] then words.tail else words
  match (Expression.value (16 * words.length + 16) Expression.levels).run words with
  | .ok (t, []) => do
    sayLine t
    finish (if Expression.isNull t then 1 else 0)
  | .ok (_, t :: _) =>
    fail 2 ("syntax error: unexpected argument ".toList ++ quoted t)
  | .error what => if words = [] then missing "missing operand" 2
    else fail 2 (what)

def printenv (words : List Text) : Tool Unit :=
  withLeadingOptions 2 ⟨"0", "", [("null", '0')]⟩ words fun o => do
  let named := (← get).environment
  if o.words = [] then for (name, value) in named do sayLine (name ++ '=' :: value)
  for name in o.words do
    match named.lookup name with
    | some value => sayLine value
    | none => finish 1

def pwd (words : List Text) : Tool Unit :=
  withOptions 1 ⟨"LP", "", [("logical", 'L'), ("physical", 'P')]⟩ words fun o => do
    if o.words ≠ [] then complain "ignoring non-option arguments".toList
    sayLine (ofPath (Machine.place (← get).machine.cwd))

/-- Does nothing but look at its options, and takes no other words. -/
def onlyOptions (k : Known) (words : List Text) (act : Options → Tool Unit) : Tool Unit :=
  withOptions 1 k words fun o =>
    match o.words with
    | [] => act o
    | word :: _ => surplus 1 word

def whoami (words : List Text) : Tool Unit :=
  onlyOptions ⟨"", "", []⟩ words fun _ => sayLine "root".toList

def id (words : List Text) : Tool Unit :=
  withOptions 1 ⟨"agGnruzZ", "", [("user", 'u'), ("group", 'g'), ("groups", 'G'), ("name", 'n'),
    ("real", 'r')]⟩ words fun o =>
    sayLine (if !(o.has 'u' || o.has 'g' || o.has 'G') then
      "uid=0(root) gid=0(root) groups=0(root)".toList
    else if o.has 'n' then "root".toList else ['0'])

def uname (words : List Text) : Tool Unit :=
  onlyOptions ⟨"asnrvmpio", "", [("machine", 'm'), ("kernel-name", 's'),
    ("operating-system", 'o')]⟩ words fun o =>
    let shown := [('s', "Linux"), ('m', "x86_64"), ('o', "GNU/Linux")].filter fun (c, _) =>
      o.has c || (c == 's' && o.flags == [])
    sayLine (Text.joinWith ' ' (shown.map fun (_, name) => name.toList))

/-- Whether a text is a span of time: a number and perhaps a unit. -/
def isSpan (t : Text) : Bool :=
  let whole := t.takeWhile Char.isDigit
  let rest := t.drop whole.length
  let places := match rest with
    | '.' :: more => more.takeWhile Char.isDigit
    | _ => []
  let rest := match rest with
    | '.' :: more => more.drop places.length
    | _ => rest
  (whole ++ places != [] && ["", "s", "m", "h", "d"].contains (String.ofList rest))
    || t == "infinity".toList || t == "inf".toList

/-- Waits, for which no time passes. -/
def sleep (words : List Text) : Tool Unit :=
  withOptions 1 ⟨"", "", []⟩ words fun o => do
    let wrong := o.words.filter fun t => !isSpan t
    for t in wrong do fail 1 ("invalid time interval ".toList ++ quoted t)
    if o.words = [] then missing "missing operand" 1
    else if wrong ≠ [] then advise 1

def sync (words : List Text) : Tool Unit :=
  withOptions 1 ⟨"df", "", [("data", 'd'), ("file-system", 'f')]⟩ words fun o => do
    for p in o.words do
      let m := (← get).machine
      match m.tree.entry m.cwd (path p) with
      | .ok _ => pure ()
      | .error cause =>
        fail 1 ("error opening ".toList ++ quoted p ++ ": ".toList ++ problem cause)

end TripleSlash.Shell.Tool
