import TripleSlash.Shell.Format
import TripleSlash.Shell.Pattern
import TripleSlash.Shell.Tool

/-! Tools that take texts apart into lines, fields and characters and put them together. -/
namespace TripleSlash.Shell.Tool

/-- A count with the sign in front of it, and a suffix for a multiple. -/
def count? (t : Text) : Option (Char × Nat) :=
  let (sign, digits) := match t with
    | '+' :: rest => ('+', rest)
    | '-' :: rest => ('-', rest)
    | _ => (' ', t)
  let run := digits.takeWhile Char.isDigit
  let n := (Arithmetic.digits 10 run).1
  match digits.drop run.length with
  | [] => if run = [] then none else some (sign, n)
  | ['k'] | ['K'] => if run = [] then none else some (sign, n * 1024)
  | ['b'] => if run = [] then none else some (sign, n * 512)
  | _ => none

/-- The old spelling of a count as an option of its own. -/
def countOption (words : List Text) : List Text :=
  match words with
  | ('-' :: c :: rest) :: more =>
    if c.isDigit && (c :: rest).all Char.isDigit then ['-', 'n'] :: (c :: rest) :: more else words
  | _ => words

/-- Shows a part of each file, with its name above where there are several. -/
def showParts (o : Options) (part : Text → Text) : Tool Unit := do
  let all := orInput o.words
  let titled := (all.length > 1 || o.has 'v') && !o.has 'q'
  let mut first := true
  for p in all do
    match ← source p with
    | .error .isDirectory =>
      if titled then
        sayLine ((if first then [] else ['\n']) ++ "==> ".toList ++ p ++ " <==".toList)
        first := false
      fail 1 ("error reading ".toList ++ quoted p ++ ": ".toList
        ++ problem .isDirectory)
    | .error cause =>
      fail 1 ("cannot open ".toList ++ quoted p ++ " for reading: ".toList
        ++ problem cause)
    | .ok t =>
      if titled then
        let shown := if p = ['-'] then "standard input".toList else p
        sayLine ((if first then [] else ['\n']) ++ "==> ".toList ++ shown ++ " <==".toList)
        first := false
      say (part t)

def head (words : List Text) : Tool Unit :=
  withOptions 1 ⟨"qvz", "nc", [("lines", 'n'), ("bytes", 'c')]⟩ (countOption words) fun o =>
    let cut (n : Char × Nat) {α : Type} (t : List α) : List α :=
      if n.1 = '-' then t.take (t.length - n.2) else t.take n.2
    match o.value? 'c', (o.value? 'n').getD ['1', '0'] with
    | some c, _ => match count? c with
      | some n => showParts o fun t => cut n t
      | none => fail 1 ("invalid number of bytes: ".toList ++ quoted c)
    | none, l => match count? l with
      | some n => showParts o fun t => (cut n (Text.pieces t)).flatten
      | none => fail 1 ("invalid number of lines: ".toList ++ quoted l)

def tail (words : List Text) : Tool Unit :=
  withOptions 1 ⟨"qvzfF", "nc", [("lines", 'n'), ("bytes", 'c')]⟩ (countOption words) fun o =>
    let cut (n : Char × Nat) {α : Type} (t : List α) : List α :=
      if n.1 = '+' then t.drop (n.2 - 1) else t.drop (t.length - n.2)
    match o.value? 'c', (o.value? 'n').getD ['1', '0'] with
    | some c, _ => match count? c with
      | some n => showParts o fun t => cut n t
      | none => fail 1 ("invalid number of bytes: ".toList ++ quoted c)
    | none, l => match count? l with
      | some n => showParts o fun t => (cut n (Text.pieces t)).flatten
      | none => fail 1 ("invalid number of lines: ".toList ++ quoted l)

/-- How many words a text has. -/
def wordCount (t : Text) : Nat :=
  (t.foldl (fun (n, inside) c =>
    if Arithmetic.isGap c then (n, false) else if inside then (n, true) else (n + 1, true))
    (0, false)).1

/-- The longest line of a text in columns of one character each. -/
def longestLine (t : Text) : Nat := (lines t).foldl (fun n l => max n l.length) 0

def wc (words : List Text) : Tool Unit :=
  withOptions 1 ⟨"lwcmL", "", [("lines", 'l'), ("words", 'w'), ("bytes", 'c'),
    ("chars", 'm')]⟩ words fun o => do
    let o := if o.flags = [] then { o with flags := [('l', []), ('w', []), ('c', [])] } else o
    let counts (t : Text) : List Nat :=
      [('l', t.count '\n'), ('w', wordCount t), ('m', t.length), ('c', t.length),
        ('L', longestLine t)].filterMap fun (flag, n) => if o.has flag then some n else none
    let mut rows : List (List Nat × Option Text) := []
    let mut wide := 1
    for p in orInput o.words do
      let name := if o.words = [] then none else some p
      match ← source p with
      | .ok t =>
        rows := rows ++ [(counts t, name)]
        wide := max wide (Text.ofNat t.length).length
        if p = ['-'] then wide := max wide 7
      | .error cause =>
        fail 1 (about p cause)
        if cause = .isDirectory then
          rows := rows ++ [(counts [], name)]
          wide := max wide 7
    let total := rows.foldl (fun sums (row, _) =>
      if sums = [] then row else sums.zipWith (· + ·) row) []
    let several := o.words.length > 1
    if several then
      rows := rows ++ [(if total = [] then counts [] else total, some "total".toList)]
      wide := max wide ((total.map fun n => (Text.ofNat n).length).foldl max 1)
    let single := (counts []).length = 1 && !several
    for (row, name) in rows do
      let shown := row.map fun n =>
        let digits := Text.ofNat n
        if single then digits else List.replicate (wide - digits.length) ' ' ++ digits
      sayLine (Text.joinWith ' ' (shown ++ name.toList))

/-- The number at the start of a line, without its point, and how many places it has. -/
def leadingNumber (t : Text) : Int × Nat :=
  let t := t.dropWhile fun c => c = ' ' ∨ c = '\t'
  let (negative, digits) := match t with
    | '-' :: rest => (true, rest)
    | _ => (false, t)
  let whole := digits.takeWhile Char.isDigit
  let places := match digits.drop whole.length with
    | '.' :: more => more.takeWhile Char.isDigit
    | _ => []
  let n : Int := ((Arithmetic.digits 10 (whole ++ places)).1 : Nat)
  (if negative then -n else n, places.length)

def numberLe (a b : Text) : Bool :=
  let (m, p) := leadingNumber a
  let (n, q) := leadingNumber b
  decide (m * (tenTo q : Nat) ≤ n * (tenTo p : Nat))

/-- The part of a line that is compared: from a field on, up to another. -/
def sortKey (mark : Option Char) (key : Text) (l : Text) : Text :=
  let number (t : Text) : Nat := (Arithmetic.digits 10 (t.takeWhile Char.isDigit)).1
  let start := number key
  let stop := match (key.dropWhile (· ≠ ',')).tail with
    | [] => none
    | t => some (number t)
  let fields : List Text := match mark with
    | some c => Text.splitAt c l
    | none =>
      let rec go : Nat → Text → List Text
        | 0, _ => []
        | fuel + 1, t =>
          if t = [] then []
          else
            let blanks := t.takeWhile fun c => c = ' ' ∨ c = '\t'
            let rest := t.drop blanks.length
            let word := rest.takeWhile fun c => !(c = ' ' ∨ c = '\t')
            (blanks ++ word) :: go fuel (rest.drop word.length)
      go (l.length + 1) l
  let chosen := (match stop with
    | some n => fields.take n
    | none => fields).drop (start - 1)
  match mark with
  | some c => Text.joinWith c chosen
  | none => chosen.flatten

/-- Lines of which no two neighbours are the same under a comparison. -/
def distinct (same : Text → Text → Bool) : List Text → List Text
  | [] => []
  | l :: more =>
    match distinct same more with
    | k :: rest => if same l k then l :: rest else l :: k :: rest
    | [] => [l]

def sort (words : List Text) : Tool Unit :=
  withOptions 2 ⟨"bcCdfghimMnrRsuVz", "koStT", [("reverse", 'r'), ("unique", 'u'),
    ("numeric-sort", 'n')]⟩ words fun o => do
    let found ← sourcesUpToFault 2 (fun p cause =>
      (if cause = .isDirectory then "read failed: ".toList else "cannot read: ".toList)
        ++ p ++ ": ".toList ++ problem cause) (orInput o.words)
    if (← get).status = 0 then
      let all := found.flatMap fun (_, t) => lines t
      let key? := o.value? 'k'
      let mark := (o.value? 't').bind (·.head?)
      let flag (c : Char) : Bool := o.has c || (key?.map (·.contains c)).getD false
      let keyOf (l : Text) : Text :=
        let part := match key? with
          | some key => sortKey mark key l
          | none => l
        let part := if flag 'b' then part.dropWhile (· = ' ') else part
        if flag 'f' then part.map Char.toUpper else part
      let keyLe (a b : Text) : Bool :=
        if flag 'n' || flag 'g' then numberLe (keyOf a) (keyOf b)
        else Text.isLe (keyOf a) (keyOf b)
      let same (a b : Text) : Bool := keyLe a b && keyLe b a
      let le (a b : Text) : Bool :=
        if same a b then
          o.has 'u' || o.has 's' || (if o.has 'r' then Text.isLe b a else Text.isLe a b)
        else if flag 'r' then keyLe b a else keyLe a b
      let sorted := all.mergeSort le
      let shown := unlines (if o.has 'u' then distinct same sorted else sorted)
      match o.value? 'o' with
      | none => say shown
      | some p =>
        let m := (← get).machine
        change ("open failed: ".toList ++ p)
          (m.tree.write m.cwd (path p) (Octets.toBytes shown))

/-- Runs of lines that are the same, each with its length. -/
def runs (same : Text → Text → Bool) : List Text → List (Nat × Text)
  | [] => []
  | l :: more =>
    match runs same more with
    | (n, k) :: rest => if same l k then (n + 1, l) :: rest else (1, l) :: (n, k) :: rest
    | [] => [(1, l)]

def uniq (words : List Text) : Tool Unit :=
  withOptions 1 ⟨"cdDiuz", "fsw", [("count", 'c'), ("repeated", 'd'), ("unique", 'u')]⟩ words
    fun o => do
    if let some word := o.words[2]? then return ← surplus 1 word
    let found ← sources 1 about (orInput (o.words.take 1))
    let same (a b : Text) : Bool :=
      if o.has 'i' then a.map Char.toLower == b.map Char.toLower else a == b
    let shown := (found.flatMap fun (_, t) => runs same (lines t)).filter fun (n, _) =>
      !(o.has 'd' && n == 1) && !(o.has 'u' && n > 1)
    for (n, l) in shown do
      let digits := Text.ofNat n
      if o.has 'c' then sayLine (List.replicate (7 - digits.length) ' ' ++ digits ++ ' ' :: l)
      else sayLine l

/-- The characters that a set names: escapes, ranges and kinds are spelled out. -/
def charactersOf : Nat → Text → Text
  | 0, _ => []
  | fuel + 1, t =>
    match t with
    | [] => []
    | '[' :: ':' :: rest =>
      let name := String.ofList (rest.takeWhile (· ≠ ':'))
      match rest.drop name.length with
      | ':' :: ']' :: more =>
        ((List.range 256).map Char.ofNat).filter (Member.isKind name) ++ charactersOf fuel more
      | _ => '[' :: charactersOf fuel (':' :: rest)
    | '\\' :: rest =>
      let (c, rest) := if rest = [] then ('\\', rest) else Format.escape rest
      let (c, rest) := match c, rest with
        | '\\', d :: more => if t.take 2 = ['\\', '\\'] then (c, rest) else (d, more)
        | _, _ => (c, rest)
      range fuel c rest
    | c :: rest => range fuel c rest
where
  range : Nat → Char → Text → Text
    | 0, _, _ => []
    | fuel + 1, c, t =>
      match t with
      | '-' :: d :: rest =>
        if c ≤ d then
          ((List.range (d.toNat - c.toNat + 1)).map fun n => Char.ofNat (c.toNat + n))
            ++ charactersOf fuel rest
        else c :: charactersOf fuel t
      | _ => c :: charactersOf fuel t

/-- Runs of one character of a set made into one of it. -/
def squeeze (set : Char → Bool) : Text → Text
  | [] => []
  | c :: rest =>
    match squeeze set rest with
    | d :: more => if c = d ∧ set c then d :: more else c :: d :: more
    | [] => [c]

def tr (words : List Text) : Tool Unit :=
  withLeadingOptions 1 ⟨"AcCdst", "", [("delete", 'd'), ("squeeze-repeats", 's'),
    ("complement", 'c')]⟩ words fun o => do
    let most := if o.has 'd' && !o.has 's' then 1 else 2
    if let some word := o.words[most]? then return ← surplus 1 word
    let sets := o.words.map fun t => charactersOf (2 * t.length + 2) t
    let complement (set : Text) : Text :=
      if o.has 'c' || o.has 'C' then
        ((List.range 256).map Char.ofNat).filter fun c => !set.contains c
      else set
    match sets with
    | [] => missing "missing operand" 1
    | [first] =>
      let set := complement first
      let text ← takeInput
      if o.has 'd' then say (text.filter fun c => !set.contains c)
      else if o.has 's' then say (squeeze set.contains text)
      else
        complain ("missing operand after ".toList ++ quoted (o.words.head?.getD []))
        advise 1
    | first :: second :: _ =>
      let set := complement first
      let text ← takeInput
      if o.has 'd' then
        let kept := text.filter fun c => !set.contains c
        say (if o.has 's' then squeeze second.contains kept else kept)
      else
        let second := if o.has 't' then second
          else second ++ List.replicate (set.length - second.length) (second.getLast?.getD ' ')
        let pairs := (set.zip second).reverse
        let changed := text.map fun c => (pairs.lookup c).getD c
        say (if o.has 's' then squeeze second.contains changed else changed)

/-- Positions and ranges of positions in a list; an open end is none. -/
def ranges? (t : Text) : Option (List (Nat × Option Nat)) :=
  (Text.splitAt ',' t).mapM fun part =>
    let low := part.takeWhile Char.isDigit
    let number (t : Text) : Nat := (Arithmetic.digits 10 t).1
    match part.drop low.length with
    | [] => if low = [] then none else some (number low, some (number low))
    | '-' :: high =>
      if !high.all Char.isDigit || (low == [] && high == []) then none
      else some (if low = [] then 1 else number low, if high = [] then none else some (number high))
    | _ => none

def chosen {α : Type} (ranges : List (Nat × Option Nat)) (all : List α) : List α :=
  (all.zipIdx 1).filterMap fun (a, n) =>
    if ranges.any fun (low, high) => low ≤ n && high.all fun h => n ≤ h then some a else none

def cut (words : List Text) : Tool Unit :=
  withOptions 1 ⟨"nsz", "bcdf", [("delimiter", 'd'), ("fields", 'f')]⟩ words fun o => do
    let named := ['f', 'c', 'b'].findSome? o.value?
    let list := named.bind ranges?
    match list with
    | none => missing "you must specify a list of bytes, characters, or fields" 1
    | some ranges =>
      let found ← sources 1 about (orInput o.words)
      let mark := ((o.value? 'd').bind (·.head?)).getD '\t'
      for l in found.flatMap fun (_, t) => lines t do
        if (o.value? 'f').isSome then
          if mark ∈ l then sayLine (Text.joinWith mark (chosen ranges (Text.splitAt mark l)))
          else if !o.has 's' then sayLine l
        else sayLine (chosen ranges l)

def tac (words : List Text) : Tool Unit :=
  withOptions 1 ⟨"", "", []⟩ words fun o => do
    let found ← sources 1 (fun p cause =>
      if cause = .isDirectory then p ++ ": read error: ".toList ++ problem cause
      else "failed to open ".toList ++ quoted p ++ " for reading: ".toList ++ problem cause)
      (orInput o.words)
    for (_, t) in found do say (Text.pieces t).reverse.flatten

def rev (words : List Text) : Tool Unit :=
  withOptions 1 ⟨"0", "", []⟩ words fun o => do
  let found ← sources 1 (fun p cause =>
    "cannot open ".toList ++ p ++ ": ".toList ++ problem cause) (orInput o.words)
  for (_, t) in found do
    say ((Text.pieces t).flatMap fun l =>
      if l.getLast? = some '\n' then l.dropLast.reverse ++ ['\n'] else l.reverse)

def nl (words : List Text) : Tool Unit :=
  withOptions 1 ⟨"p", "bdfhilnswv", []⟩ words fun o => do
    let found ← sources 1 about (orInput o.words)
    let all := o.value? 'b' = some ['a']
    let wide := ((o.value? 'w').bind count?).map (·.2) |>.getD 6
    let mark := (o.value? 's').getD ['\t']
    let mut n := 1
    for l in found.flatMap fun (_, t) => lines t do
      if l = [] && !all then say (List.replicate (wide + mark.length) ' ' ++ ['\n'])
      else
        let digits := Text.ofNat n
        sayLine (List.replicate (wide - digits.length) ' ' ++ digits ++ mark ++ l)
        n := n + 1

def paste (words : List Text) : Tool Unit :=
  withOptions 1 ⟨"sz", "d", [("serial", 's')]⟩ words fun o => do
    let found ← (if o.has 's' then sources else sourcesUpToFault) 1 about (orInput o.words)
    if (← get).status ≠ 0 ∧ !o.has 's' then return
    let marks := (o.value? 'd').map fun t => charactersOf (2 * t.length + 2) t
    let mark := (marks.bind (·.head?)).getD '\t'
    let columns := found.map fun (_, t) => lines t
    if o.has 's' then
      for column in columns do sayLine (Text.joinWith mark column)
    else
      let rows := columns.foldl (fun n c => max n c.length) 0
      for n in List.range rows do
        sayLine (Text.joinWith mark (columns.map fun column => (column[n]?).getD []))

def fold (words : List Text) : Tool Unit :=
  withOptions 1 ⟨"bs", "w", []⟩ words fun o => do
    let found ← sources 1 about (orInput o.words)
    let wide := max 1 (((o.value? 'w').bind count?).map (·.2) |>.getD 80)
    let rec broken : Nat → Text → Text
      | 0, t => t
      | fuel + 1, t =>
        if t.length ≤ wide then t else t.take wide ++ '\n' :: broken fuel (t.drop wide)
    for (_, t) in found do
      say ((Text.pieces t).flatMap fun l =>
        if l.getLast? = some '\n' then broken l.length l.dropLast ++ ['\n'] else broken l.length l)

def seq (words : List Text) : Tool Unit :=
  let isNumber (w : Text) : Bool := match w with
    | '-' :: c :: _ => c.isDigit || c == '.'
    | _ => false
  let named := words.takeWhile fun w => !isNumber w
  let words := named ++ if named.length < words.length ∧ named.all (·.head? = some '-') then
    ['-', '-'] :: words.drop named.length else words.drop named.length
  withLeadingOptions 1 ⟨"w", "fst", [("separator", 's'), ("equal-width", 'w'),
    ("format", 'f')]⟩ words fun o => do
  let mark := (o.value? 's').getD ['\n']
  let wide := o.has 'w'
  let words := o.words
  if let some word := words[3]? then return ← surplus 1 word
  let numbers := words.map fun w => Arithmetic.number? false w
  let bad := words.find? fun w => (Arithmetic.number? false w).isNone
  match bad, numbers with
  | some w, _ =>
    complain ("invalid floating point argument: ".toList ++ quoted w)
    advise 1
  | none, [] => missing "missing operand" 1
  | none, some first :: rest =>
    let (first, step, last) := match rest with
      | [] => (1, 1, first)
      | [some last] => (first, 1, last)
      | some step :: some last :: _ => (first, step, last)
      | _ => (first, 1, first)
    if step = 0 then
      complain "invalid Zero increment value: '0'".toList
      advise 1
    else
      let length := if (0 < step ∧ first ≤ last) ∨ (step < 0 ∧ last ≤ first) then
        ((last - first) / step).toNat + 1 else 0
      let shown := (List.range length).map fun n => (toString (first + step * (n : Nat))).toList
      let widest := shown.foldl (fun n t => max n t.length) 0
      let shown := if wide then
        shown.map fun t => match t with
          | '-' :: digits => '-' :: List.replicate (widest - t.length) '0' ++ digits
          | _ => List.replicate (widest - t.length) '0' ++ t
        else shown
      if shown ≠ [] then say (List.intercalate mark shown ++ ['\n'])
  | none, _ => pure ()

end TripleSlash.Shell.Tool
