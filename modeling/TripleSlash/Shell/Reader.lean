import TripleSlash.Shell.Command

/-! Reading commands from the text of a script. A script is read and run line by line, so a
fault in a later line does not keep the earlier ones from running. A here document is taken
out of the text behind the line that asks for it as soon as its end mark is known. -/
namespace TripleSlash.Shell

inductive Token where
  | word (word : Word)
  | mark (text : Text)
  | newline
  | finish
  /-- The start of a redirection of an open file. -/
  | redirect (number : Nat) (mark : Text)

/-- The text that is still to be read, and the line that it starts on. -/
structure Reader where
  rest : Text
  line : Nat
  /-- How many lines were taken out behind the current one. -/
  taken : Nat
  /-- A token that was read too early. -/
  ahead : Option Token

/-- What is wrong with a script. -/
structure Fault where
  line : Nat
  message : Text

abbrev Read := StateT Reader (Except Fault)

namespace Reader

def ofText (t : Text) : Reader := ⟨t, 1, 0, none⟩

def backquote : Char := Char.ofNat 0x60

def isSpace (c : Char) : Bool := c == ' ' || c == '\t'

/-- The characters that end a word where they are not quoted. -/
def endsWord (c : Char) : Bool := isSpace c || c == '\n' || ";&|()<>".toList.contains c

/-- The parameters that are named by one special character. -/
def isSpecial (c : Char) : Bool := "@*#?$!-".toList.contains c

def fault {α : Type} (message : String) : Read α := do
  throw ⟨(← get).line, message.toList⟩

/-- Takes the first characters, counting their lines. -/
def take (count : Nat) : Read Text :=
  modifyGet fun r =>
    let taken := List.take count r.rest
    let rest := List.drop count r.rest
    let ends := taken.count '\n'
    if ends = 0 then (taken, { r with rest })
    else (taken, { r with rest, line := r.line + ends + r.taken, taken := 0 })

def takeWhile (p : Char → Bool) : Read Text := do
  take (((← get).rest.takeWhile p).length)

/-- Drops blanks, broken line ends and a comment. -/
def skipGaps : Nat → Read Unit
  | 0 => pure ()
  | fuel + 1 => do
    match (← get).rest with
    | '\\' :: '\n' :: _ => do let _ ← take 2; skipGaps fuel
    | '#' :: _ => do let _ ← takeWhile (· ≠ '\n')
    | c :: _ => if isSpace c then do let _ ← takeWhile isSpace; skipGaps fuel else pure ()
    | [] => pure ()

def pushBack (t : Token) : Read Unit := modify fun r => { r with ahead := some t }

/-- The words that have a meaning of their own where a command may start. -/
def reserved : List Text :=
  ["!", "\x7b", "\x7d", "case", "do", "done", "elif", "else", "esac", "fi", "for", "if", "in",
    "then", "until", "while"].map String.toList

/-- The reserved word that a token is. -/
def keyword? : Token → Option String
  | .word w => ((Word.bare? w).filter reserved.contains).map String.ofList
  | _ => none

/-- Whether a list of commands ends at a token. -/
def closes (t : Token) : Bool :=
  match t with
  | .finish => true
  | .mark m => m = [')'] || m = [';', ';']
  | t => match keyword? t with
    | some k => ["do", "done", "elif", "else", "esac", "fi", "then", "\x7d"].contains k
    | none => false

def inQuotes (t : Text) : Text := '"' :: t ++ ['"']

/-- How a token is named in a complaint. -/
def nameOf : Token → Text
  | .word w => match (Word.bare? w).filter reserved.contains with
    | some t => inQuotes t
    | none => "word".toList
  | .mark t => inQuotes t
  | .newline => "newline".toList
  | .finish => "end of file".toList
  | .redirect .. => "redirection".toList

def unexpected {α : Type} (t : Token) (wanted : Option String) : Read α := do
  let more := match wanted with
    | none => []
    | some w => " (expecting ".toList ++ inQuotes w.toList ++ [')']
  throw ⟨(← get).line, "Syntax error: ".toList ++ nameOf t ++ " unexpected".toList ++ more⟩

/-- Takes the lines of a here document up to its end mark, or to the end of the text. -/
def documentLines (strip : Bool) (mark : Text) : List Text → Nat → Text × List Text × Nat
  | [], count => ([], [], count)
  | l :: more, count =>
    let l := if strip then l.dropWhile (· = '\t') else l
    let bare := if l.getLast? = some '\n' then l.dropLast else l
    if bare = mark then ([], more, count + 1)
    else
      let (body, left, count) := documentLines strip mark more (count + 1)
      (l ++ body, left, count)

/-- Takes a here document out of the text behind the current line. -/
def takeDocument (strip : Bool) (mark : Text) : Read Text :=
  modifyGet fun r =>
    let here := r.rest.takeWhile (· ≠ '\n')
    let (body, left, count) := documentLines strip mark 
      (Text.pieces (r.rest.drop (here.length + 1))) 0
    (body, { r with
      rest := here ++ (r.rest.drop here.length).take 1 ++ left.flatten, taken := r.taken + count })

/-- Where pieces stand, which decides what ends them and what quotes. -/
inductive Place where
  | word
  | double
  | braces (quoted : Bool)
  | arithmetic (depth : Nat)
  | document
deriving DecidableEq, Repr

namespace Place

/-- Whether text in this place counts as quoted. -/
def quotes : Place → Bool
  | word | braces false => false
  | _ => true

/-- Whether a character has no meaning of its own here. -/
def isPlain (p : Place) (c : Char) : Bool :=
  if c == '\\' || c == '$' || c == backquote then false
  else match p with
    | word => !(endsWord c || c == '"' || c == '\'')
    | double => c != '"'
    | braces quoted => c != '"' && c != '\x7d' && (quoted || c != '\'')
    | arithmetic _ => c != '(' && c != ')'
    | document => true

/-- Whether a backslash in front of a character quotes it. -/
def escapes (p : Place) (c : Char) : Bool :=
  match p with
  | word | braces false => true
  | document => c == '\\' || c == '$' || c == backquote
  | braces true => c == '\\' || c == '$' || c == backquote || c == '"' || c == '\x7d'
  | _ => c == '\\' || c == '$' || c == backquote || c == '"'

end Place

/-- Takes what stands between backquotes. A backslash in front of another backquote, of a
dollar sign or of itself is dropped, and inside of double quotes also in front of those. -/
def takeBackquoted (quoted : Bool) : Nat → Read Text
  | 0 => fault "Syntax error: EOF in backquote substitution"
  | fuel + 1 => do
    match (← get).rest with
    | [] => fault "Syntax error: EOF in backquote substitution"
    | '\\' :: c :: _ =>
      let pair ← take 2
      let dropped := c == '\\' || c == '$' || c == backquote || (quoted && c == '"')
      return (if dropped then [c] else pair) ++ (← takeBackquoted quoted fuel)
    | c :: _ =>
      let one ← take 1
      if c = backquote then return [] else return one ++ (← takeBackquoted quoted fuel)

/-- The name of a parameter in braces. -/
def takeName : Read Text := do
  match (← get).rest with
  | c :: _ =>
    if isNameStart c then takeWhile isNameRest
    else if c.isDigit then takeWhile Char.isDigit
    else if isSpecial c then take 1
    else return []
  | [] => return []

/-- The form of a parameter by what follows its name, and how long that is. -/
def form : Text → Form × Nat
  | '\x7d' :: _ => (.value, 0)
  | ':' :: '-' :: _ => (.fallback true, 2)
  | ':' :: '=' :: _ => (.assign true, 2)
  | ':' :: '?' :: _ => (.demand true, 2)
  | ':' :: '+' :: _ => (.alternative true, 2)
  | '-' :: _ => (.fallback false, 1)
  | '=' :: _ => (.assign false, 1)
  | '?' :: _ => (.demand false, 1)
  | '+' :: _ => (.alternative false, 1)
  | '%' :: '%' :: _ => (.trim true true, 2)
  | '%' :: _ => (.trim true false, 1)
  | '#' :: '#' :: _ => (.trim false true, 2)
  | '#' :: _ => (.trim false false, 1)
  | _ => (.broken, 0)

/-- Whether a length is asked for: a number sign in front of a whole name. -/
def asksLength : Text → Bool
  | '#' :: c :: rest =>
    if isNameStart c then rest.dropWhile isNameRest |>.head? |> (· == some '\x7d')
    else if c.isDigit then rest.dropWhile Char.isDigit |>.head? |> (· == some '\x7d')
    else isSpecial c && rest.head? == some '\x7d'
  | _ => false

/-- The mark at the start of a text that is one. -/
def mark? : Text → Option Text
  | '&' :: '&' :: _ => some ['&', '&']
  | '|' :: '|' :: _ => some ['|', '|']
  | ';' :: ';' :: _ => some [';', ';']
  | c :: _ => if ";&|()".toList.contains c then some [c] else none
  | [] => none

/-- The mark of a redirection. -/
def direction? : Text → Option Text
  | '<' :: '<' :: '-' :: _ => some ['<', '<', '-']
  | '<' :: '<' :: _ => some ['<', '<']
  | '<' :: '&' :: _ => some ['<', '&']
  | '<' :: '>' :: _ => some ['<', '>']
  | '<' :: _ => some ['<']
  | '>' :: '>' :: _ => some ['>', '>']
  | '>' :: '&' :: _ => some ['>', '&']
  | '>' :: '|' :: _ => some ['>', '|']
  | '>' :: _ => some ['>']
  | _ => none

/-- The redirection at the start of a text: the number of its open file, its mark, and how
long both are. -/
def redirection? (t : Text) : Option (Nat × Text × Nat) :=
  match t with
  | c :: rest =>
    if c.isDigit then (direction? rest).map fun m => (c.toNat - 48, m, m.length + 1)
    else (direction? t).map fun m => (if c = '<' then 0 else 1, m, m.length)
  | [] => none

/-- The simple command that was read, last things first, up to a token. -/
def finished (line : Nat) (t : Token) (assignments : List (Text × Word)) (words : List Word)
    (redirects : List Redirect) : Read Command := do
  pushBack t
  return .simple line assignments.reverse words.reverse redirects.reverse

mutual

/-- Reads the pieces of a word up to where they end, behind those read before, the last of
which comes first. -/
def pieces : Nat → Place → List Piece → Read Word
  | 0, _, _ => fault "Syntax error: too deep"
  | fuel + 1, place, read => do
    match (← get).rest with
    | [] =>
      match place with
      | .word | .document => return read.reverse
      | .double => fault "Syntax error: Unterminated quoted string"
      | .braces _ => fault "Syntax error: Missing '\x7d'"
      | .arithmetic _ => fault "Syntax error: Missing '))'"
    | '\\' :: '\n' :: _ =>
      let _ ← take 2
      pieces fuel place read
    | '\\' :: c :: _ =>
      let pair ← take 2
      if place.escapes c then pieces fuel place (.text [c] true :: read)
      else pieces fuel place (.text pair place.quotes :: read)
    | '$' :: _ =>
      let _ ← take 1
      let piece ← dollar fuel place.quotes
      pieces fuel place (piece :: read)
    | c :: rest =>
      if c = backquote then
        let _ ← take 1
        let body ← backquoted fuel place.quotes
        pieces fuel place (.output body place.quotes :: read)
      else if place.isPlain c then
        let run ← takeWhile place.isPlain
        pieces fuel place (.text run place.quotes :: read)
      else match place, c with
        | .double, _ | .braces _, '\x7d' =>
          let _ ← take 1
          return read.reverse
        | .arithmetic 0, ')' =>
          if rest.head? = some ')' then
            let _ ← take 2
            return read.reverse
          else
            let one ← take 1
            pieces fuel place (.text one true :: read)
        | .arithmetic depth, _ =>
          let one ← take 1
          let depth := if c = '(' then depth + 1 else depth - 1
          pieces fuel (.arithmetic depth) (.text one true :: read)
        | _, '"' =>
          let _ ← take 1
          let inner ← pieces fuel .double []
          let inner := if inner.isEmpty then [.text [] true] else inner
          pieces fuel place (inner.reverse ++ read)
        | _, '\'' =>
          let _ ← take 1
          let run ← takeWhile (· ≠ '\'')
          if (← take 1) = [] then fault "Syntax error: Unterminated quoted string"
          pieces fuel place (.text run true :: read)
        | .word, '\\' =>
          let one ← take 1
          return (Piece.text one true :: read).reverse
        | .word, _ => return read.reverse
        | _, _ =>
          let one ← take 1
          pieces fuel place (.text one place.quotes :: read)

/-- Reads what follows a dollar sign. -/
def dollar : Nat → Bool → Read Piece
  | 0, _ => fault "Syntax error: too deep"
  | fuel + 1, quoted => do
    match (← get).rest with
    | '(' :: '(' :: _ =>
      let _ ← take 2
      return .arithmetic (← pieces fuel (.arithmetic 0) []) quoted
    | '(' :: _ =>
      let _ ← take 1
      let body ← list fuel true
      expectMark fuel ")"
      return .output body quoted
    | '\x7b' :: rest =>
      let _ ← take 1
      if asksLength rest then
        let _ ← take 1
        let name ← takeName
        let _ ← take 1
        return .parameter name .length [] quoted
      let name ← takeName
      let (form, count) := form (← get).rest
      let form := if name = [] then .broken else form
      let _ ← take count
      let inner := match form with
        | .trim .. => false
        | _ => quoted
      return .parameter name form (← pieces fuel (.braces inner) []) quoted
    | c :: _ =>
      if isNameStart c then return .parameter (← takeWhile isNameRest) .value [] quoted
      else if c.isDigit || isSpecial c then return .parameter (← take 1) .value [] quoted
      else return .text ['$'] quoted
    | [] => return .text ['$'] quoted

/-- Reads the commands between backquotes. -/
def backquoted : Nat → Bool → Read Command
  | 0, _ => fault "Syntax error: too deep"
  | fuel + 1, quoted => do
    let line := (← get).line
    let inner ← takeBackquoted quoted (fuel + 1)
    let outer ← get
    set { Reader.ofText inner with line }
    let body ← list fuel true
    match ← token fuel with
    | .finish => set outer
    | t => unexpected t none
    return body

/-- Reads a token. -/
def token : Nat → Read Token
  | 0 => fault "Syntax error: too deep"
  | fuel + 1 => do
    if let some t := (← get).ahead then
      modify fun r => { r with ahead := none }
      return t
    skipGaps (fuel + 1)
    let rest := (← get).rest
    match rest with
    | [] => return .finish
    | '\n' :: _ =>
      let _ ← take 1
      return .newline
    | _ =>
      match redirection? rest, mark? rest with
      | some (number, mark, count), _ =>
        let _ ← take count
        return .redirect number mark
      | none, some mark =>
        let _ ← take mark.length
        return .mark mark
      | none, none => return .word (← pieces fuel .word [])

def expectMark : Nat → String → Read Unit
  | 0, _ => fault "Syntax error: too deep"
  | fuel + 1, wanted => do
    match ← token fuel with
    | .mark m => if m = wanted.toList then return () else unexpected (.mark m) (some wanted)
    | t => unexpected t (some wanted)

/-- The first token that is no line end. -/
def tokenPast : Nat → Read Token
  | 0 => fault "Syntax error: too deep"
  | fuel + 1 => do
    match ← token fuel with
    | .newline => tokenPast fuel
    | t => return t

def expectWord : Nat → String → Read Unit
  | 0, _ => fault "Syntax error: too deep"
  | fuel + 1, wanted => do
    let t ← tokenPast fuel
    if keyword? t = some wanted then return () else unexpected t (some wanted)

/-- Reads commands up to a token that closes them. There has to be one, unless `empty`. -/
def list : Nat → Bool → Read Command
  | 0, _ => fault "Syntax error: too deep"
  | fuel + 1, empty => do
    let t ← tokenPast fuel
    pushBack t
    match t with
    | .finish => return .nothing
    | _ =>
      if empty && closes t then return .nothing
      let first ← andOr fuel
      match ← token fuel with
      | .mark ['&'] => return .sequence (.background first) (← list fuel true)
      | .mark [';'] | .newline => return .sequence first (← list fuel true)
      | t =>
        pushBack t
        return first

/-- Reads a whole line of commands; there is none at the end of the text. -/
def commands : Nat → Read (Option Command)
  | 0 => fault "Syntax error: too deep"
  | fuel + 1 => do
    match ← token fuel with
    | .finish => return none
    | .newline => return some .nothing
    | t =>
      pushBack t
      let first ← andOr fuel
      let more (first : Command) : Read (Option Command) := do
        match ← token fuel with
        | .newline | .finish => return some first
        | t =>
          pushBack t
          return (← commands fuel).map fun rest => .sequence first rest
      match ← token fuel with
      | .mark ['&'] => more (.background first)
      | .mark [';'] => more first
      | .newline | .finish => return some first
      | t => unexpected t none

def andOr : Nat → Read Command
  | 0 => fault "Syntax error: too deep"
  | fuel + 1 => do chain fuel (← pipeline fuel)

/-- Reads what follows in a chain of conditional commands. -/
def chain : Nat → Command → Read Command
  | 0, _ => fault "Syntax error: too deep"
  | fuel + 1, first => do
    match ← token fuel with
    | .mark ['&', '&'] =>
      pushBack (← tokenPast fuel)
      chain fuel (.both first (← pipeline fuel))
    | .mark ['|', '|'] =>
      pushBack (← tokenPast fuel)
      chain fuel (.either first (← pipeline fuel))
    | t =>
      pushBack t
      return first

def pipeline : Nat → Read Command
  | 0 => fault "Syntax error: too deep"
  | fuel + 1 => do
    let t ← token fuel
    if keyword? t = some "!" then return .negate (← stages fuel)
    pushBack t
    stages fuel

/-- Reads the commands of a pipeline. -/
def stages : Nat → Read Command
  | 0 => fault "Syntax error: too deep"
  | fuel + 1 => do
    let first ← command fuel
    match ← token fuel with
    | .mark ['|'] =>
      pushBack (← tokenPast fuel)
      return .pipe first (← stages fuel)
    | t =>
      pushBack t
      return first

def command : Nat → Read Command
  | 0 => fault "Syntax error: too deep"
  | fuel + 1 => do
    let t ← token fuel
    let line := (← get).line
    match t with
    | .mark ['('] =>
      let body ← list fuel false
      expectMark fuel ")"
      withRedirects fuel line (.apart body)
    | .word w =>
      match keyword? t with
      | some "if" =>
        let condition ← list fuel false
        expectWord fuel "then"
        let found ← branches fuel condition
        withRedirects fuel line found
      | some "while" | some "until" =>
        let condition ← list fuel false
        expectWord fuel "do"
        let body ← list fuel false
        expectWord fuel "done"
        withRedirects fuel line (.loop (keyword? t = some "until") condition body)
      | some "for" => withRedirects fuel line (← each fuel line)
      | some "case" =>
        match ← token fuel with
        | .word subject =>
          let t ← tokenPast fuel
          if keyword? t ≠ some "in" then unexpected t (some "in")
          let arms ← arms fuel
          withRedirects fuel line (.choose line subject arms)
        | t => unexpected t none
      | some "\x7b" =>
        let body ← list fuel false
        expectWord fuel "\x7d"
        withRedirects fuel line body
      | some _ => unexpected t none
      | none => simple fuel line (.word w) [] [] []
    | .redirect .. => simple fuel line t [] [] []
    | _ => unexpected t none

/-- Reads what follows the condition of a branch and its first word. -/
def branches : Nat → Command → Read Command
  | 0, _ => fault "Syntax error: too deep"
  | fuel + 1, condition => do
    let consequence ← list fuel false
    let t ← tokenPast fuel
    match keyword? t with
    | some "fi" => return .branch condition consequence .nothing
    | some "else" =>
      let alternative ← list fuel false
      expectWord fuel "fi"
      return .branch condition consequence alternative
    | some "elif" =>
      let next ← list fuel false
      expectWord fuel "then"
      return .branch condition consequence (← branches fuel next)
    | _ => unexpected t (some "fi")

/-- Reads a loop over words behind its first word. -/
def each : Nat → Nat → Read Command
  | 0, _ => fault "Syntax error: too deep"
  | fuel + 1, line => do
    let name ← match ← token fuel with
      | .word w => pure ((Word.bare? w).getD [])
      | _ => pure []
    unless isName name do fault "Syntax error: Bad for loop variable"
    let t ← tokenPast fuel
    let words ← if keyword? t = some "in" then some <$> words fuel [] else do
      match t with
      | .mark [';'] => pure ()
      | t => pushBack t
      pure none
    expectWord fuel "do"
    let body ← list fuel false
    expectWord fuel "done"
    return .each line name words body

/-- Reads the words of a loop up to the end of their list. -/
def words : Nat → List Word → Read (List Word)
  | 0, _ => fault "Syntax error: too deep"
  | fuel + 1, read => do
    match ← token fuel with
    | .word w => words fuel (w :: read)
    | .newline | .mark [';'] => return read.reverse
    | t => unexpected t none

/-- Reads the arms of a choice up to its last word. -/
def arms : Nat → Read (List (List Word × Command))
  | 0 => fault "Syntax error: too deep"
  | fuel + 1 => do
    let t ← tokenPast fuel
    if keyword? t = some "esac" then return []
    let t ← match t with
      | .mark ['('] => token fuel
      | t => pure t
    let patterns ← patterns fuel t
    let body ← list fuel true
    let t ← tokenPast fuel
    match t with
    | .mark [';', ';'] => return (patterns, body) :: (← arms fuel)
    | t =>
      if keyword? t = some "esac" then return [(patterns, body)]
      unexpected t (some ";;")

/-- Reads the patterns of an arm, the first of which is a token. -/
def patterns : Nat → Token → Read (List Word)
  | 0, _ => fault "Syntax error: too deep"
  | fuel + 1, t => do
    match t with
    | .word w =>
      match ← token fuel with
      | .mark ['|'] => return w :: (← patterns fuel (← token fuel))
      | .mark [')'] => return [w]
      | t => unexpected t (some ")")
    | t => unexpected t (some ")")

/-- Reads the target of a redirection. -/
def target : Nat → Nat → Text → Read Redirect
  | 0, _, _ => fault "Syntax error: too deep"
  | fuel + 1, number, mark => do
    match ← token fuel with
    | .word w =>
      match String.ofList mark with
      | "<<" | "<<-" =>
        let (ending, quoted) := Word.unquoted w
        let body ← takeDocument (mark.length = 3) ending
        if quoted then return .mk number .document [.text body true]
        let outer ← get
        set (Reader.ofText body)
        let found ← pieces fuel .document []
        set outer
        return .mk number .document found
      | "<" | "<>" => return .mk number .read w
      | ">>" => return .mk number .append w
      | ">|" => return .mk number .replace w
      | "<&" | ">&" => return .mk number .share w
      | _ => return .mk number .create w
    | t => unexpected t none

/-- Reads the redirections behind a command. -/
def withRedirects : Nat → Nat → Command → Read Command
  | 0, _, _ => fault "Syntax error: too deep"
  | fuel + 1, line, c => do
    match ← token fuel with
    | .redirect number mark =>
      let first ← target fuel number mark
      match ← withRedirects fuel line c with
      | .redirected line c more => return .redirected line c (first :: more)
      | c => return .redirected line c [first]
    | t =>
      pushBack t
      return c

/-- Reads a simple command from its first token on, or the definition of a function. What was
read before comes last first. -/
def simple : Nat → Nat → Token → List (Text × Word) → List Word → List Redirect → Read Command
  | 0, _, _, _, _, _ => fault "Syntax error: too deep"
  | fuel + 1, line, t, assignments, words, redirects => do
    match t with
    | .word w =>
      match words, Word.assignment? w with
      | [], some a => simple fuel line (← token fuel) (a :: assignments) words redirects
      | _, _ => simple fuel line (← token fuel) assignments (w :: words) redirects
    | .redirect number mark =>
      let r ← target fuel number mark
      simple fuel line (← token fuel) assignments words (r :: redirects)
    | .mark ['('] =>
      match words, assignments, redirects with
      | [w], [], [] =>
        match ← token fuel with
        | .word _ => fault "Syntax error: word unexpected (expecting \")\")"
        | t =>
          pushBack t
          expectMark fuel ")"
        let name := (Word.bare? w).getD []
        if !isName name || special.contains (String.ofList name) then
          fault "Syntax error: Bad function name"
        pushBack (← tokenPast fuel)
        return .define name (← command fuel)
      | _, _, _ => finished line t assignments words redirects
    | t => finished line t assignments words redirects

end

/-- A bound on how deep the reading of a text goes. -/
def depth (t : Text) : Nat := 16 * t.length + 64

/-- Reads the next line of commands. -/
def next (r : Reader) : Except Fault (Option (Command × Reader)) := do
  let (found, r) ← (commands (depth r.rest)).run r
  return found.map fun c => (c, r)

end Reader
end TripleSlash.Shell
