import TripleSlash.CommandLine.Request

/-! Reading a list of arguments, word by word from the left: the first word that ends the
reading decides how it ends. Flags may stand before or behind the path, short ones may share
a word, and behind two dashes every word is a path. -/
namespace TripleSlash.CommandLine

/-- What the words so far have set. -/
structure Settings where
  path : Option Path
  output : Option Path
  options : List Text
  noDefaults : Bool
  deps : Bool
  verbose : Bool
deriving DecidableEq, Repr

namespace Settings

def initial : Settings := ⟨none, none, [], false, false, false⟩

def takePath (s : Settings) (word : Text) : Except Ending Settings :=
  if s.path.isSome then .error (.misuse (.unexpected word))
  else if word = [] then .error (.misuse .emptyPath)
  else .ok { s with path := some ⟨word⟩ }

/-- Sets a flag that has a value. -/
def take (s : Settings) (flag : Flag) (value : Text) : Except Ending Settings :=
  if flag = .output then
    if value = [] then .error (.misuse .emptyPath)
    else if s.output.isSome then .error (.misuse (.repeated flag))
    else .ok { s with output := some ⟨value⟩ }
  else .ok { s with options := s.options ++ [value] }

/-- Sets a flag that has none. -/
def turnOn (s : Settings) (c : Command) (flag : Flag) : Except Ending Settings :=
  match flag with
  | .noDefaults =>
    if s.noDefaults then .error (.misuse (.repeated flag)) else .ok { s with noDefaults := true }
  | .deps => if s.deps then .error (.misuse (.repeated flag)) else .ok { s with deps := true }
  | .verbose =>
    if s.verbose then .error (.misuse (.repeated flag)) else .ok { s with verbose := true }
  | .help => .error (.help (some c))
  | _ => .error (.misuse (.missingValue flag))

def request (s : Settings) (c : Command) : Except Ending Request :=
  match s.path with
  | none => .error (.misuse .missingPath)
  | some path =>
    match c with
    | .compile =>
      let defaults := if s.noDefaults then CompilerOptions.empty else .standard
      .ok (.compile path s.output defaults s.options s.deps s.verbose)
    | .project => .ok (.project path s.output s.verbose)
    | .deps => .ok (.deps path s.verbose)
    | .anchor => .ok (.anchor path)

end Settings

/-- What a word leaves: the settings, and the flag whose value the next word is. -/
structure Progress where
  settings : Settings
  wants : Option Flag

namespace Command

/-- Reads the letters of short flags. What follows the letter of a flag with a value is the
value, with an equals sign in front of it or without. -/
def readLetters (c : Command) (s : Settings) : Text → Except Ending Progress
  | [] => .ok ⟨s, none⟩
  | letter :: rest =>
    match c.short? letter with
    | none => .error (.misuse (.unexpected ['-', letter]))
    | some flag =>
      if flag.takesValue then
        match rest with
        | [] => .ok ⟨s, some flag⟩
        | '=' :: value => (s.take flag value).map (⟨·, none⟩)
        | value => (s.take flag value).map (⟨·, none⟩)
      else
        match s.turnOn c flag with
        | .error ending => .error ending
        | .ok s => readLetters c s rest

/-- Reads a long flag, given without its dashes. -/
def readLong (c : Command) (s : Settings) (word : Text) : Except Ending Progress :=
  let name := word.takeWhile (· ≠ '=')
  match c.long? name, word.dropWhile (· ≠ '=') with
  | none, _ => .error (.misuse (.unexpected ('-' :: '-' :: name)))
  | some flag, [] =>
    if flag.takesValue then .ok ⟨s, some flag⟩ else (s.turnOn c flag).map (⟨·, none⟩)
  | some flag, _ :: value =>
    if flag.takesValue then (s.take flag value).map (⟨·, none⟩)
    else .error (.misuse (.needlessValue flag))

def readWord (c : Command) (s : Settings) : Text → Except Ending Progress
  | '-' :: '-' :: word => c.readLong s word
  | '-' :: letter :: letters => c.readLetters s (letter :: letters)
  | word => (s.takePath word).map (⟨·, none⟩)

end Command

def twoDashes : Text := ['-', '-']

/-- A lone dash is a path. -/
def looksLikeFlag : Text → Bool
  | '-' :: _ :: _ => true
  | _ => false

def Settings.takePaths (s : Settings) : List Text → Except Ending Settings
  | [] => .ok s
  | word :: rest =>
    match s.takePath word with
    | .error ending => .error ending
    | .ok s => s.takePaths rest

/-- Reads the words behind the name of a command. -/
def Command.readWords (c : Command) (s : Settings) : List Text → Except Ending Settings
  | [] => .ok s
  | word :: rest =>
    if word = twoDashes then s.takePaths rest
    else
      match c.readWord s word with
      | .error ending => .error ending
      | .ok ⟨s, none⟩ => c.readWords s rest
      | .ok ⟨s, some flag⟩ =>
        match rest with
        | [] => .error (.misuse (.missingValue flag))
        | value :: rest =>
          if looksLikeFlag value && !flag.takesAnyWord then
            .error (.misuse (.missingValue flag))
          else
            match s.take flag value with
            | .error ending => .error ending
            | .ok s => c.readWords s rest

def helpWord : Text := "help".toList

/-- The help on one command, on this help itself or on all. -/
def helpOn : List Text → Ending
  | [] => .help none
  | [word] =>
    match Command.ofName? word with
    | some c => .help (some c)
    | none => if word = helpWord then .help none else .misuse (.unexpected word)
  | _ :: word :: _ => .misuse (.unexpected word)

/-- A first word that names no command. -/
def endingOf (word : Text) : Ending :=
  match word with
  | '-' :: 'h' :: _ => .help none
  | '-' :: 'V' :: _ => .version
  | _ =>
    if word = "--help".toList then .help none
    else if word = "--version".toList then .version
    else .misuse (.unexpected word)

/-- The request that a list of arguments makes. -/
def parse : List Text → Except Ending Request
  | [] => .error (.misuse .noCommand)
  | word :: rest =>
    match Command.ofName? word with
    | some c => (c.readWords .initial rest).bind (·.request c)
    | none => if word = helpWord then .error (helpOn rest) else .error (endingOf word)

end TripleSlash.CommandLine
