import TripleSlash.CompilerOptions
import TripleSlash.Path

/-! What the command line can be asked for: four commands, each with one path and the flags
that go with it, and the ways in which a list of arguments asks for no work at all. -/
namespace TripleSlash.CommandLine

def programName : Text := "tsasset".toList

def version : Text := "0.1.0".toList

inductive Command where
  | compile
  | project
  | deps
  | anchor
deriving DecidableEq, Repr

inductive Flag where
  | output
  | option
  | noDefaults
  | deps
  | verbose
  | help
deriving DecidableEq, Repr

namespace Flag

def long : Flag → Text
  | output => "output".toList
  | option => "option".toList
  | noDefaults => "no-defaults".toList
  | deps => "deps".toList
  | verbose => "verbose".toList
  | help => "help".toList

def short? : Flag → Option Char
  | output => some 'o'
  | verbose => some 'v'
  | help => some 'h'
  | _ => none

def takesValue (f : Flag) : Bool := f == output || f == option

/-- Whether a word that looks like a flag is still taken as the value. -/
def takesAnyWord (f : Flag) : Bool := f == option

end Flag

namespace Command

def all : List Command := [compile, project, deps, anchor]

def name : Command → Text
  | compile => "compile".toList
  | project => "project".toList
  | deps => "deps".toList
  | anchor => "rewrite".toList

/-- Names are neither abbreviated nor folded in case. -/
def ofName? (t : Text) : Option Command := all.find? fun c => c.name = t

def flags : Command → List Flag
  | compile => [.output, .option, .noDefaults, .deps, .verbose, .help]
  | project => [.output, .verbose, .help]
  | deps => [.verbose, .help]
  | anchor => [.help]

def long? (c : Command) (t : Text) : Option Flag := c.flags.find? fun f => f.long = t

def short? (c : Command) (letter : Char) : Option Flag :=
  c.flags.find? fun f => f.short? = some letter

end Command

/-- A command with all that it needs. -/
inductive Request where
  | compile (input : Path) (output : Option Path) (defaults : CompilerOptions)
      (options : List Text) (listing verbose : Bool)
  | project (manifest : Path) (output : Option Path) (verbose : Bool)
  | deps (entry : Path) (verbose : Bool)
  | anchor (input : Path)
deriving DecidableEq, Repr

namespace Request

def verbose : Request → Bool
  | compile _ _ _ _ _ verbose | project _ _ verbose | deps _ verbose => verbose
  | anchor _ => false

/-- The file that takes the output, if not the standard output does. -/
def output? : Request → Option Path
  | compile _ output _ _ _ _ | project _ output _ => output
  | _ => none

end Request

/-- What is wrong with a list of arguments. -/
inductive Misuse where
  | noCommand
  | unexpected (word : Text)
  | missingPath
  | emptyPath
  | missingValue (flag : Flag)
  | needlessValue (flag : Flag)
  | repeated (flag : Flag)
deriving DecidableEq, Repr

def Misuse.message : Misuse → Text
  | noCommand => "a command is required".toList
  | unexpected word => "unexpected argument '".toList ++ word ++ "' found".toList
  | missingPath => "a path is required".toList
  | emptyPath => "a path must not be empty".toList
  | missingValue flag => "a value is required for '--".toList ++ flag.long ++ ['\'']
  | needlessValue flag => "no value is expected for '--".toList ++ flag.long ++ ['\'']
  | repeated flag => "the argument '--".toList ++ flag.long ++ "' is given twice".toList

/-- Why arguments make no request. -/
inductive Ending where
  | help (topic : Option Command)
  | version
  | misuse (cause : Misuse)
deriving DecidableEq, Repr

end TripleSlash.CommandLine
