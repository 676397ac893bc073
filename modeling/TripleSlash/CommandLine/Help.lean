import TripleSlash.CommandLine.Request

/-! The help on the program and on each of its commands. -/
namespace TripleSlash.CommandLine

def Command.summary : Command → Text
  | compile => "Compile a TypeScript file to JavaScript".toList
  | project => "Build a tsconfig project and emit its combined output file".toList
  | deps => "Print every file reachable through reference directives".toList
  | anchor => "Print a source with its reference paths made absolute (debug)".toList

def Command.pathLabel : Command → Text
  | project => "<MANIFEST>".toList
  | _ => "<INPUT>".toList

def Flag.summary : Flag → Text
  | output => "Output file path (stdout if omitted)".toList
  | option => "Extra compiler option, appended after the defaults (repeatable)".toList
  | noDefaults => "Don't pass the default options".toList
  | deps => "List discovered dependencies on stderr".toList
  | verbose => "Enable verbose output".toList
  | help => "Print help".toList

def Flag.usage (f : Flag) : Text :=
  let short := match f.short? with
    | some letter => ['-', letter, ',', ' ']
    | none => "    ".toList
  short ++ "--".toList ++ f.long ++ if f.takesValue then " <VALUE>".toList else []

/-- One line of a table, with the second column at a fixed place. -/
def helpRow (left right : Text) : Text :=
  "  ".toList ++ left ++ List.replicate (22 - left.length) ' ' ++ right ++ ['\n']

def helpOnProgram : Text :=
  "Usage: ".toList ++ programName ++ " <COMMAND>\n\nCommands:\n".toList
    ++ (Command.all.flatMap fun c => helpRow c.name c.summary)
    ++ "\nOptions:\n".toList
    ++ helpRow "-h, --help".toList "Print help".toList
    ++ helpRow "-V, --version".toList "Print version".toList

def helpOnCommand (c : Command) : Text :=
  c.summary ++ "\n\nUsage: ".toList ++ programName ++ ' ' :: c.name ++ " [OPTIONS] ".toList
    ++ c.pathLabel ++ "\n\nOptions:\n".toList
    ++ c.flags.flatMap fun f => helpRow f.usage f.summary

def help : Option Command → Text
  | none => helpOnProgram
  | some c => helpOnCommand c

end TripleSlash.CommandLine
