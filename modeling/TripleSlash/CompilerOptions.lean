import TripleSlash.Text

/-! Options for the compiler. Those of a call come behind the configured ones, and nothing
is taken away: what a repeated option means is for the compiler to say. -/
namespace TripleSlash

structure CompilerOptions where
  args : List Text
deriving DecidableEq, Repr

namespace CompilerOptions

def empty : CompilerOptions := ⟨[]⟩

def standard : CompilerOptions :=
  ⟨["--target".toList, "ES5".toList, "--noImplicitAny".toList]⟩

def add (options : CompilerOptions) (arg : Text) : CompilerOptions := ⟨options.args ++ [arg]⟩

def merged (options : CompilerOptions) (overrides : List Text) : List Text :=
  options.args ++ overrides

end CompilerOptions
end TripleSlash
