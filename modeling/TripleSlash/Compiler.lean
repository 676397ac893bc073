import TripleSlash.Action

/-! Whatever turns sources into JavaScript. -/
namespace TripleSlash

/-- What a project build leaves besides its files. -/
structure BuildOutput where
  stdout : Text
  stderr : Text
  success : Bool
deriving DecidableEq, Repr

structure Compiler (W : Type) where
  /-- The output for one source; a failure is the message of the compiler. -/
  compileSource : Text → List Text → Action W Text Text
  /-- Builds a project from its manifest; a failure is one to start the build. -/
  buildProject : Path → Action W IoError BuildOutput
  /-- A compiler reports no dependency and does not call itself. -/
  source_events : ∀ source args, (compileSource source args).EmitsOnly Event.isStart
  project_events : ∀ manifest, (buildProject manifest).EmitsOnly Event.isStart

end TripleSlash
