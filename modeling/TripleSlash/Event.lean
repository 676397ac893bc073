import TripleSlash.Discovery
import TripleSlash.Anchoring

/-! What happens in the course of a build, in order. The dependencies of an output, the
calls of the compiler and the lines of the log are all read off the same events. -/
namespace TripleSlash

inductive Event where
  /-- One turn of a walk over references. -/
  | walked (step : Discovery.Step)
  /-- An input of a project. -/
  | listed (file : Path)
  | anchored (file : Path) (change : Anchoring.Change)
  | compiling (path : Path) (args : List Text)
  /-- The compiler is called for one source. -/
  | compilingText (source : Text) (args : List Text)
  | projectStarted (manifest : Path)
  /-- The compiler is called for a project. -/
  | building (manifest : Path)
  | projectWithoutOutput (manifest : Path)
  /-- A compiler program is started for one source. -/
  | started (program : Path) (options : List Text)
  /-- A compiler program is started for a project. -/
  | startedProject (program manifest : Path)
deriving DecidableEq, Repr

namespace Event

/-- The file that is reported as a dependency. -/
def dependency? : Event → Option Path
  | walked step => step.found?
  | listed file => some file
  | _ => none

def dependencies (events : List Event) : List Path := events.filterMap dependency?

theorem dependencies_append (first next : List Event) :
    dependencies (first ++ next) = dependencies first ++ dependencies next :=
  List.filterMap_append

theorem dependencies_eq_nil {events : List Event}
    (silent : ∀ event ∈ events, event.dependency? = none) : dependencies events = [] :=
  List.filterMap_eq_nil_iff.mpr silent

/-- The dependencies of a walk are its finds. -/
theorem dependencies_walked (w : Discovery.Walk) : dependencies (w.steps.map walked) = w.found := by
  rw [dependencies, List.filterMap_map]
  rfl

/-- A call of the compiler. -/
def isCall : Event → Bool
  | compilingText .. | building _ => true
  | _ => false

/-- The start of a compiler program, all that a compiler itself leaves in the events. -/
def isStart : Event → Bool
  | started .. | startedProject .. => true
  | _ => false

theorem dependency?_of_isStart {event : Event} (start : event.isStart = true) :
    event.dependency? = none := by
  cases event <;> simp_all [isStart, dependency?]

theorem isCall_of_isStart {event : Event} (start : event.isStart = true) :
    event.isCall = false := by
  cases event <;> simp_all [isStart, isCall]

end Event
end TripleSlash
