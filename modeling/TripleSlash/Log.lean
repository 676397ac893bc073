import TripleSlash.Log.Filter

/-! The log of a run: the entries of its events that a filter lets through. -/
namespace TripleSlash.Log

/-- The lines of events that a filter lets through, after what is said about the filter. -/
def lines (filter : Text) (named : Bool) (events : List Event) : Text :=
  let (rules, remarks) := rules filter
  remarks ++ ((events.filterMap entry?).filter (lets rules)).flatMap fun e => e.line named

end TripleSlash.Log
