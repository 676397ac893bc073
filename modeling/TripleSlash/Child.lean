import TripleSlash.IoError
import TripleSlash.Path
import TripleSlash.Text.Utf8

/-! Programs that are run to their end, and how they end. -/
namespace TripleSlash

inductive ExitStatus where
  | exited (code : Nat)
  | signaled (signal : Nat)
deriving DecidableEq, Repr

namespace ExitStatus

def success (s : ExitStatus) : Bool := s == .exited 0

/-- The names of the signals from 1 on. -/
def signalNames : List String :=
  ["HUP", "INT", "QUIT", "ILL", "TRAP", "ABRT", "BUS", "FPE", "KILL", "USR1", "SEGV", "USR2",
    "PIPE", "ALRM", "TERM", "STKFLT", "CHLD", "CONT", "STOP", "TSTP", "TTIN", "TTOU", "URG",
    "XCPU", "XFSZ", "VTALRM", "PROF", "WINCH", "IO", "PWR", "SYS"]

def signalName? (signal : Nat) : Option Text :=
  if signal = 0 then none else signalNames[signal - 1]?.map String.toList

def text : ExitStatus → Text
  | exited code => "exit status: ".toList ++ Text.ofNat code
  | signaled signal =>
    "signal: ".toList ++ Text.ofNat signal ++
      match signalName? signal with
      | some name => " (SIG".toList ++ name ++ [')']
      | none => []

end ExitStatus

structure ChildOutput where
  status : ExitStatus
  stdout : Bytes
  stderr : Bytes
deriving DecidableEq, Repr

/-- How a program with its arguments acts on a world, unless it cannot be started. -/
abbrev Launcher (W : Type) := Path → List Text → W → Except IoError ChildOutput × W

end TripleSlash
