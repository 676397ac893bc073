import TripleSlash.Child
import TripleSlash.Shell.Arithmetic

/-! Signals by their names, and what they do to a process that does not expect them. -/
namespace TripleSlash.Shell.Signal

/-- One more than the greatest signal. -/
def count : Nat := 65

/-- A signal by its number, or by its name in letters of any case. Zero stands for the end of
a script where that is allowed. -/
def ofText? (least : Nat) (t : Text) : Option Nat :=
  if t ≠ [] ∧ t.all Char.isDigit then
    let n := (Arithmetic.digits 10 t).1
    if least ≤ n ∧ n < count then some n else none
  else
    let name := String.ofList (t.map Char.toUpper)
    if name = "EXIT" ∧ least = 0 then some 0
    else (ExitStatus.signalNames.idxOf? name).map (· + 1)

def name (n : Nat) : Text :=
  if n = 0 then "EXIT".toList else (ExitStatus.signalName? n).getD (Text.ofNat n)

/-- The signals that end no process by themselves. -/
def harmless : List Nat := [0, 17, 18, 19, 20, 21, 22, 23, 28]

/-- The signals that no process can ignore or expect. -/
def certain : List Nat := [9, 19]

/-- What is said of a process that a signal ended. -/
def words (n : Nat) : Text :=
  let all := ["Hangup", "", "Quit", "Illegal instruction", "Trace/breakpoint trap", "Aborted",
    "Bus error", "Floating point exception", "Killed", "User defined signal 1",
    "Segmentation fault", "User defined signal 2", "", "Alarm clock", "Terminated",
    "Stack fault", "", "", "", "", "", "", "", "CPU time limit exceeded",
    "File size limit exceeded", "Virtual timer expired", "Profiling timer expired", "",
    "I/O possible", "Power failure", "Bad system call"]
  if n = 0 then []
  else match all[n - 1]? with
    | some t => t.toList
    | none => "Real-time signal ".toList ++ Text.ofNat (n - 34)

end TripleSlash.Shell.Signal
