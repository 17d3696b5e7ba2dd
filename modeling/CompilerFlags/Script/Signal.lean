/-!
# Signals

Signals have numbers and names.  Most of them stop a script that makes no other arrangements.
-/

namespace CompilerFlags.Script.Signal

/-- The names of the signals that have a meaning of their own; the number zero stands for the end of
a script. -/
def properNames : List String :=
  ["EXIT", "HUP", "INT", "QUIT", "ILL", "TRAP", "ABRT", "BUS", "FPE", "KILL", "USR1", "SEGV",
    "USR2", "PIPE", "ALRM", "TERM", "16", "CHLD", "CONT", "STOP", "TSTP", "TTIN", "TTOU", "URG",
    "XCPU", "XFSZ", "VTALRM", "PROF", "WINCH", "IO", "PWR", "SYS", "32", "33"]

/-- The first of the signals that mean what programs agree on. -/
def firstFree : Nat := 34

/-- The last signal. -/
def last : Nat := 64

/-- The name of one of the signals that mean what programs agree on. -/
def freeName (n : Nat) : String :=
  if n = firstFree then "RTMIN"
  else if n = last then "RTMAX"
  else if n < 50 then "RTMIN+" ++ toString (n - firstFree)
  else "RTMAX-" ++ toString (last - n)

/-- The name of a signal. -/
def name (n : Nat) : String := properNames[n]?.getD (freeName n)

/-- The numbers of all signals. -/
def all : List Nat := (List.range last).map (· + 1)

/-- The end of a script, for which actions can be arranged as for signals. -/
def atEnd : Nat := 0

/-- The signal that nothing can keep from stopping a script. -/
def kill : Nat := 9

/-- The signal that is sent if no other one is named. -/
def terminate : Nat := 15

/-- The signal to a program that writes to a pipe that nobody reads. -/
def pipe : Nat := 13

/-- The signal to a program one of whose children has ended. -/
def child : Nat := 17

/-- The signal after a division that has no result. -/
def arithmetic : Nat := 8

/-- The signal of a number from the lowest one on, or with a name in which capitals do not
matter. -/
def ofText? (lowest : Nat) (s : List Char) : Option Nat :=
  if !s.isEmpty && s.all Char.isDigit then
    ((String.ofList s).toNat?).filter (· ≤ last)
  else
    let wanted := s.map Char.toUpper
    (List.range (last + 1)).find? fun n => lowest ≤ n && (name n).toList = wanted

/-- What some signals are called in words. -/
def descriptions : List (Nat × String) :=
  [(1, "Hangup"), (2, "Interrupt"), (3, "Quit"), (4, "Illegal instruction"),
    (5, "Trace/breakpoint trap"), (6, "Aborted"), (7, "Bus error"), (8, "Floating point exception"),
    (9, "Killed"), (10, "User defined signal 1"), (11, "Segmentation fault"),
    (12, "User defined signal 2"), (13, "Broken pipe"), (14, "Alarm clock"), (15, "Terminated"),
    (16, "Stack fault"), (24, "CPU time limit exceeded"), (25, "File size limit exceeded"),
    (26, "Virtual timer expired"), (27, "Profiling timer expired"), (29, "I/O possible"),
    (30, "Power failure"), (31, "Bad system call")]

/-- What a signal is called in words. -/
def description (n : Nat) : String :=
  match descriptions.lookup n with
  | some s => s
  | none =>
    if firstFree ≤ n then "Real-time signal " ++ toString (n - firstFree)
    else "Unknown signal " ++ toString n

/-- The signals of which nothing is said when they stop a program. -/
def silent : List Nat := [2, 13]

/-- What is said of a program that a signal has stopped. -/
def remark (n : Nat) : String := if n ∈ silent then "" else description n

/-- Whether a signal does no harm to a script that makes no arrangements. -/
def isHarmless (n : Nat) : Bool := n ∈ [17, 18, 19, 20, 21, 22, 23, 28]

end CompilerFlags.Script.Signal
