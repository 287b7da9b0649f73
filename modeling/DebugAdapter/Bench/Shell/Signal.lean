/-!
# Signals

The names and numbers of signals, and what a shell says when one has ended a command.
-/

namespace DebugAdapter.Bench.Shell.Signal

/-- The names of the signals, from number one on. -/
def names : List String :=
  ["HUP", "INT", "QUIT", "ILL", "TRAP", "ABRT", "BUS", "FPE", "KILL", "USR1", "SEGV", "USR2",
    "PIPE", "ALRM", "TERM", "STKFLT", "CHLD", "CONT", "STOP", "TSTP", "TTIN", "TTOU", "URG", "XCPU",
    "XFSZ", "VTALRM", "PROF", "WINCH", "IO", "PWR", "SYS"]

/-- What the signals mean, from number one on. -/
def meanings : List String :=
  ["Hangup", "Interrupt", "Quit", "Illegal instruction", "Trace/breakpoint trap", "Aborted",
    "Bus error", "Floating point exception", "Killed", "User defined signal 1",
    "Segmentation fault", "User defined signal 2", "Broken pipe", "Alarm clock", "Terminated",
    "Stack fault", "Child exited", "Continued", "Stopped (signal)", "Stopped", "Stopped (tty input)",
    "Stopped (tty output)", "Urgent I/O condition", "CPU time limit exceeded",
    "File size limit exceeded", "Virtual timer expired", "Profiling timer expired",
    "Window changed", "I/O possible", "Power failure", "Bad system call"]

/-- The number that a word stands for: itself, or that of a name; zero is the end of the shell. -/
def number? (s : String) : Option Nat :=
  match s.toNat? with
  | some n => if n ≤ 64 then some n else none
  | none =>
    if s = "EXIT" then some 0
    else (names.findIdx? (· = s)).map (· + 1)

/-- The name of a signal. -/
def name (n : Nat) : String := (names[n - 1]?).getD (toString n)

/-- The names of all signals, with the numbers of those that have none. -/
def allNames : List String :=
  let numbered := names.set 15 "16"
  ["0"] ++ numbered ++ ["32", "33", "RTMIN"]
    ++ (List.range 15).map (fun i => "RTMIN+" ++ toString (i + 1))
    ++ (List.range 14).map (fun i => "RTMAX-" ++ toString (14 - i)) ++ ["RTMAX"]

/-- What is said when a signal has ended a command; about two of them nothing is said. -/
def remark? (n : Nat) : Option String :=
  if n = 2 ∨ n = 13 then none else some ((meanings[n - 1]?).getD ("Unknown signal " ++ toString n))

end DebugAdapter.Bench.Shell.Signal
