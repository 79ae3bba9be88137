/-! # Signals

A process that is sent a signal ends, unless it heeds the signal in another way. Signals have
numbers and names.
-/

namespace ContractBench.Shell.Signal

/-- The names of the signals from number one on. -/
def names : List String :=
  ["HUP", "INT", "QUIT", "ILL", "TRAP", "ABRT", "BUS", "FPE", "KILL", "USR1", "SEGV", "USR2",
   "PIPE", "ALRM", "TERM", "STKFLT", "CHLD", "CONT", "STOP", "TSTP", "TTIN", "TTOU", "URG", "XCPU",
   "XFSZ", "VTALRM", "PROF", "WINCH", "IO", "PWR", "SYS"]

/-- The number of the greatest signal. -/
def greatest : Nat := 64

/-- The name of a signal. -/
def name (signal : Nat) : String :=
  if signal = 0 then "EXIT" else (names[signal - 1]?).getD (toString signal)

/-- The signal of a name; `EXIT` is none, and has the number zero. -/
def ofName? (name : String) : Option Nat :=
  let upper := String.ofList (name.toList.map Char.toUpper)
  if upper = "EXIT" then some 0 else (names.idxOf? upper).map (· + 1)

/-- The signal of a number or name. -/
def ofText? (text : String) : Option Nat :=
  match text.toNat? with
  | some n => if n ≤ greatest then some n else none
  | none => ofName? text

/-- What is said of a process that a signal ended. -/
def obituary (signal : Nat) : String :=
  let words := ["Hangup", "Interrupt", "Quit", "Illegal instruction", "Trace/breakpoint trap",
    "Aborted", "Bus error", "Floating point exception", "Killed", "User defined signal 1",
    "Segmentation fault", "User defined signal 2", "Broken pipe", "Alarm clock", "Terminated"]
  (words[signal - 1]?).getD ("Signal " ++ toString signal)

/-- Whether a process that does not heed a signal goes on all the same. -/
def isHarmless (signal : Nat) : Bool := ["CHLD", "CONT", "URG", "WINCH"].contains (name signal)

end ContractBench.Shell.Signal
