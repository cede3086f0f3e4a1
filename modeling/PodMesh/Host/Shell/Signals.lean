/-!
# Signals

The signals that processes send each other: their numbers, their names, and what is said of
a process that one of them has ended.
-/

namespace PodMesh.Host.Shell.Signals

/-- The names of signals, in order of their numbers from one on, and the words for a process that
was ended by one. Without words, it goes on or is only stopped. -/
def table : List (String × Option String) :=
  [("HUP", some "Hangup"), ("INT", some ""), ("QUIT", some "Quit"),
    ("ILL", some "Illegal instruction"), ("TRAP", some "Trace/breakpoint trap"),
    ("ABRT", some "Aborted"), ("BUS", some "Bus error"), ("FPE", some "Floating point exception"),
    ("KILL", some "Killed"), ("USR1", some "User defined signal 1"),
    ("SEGV", some "Segmentation fault"), ("USR2", some "User defined signal 2"),
    ("PIPE", some ""), ("ALRM", some "Alarm clock"), ("TERM", some "Terminated"),
    ("STKFLT", some "Stack fault"), ("CHLD", none), ("CONT", none), ("STOP", none),
    ("TSTP", none), ("TTIN", none), ("TTOU", none), ("URG", none),
    ("XCPU", some "CPU time limit exceeded"), ("XFSZ", some "File size limit exceeded"),
    ("VTALRM", some "Virtual timer expired"), ("PROF", some "Profiling timer expired"),
    ("WINCH", none), ("IO", some "I/O possible"), ("PWR", some "Power failure"),
    ("SYS", some "Bad system call")]

/-- The greatest number of a signal. -/
def last : Nat := 64

/-- The name of a signal. Zero is the end of a shell, and those behind the table have no names of
their own. -/
def name (signal : Nat) : String :=
  if signal = 0 then "EXIT"
  else
    match table[signal - 1]? with
    | some (name, _) => name
    | none =>
      if signal = 34 then "RTMIN"
      else if signal = last then "RTMAX"
      else if 34 < signal && signal < 50 then "RTMIN+" ++ toString (signal - 34)
      else if 50 ≤ signal && signal < last then "RTMAX-" ++ toString (last - signal)
      else toString signal

/-- The signal that a number or a name stands for. -/
def number? (text : String) : Option Nat :=
  let digits := text.toList
  if !digits.isEmpty && digits.all Char.isDigit then
    let n := digits.foldl (fun n c => n * 10 + (c.toNat - '0'.toNat)) 0
    if n ≤ last then some n else none
  else
    (List.range (last + 1)).find? fun n => name n = String.ofList (digits.map Char.toUpper)

/-- The signals that stop a process. -/
def stopping : List Nat := [19, 20, 21, 22]

/-- Does a signal end a process? -/
def ends (signal : Nat) : Bool :=
  match table[signal - 1]? with
  | some (_, words) => signal ≠ 0 && words.isSome
  | none => true

/-- What is said of a process that a signal has ended; of some nothing. -/
def words (signal : Nat) : String :=
  match table[signal - 1]? with
  | some (_, words) => words.getD ""
  | none =>
    if signal < 34 then "Unknown signal " ++ toString signal
    else "Real-time signal " ++ toString (signal - 34)

end PodMesh.Host.Shell.Signals
