import DocLaunch.Machine.Basic

namespace DocLaunch.Machine

def signals : List (String × Nat) :=
  [("HUP", 1), ("INT", 2), ("QUIT", 3), ("ILL", 4), ("TRAP", 5), ("ABRT", 6), ("BUS", 7),
   ("FPE", 8), ("KILL", 9), ("USR1", 10), ("SEGV", 11), ("USR2", 12), ("PIPE", 13), ("ALRM", 14),
   ("TERM", 15), ("CHLD", 17), ("CONT", 18), ("STOP", 19), ("TSTP", 20),
   ("TTIN", 21), ("TTOU", 22), ("URG", 23), ("XCPU", 24), ("XFSZ", 25), ("VTALRM", 26),
   ("PROF", 27), ("WINCH", 28), ("IO", 29), ("PWR", 30), ("SYS", 31)]

/-- The name of a signal; those in the upper half are counted from their two ends. -/
def signalName? (n : Nat) : Option String :=
  if n = 0 || 64 < n then none
  else
    match signals.find? (·.2 == n) with
    | some (name, _) => some name
    | none =>
      some (
        if n < 34 then toString n
        else if n = 34 then "RTMIN"
        else if n < 50 then "RTMIN+" ++ toString (n - 34)
        else if n < 64 then "RTMAX-" ++ toString (64 - n)
        else "RTMAX")

/-- What is told about a process that a signal has ended. -/
def endings : List String :=
  ["Hangup", "Interrupt", "Quit", "Illegal instruction", "Trace/breakpoint trap", "Aborted",
   "Bus error", "Floating point exception", "Killed", "User defined signal 1", "Segmentation fault",
   "User defined signal 2", "Broken pipe", "Alarm clock", "Terminated", "Stack fault",
   "Child exited", "Continued", "Stopped (signal)", "Stopped", "Stopped (tty input)",
   "Stopped (tty output)", "Urgent I/O condition", "CPU time limit exceeded",
   "File size limit exceeded", "Virtual timer expired", "Profiling timer expired",
   "Window changed", "I/O possible", "Power failure", "Bad system call"]

def endingText (signal : Nat) : String :=
  match signal with
  | 0 => "Unknown signal 0"
  | n + 1 => endings[n]?.getD ("Real-time signal " ++ toString (n - 33))

/-- Signals that end no process by themselves. -/
def harmless : List Nat := [0, 17, 18, 19, 20, 21, 22, 23, 28]

/-- Signals that cannot be caught. -/
def certain : List Nat := [9, 19]

/-- A signal by name, with or without `SIG`, in letters of any case. -/
def signalByName? (text : String) : Option Nat :=
  let upper := text.map Char.toUpper
  let name := match upper.toList with
    | 'S' :: 'I' :: 'G' :: rest => String.ofList rest
    | _ => upper
  (signals.lookup name).or ((List.range 65).find? fun n => 34 ≤ n && signalName? n = some name)

/-- Send a signal to a process, which notices it when it goes on. -/
def send (id signal : Nat) : Work Unit :=
  modify fun p => { p with world.signals := p.world.signals ++ [(id, signal)] }

end DocLaunch.Machine
