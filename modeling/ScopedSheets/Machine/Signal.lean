import ScopedSheets.Text

/-!
# Signals

The signals that processes send each other, by number and by name, and what they do to a process that does
nothing about them.
-/

namespace ScopedSheets

/-- The number of a signal. Zero is none, and stands for the end of a process where actions are listed. -/
abbrev Signal := Nat

namespace Signal

def names : List String :=
  ["EXIT", "HUP", "INT", "QUIT", "ILL", "TRAP", "ABRT", "BUS", "FPE", "KILL", "USR1", "SEGV", "USR2",
   "PIPE", "ALRM", "TERM", "16", "CHLD", "CONT", "STOP", "TSTP", "TTIN", "TTOU", "URG", "XCPU",
   "XFSZ", "VTALRM", "PROF", "WINCH", "IO", "PWR", "SYS"]

def descriptions : List String :=
  ["Unknown signal 0", "Hangup", "Interrupt", "Quit", "Illegal instruction", "Trace/breakpoint trap",
   "Aborted", "Bus error", "Floating point exception", "Killed", "User defined signal 1",
   "Segmentation fault", "User defined signal 2", "Broken pipe", "Alarm clock", "Terminated",
   "Stack fault", "Child exited", "Continued", "Stopped (signal)", "Stopped", "Stopped (tty input)",
   "Stopped (tty output)", "Urgent I/O condition", "CPU time limit exceeded",
   "File size limit exceeded", "Virtual timer expired", "Profiling timer expired", "Window changed",
   "I/O possible", "Power failure", "Bad system call"]

def interrupt : Signal := 2
def quit : Signal := 3
def kill : Signal := 9
def pipe : Signal := 13
def terminate : Signal := 15
def child : Signal := 17
def stop : Signal := 19

def last : Signal := 64

def description (signal : Signal) : Text := (descriptions.getD signal "Real-time signal").toList

def isHarmless (signal : Signal) : Bool := [0, 17, 18, 23, 28].contains signal

def isCatchable (signal : Signal) : Bool := signal != kill && signal != stop

end Signal

end ScopedSheets
