/-!
Signals: their names, their numbers, and what they do to a program that does not expect them.
-/

namespace Assay.Signal

def known : List (String × Nat) :=
  [("HUP", 1), ("INT", 2), ("QUIT", 3), ("ILL", 4), ("TRAP", 5), ("ABRT", 6), ("BUS", 7), ("FPE", 8),
   ("KILL", 9), ("USR1", 10), ("SEGV", 11), ("USR2", 12), ("PIPE", 13), ("ALRM", 14), ("TERM", 15),
   ("STKFLT", 16), ("CHLD", 17), ("CONT", 18), ("STOP", 19), ("TSTP", 20), ("TTIN", 21),
   ("TTOU", 22), ("URG", 23), ("XCPU", 24), ("XFSZ", 25), ("VTALRM", 26), ("PROF", 27),
   ("WINCH", 28), ("IO", 29), ("PWR", 30), ("SYS", 31)]

def kill : Nat := 9
def pipe : Nat := 13
def term : Nat := 15
def cont : Nat := 18
def stop : Nat := 19
def fileSize : Nat := 25
def arithmetic : Nat := 8

def named? (name : String) : Option Nat :=
  let upper := name.toUpper
  (known.lookup upper).orElse fun _ =>
    if "SIG".isPrefixOf upper then known.lookup (String.ofList (upper.toList.drop 3)) else none

def name? (number : Nat) : Option String := (known.find? (·.2 = number)).map Prod.fst

def highest : Nat := 64

def listedName (number : Nat) : String :=
  if number = 16 then "16"
  else
    match name? number with
    | some name => name
    | none =>
      if number < 34 then toString number
      else if number = 34 then "RTMIN"
      else if number < 50 then "RTMIN+" ++ toString (number - 34)
      else if number < highest then "RTMAX-" ++ toString (highest - number)
      else "RTMAX"

inductive Effect
  | ends
  | stops
  | resumes
  | nothing
deriving DecidableEq, Repr

def effect (number : Nat) : Effect :=
  if number = cont then .resumes
  else if number ∈ [19, 20, 21, 22] then .stops
  else if number ∈ [17, 23, 28] then .nothing
  else .ends

def epitaph (number : Nat) : String :=
  ([(1, "Hangup"), (2, "Interrupt"), (3, "Quit"), (4, "Illegal instruction"),
    (5, "Trace/breakpoint trap"), (6, "Aborted"), (7, "Bus error"), (8, "Floating point exception"),
    (9, "Killed"), (10, "User defined signal 1"), (11, "Segmentation fault"),
    (12, "User defined signal 2"), (13, "Broken pipe"), (14, "Alarm clock"), (15, "Terminated"),
    (16, "Stack fault"), (24, "CPU time limit exceeded"), (25, "File size limit exceeded"),
    (26, "Virtual timer expired"), (27, "Profiling timer expired"), (29, "I/O possible"),
    (30, "Power failure"), (31, "Bad system call")].lookup number).getD ""

end Assay.Signal
