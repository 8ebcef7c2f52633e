import Assay.Script.Work
import Assay.Script.Written
import Assay.Host.Signal

/-!
The programs that a script starts: beginning them, and waiting for their ends.
-/

namespace Assay.Script.Jobs

open Work (ask)

def leavePartners : Work Unit := do
  let numbers := (← get).partners.flatMap fun partner => partner.2.channels
  let channels ← ask .channels
  ask (.setChannels (numbers.foldl (fun left number => left.drop number) channels))

/-- What is left of a shell in a copy of it: it catches no signals, and has no jobs except to list them. Some
happenings still call commands in it if that was asked for. -/
def enterCopy (listsJobs : Bool) : Work Unit := do
  let shell ← get
  for (signal, action) in shell.traps do
    if action ≠ "" ∧ signal ≠ 0 ∧ signal ≤ Signal.highest then ask (.react signal .standard)
  if !listsJobs && !shell.partners.isEmpty then leavePartners
  let keeps := fun trap : Nat × String => trap.2 = "" || (Signal.highest < trap.1 && shell.traces trap.1)
  set { shell with
        traps := shell.traps.filter keeps
        formerTraps := if shell.formerTraps.isEmpty then shell.traps else shell.formerTraps
        inside := true, depth := shell.depth + 1
        jobs := if listsJobs && shell.isRich then shell.jobs else [], ended := [] }

def enterBackground (first : Bool) : Work Unit := do
  ask (.react 2 .ignored)
  ask (.react 3 .ignored)
  if first then
    let _ ← ask (.openFile ⟨"/dev/null"⟩ .read 0)

def mourn (ending : Ending) : Work Unit := do
  match ending with
  | .signal number =>
    if number = 2 ∨ number = Signal.pipe then return
    else Work.put 2 (Signal.epitaph number ++ "\n")
  | .code _ => return

def statusOf : Ending → Nat
  | .code status => status
  | .signal number => 128 + number

def entitle (number : Nat) (command : Command) : Work Unit :=
  modify fun shell => if shell.isRich then { shell with titles := (number, command) :: shell.titles } else shell

def titleOf (shell : Shell) (number : Nat) : String :=
  ((shell.titles.lookup number).map (Writing.commandText shell.documentOf)).getD ""

def isOver (shell : Shell) (numbers : List Nat) : Bool :=
  numbers.all fun number => (shell.ended.lookup number).isSome

def standing (shell : Shell) (number : Nat) : String :=
  match shell.ended.lookup number with
  | none => "Running"
  | some (.code 0) => "Done"
  | some (.code status) => "Exit " ++ toString status
  | some (.signal signal) => Signal.epitaph signal

def padded (width : Nat) (text : String) : String :=
  text ++ String.ofList (List.replicate (width - text.length) ' ')

def numbered (number : Nat) : String :=
  let text := toString number
  String.ofList (List.replicate (5 - text.length) ' ') ++ text

def briefly (shell : Shell) (numbers : List Nat) : String :=
  let finished := isOver shell numbers
  let state := if finished then standing shell (numbers.getLast?.getD 0) else "Running"
  " " ++ padded 24 state ++ " | ".intercalate (numbers.map (titleOf shell)) ++ (if finished then "" else " &") ++ "\n"

def atLength (shell : Shell) (numbers : List Nat) : String :=
  let finished := isOver shell numbers
  let state := fun number : Nat => if finished then standing shell number else "Running"
  let first := numbers.headD 0
  let ending := if finished then "" else " &"
  let own := numbered first ++ " " ++ padded 24 (state first) ++ titleOf shell first
  let others := (numbers.drop 1).map fun number =>
    "     " ++ numbered number ++ " "
      ++ (if state number = state first then String.ofList (List.replicate 22 ' ') else padded 24 (state number))
      ++ "| " ++ titleOf shell number
  "\n".intercalate (own :: others) ++ ending ++ "\n"

def fatal? (shell : Shell) (numbers : List Nat) : Option Nat :=
  match numbers.getLast?.bind fun number => shell.ended.lookup number with
  | some (.signal signal) => if signal = 2 ∨ signal = Signal.pipe then none else some signal
  | _ => none

def expects (shell : Shell) (signal : Nat) : Bool := (shell.traps.lookup signal).any (· ≠ "")

def lament (numbers : List Nat) : Work Unit := do
  let shell ← get
  Work.naming none do
    Work.put 2 ((← Work.preamble) ++ atLength shell numbers)

def tellOf (numbers : List Nat) : Work Unit := do
  let shell ← get
  match fatal? shell numbers with
  | none => return
  | some signal =>
    if signal = Signal.term || expects shell signal then Work.put 2 (Signal.epitaph signal ++ "\n")
    else lament numbers

def tellOthers : Work Unit := do
  let shell ← get
  if shell.isRich && !shell.ended.isEmpty then
    for (_, numbers) in shell.jobs do
      let last := numbers.getLast?.getD 0
      if isOver shell numbers && !shell.lamented.contains last then
        match fatal? shell numbers with
        | some signal =>
          modify fun after => { after with lamented := last :: after.lamented }
          if signal ≠ Signal.term && !expects shell signal then lament numbers
        | none => pure ()

def awaitAll (numbers : List Nat) (interruptible : Bool) : Nat → Work Bool
  | 0 => return true
  | steps + 1 => do
    let shell ← get
    if numbers.all fun number => (shell.ended.lookup number).isSome then return true
    else
      match ← ask (.wait { interruptible }) with
      | .ended number ending =>
        modify fun after => { after with ended := (number, ending) :: after.ended }
        if numbers.contains number && !shell.isRich then mourn ending
        awaitAll numbers interruptible steps
      | .interrupted => return false
      | .nobody | .busy => return true

def forget (numbers : List Nat) : Work Unit :=
  modify fun shell =>
    { shell with
      ended := shell.ended.filter fun item => !numbers.contains item.1
      titles := if shell.titles.isEmpty then [] else shell.titles.filter fun item => !numbers.contains item.1 }

def partPartners : Work Unit := do
  let shell ← get
  let (finished, others) := shell.partners.partition fun partner => (shell.ended.lookup partner.1).isSome
  if !finished.isEmpty then
    let channels ← ask .channels
    let numbers := finished.flatMap fun partner => partner.2.channels
    ask (.setChannels (numbers.foldl (fun left number => left.drop number) channels))
    let names := finished.flatMap fun partner => [partner.2.name, partner.2.name ++ "_PID"]
    set { shell with
          partners := others, bindings := shell.bindings.filter fun binding => !names.contains binding.name }

/-- Waits for the programs of a command, perhaps in silence. Its status is that of the last one. -/
def await (numbers : List Nat) (tells : Bool := true) : Work Nat := do
  let _ ← awaitAll numbers false Process.manySteps
  let shell ← get
  let statuses := numbers.map fun number => ((shell.ended.lookup number).map statusOf).getD 127
  if tells && shell.isRich then
    tellOf numbers
    tellOthers
    partPartners
  forget numbers
  modify fun after => { after with stages := statuses }
  return (statuses.getLast?).getD 0

def note (numbers : List Nat) : Work Unit :=
  modify fun shell =>
    let taken := shell.jobs.map Prod.fst
    let place := if shell.isRich then taken.foldl max 0 + 1
      else ((List.range (taken.length + 1)).find? fun n => !taken.contains (n + 1)).getD 0 + 1
    { shell with jobs := (place, numbers) :: shell.jobs, background := numbers.getLast? }

end Assay.Script.Jobs
