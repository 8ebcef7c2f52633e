import Assay.Script.Builtin.Arguments
import Assay.Script.Jobs

/-!
Builtin commands on signals: what they call, and sending them.
-/

namespace Assay.Script.Builtin

open Work (deliver ask)

/-- The signal that a number or a name means; zero may mean none, or the end of a script. -/
def signal? (shell : Shell) (text : String) : Option Nat :=
  if text ≠ "" ∧ text.toList.all Char.isDigit then
    let number := Text.valueIn 10 text.toList
    if number ≤ Signal.highest then some number else none
  else
    let upper := text.toUpper
    if upper = "EXIT" then some 0
    else if shell.isRich && (Happening.names.lookup upper).isSome then Happening.names.lookup upper
    else if shell.isRich then (Signal.named? text).orElse fun _ => realTime? upper
    else Signal.known.lookup upper
where
  realTime? (upper : String) : Option Nat :=
    let name := if "SIG".isPrefixOf upper then String.ofList (upper.toList.drop 3) else upper
    ((List.range (Signal.highest + 1)).drop 34).find? fun number => Signal.listedName number = name

def trapName (shell : Shell) (signal : Nat) : String :=
  if signal = 0 then "EXIT"
  else if Signal.highest < signal then
    ((Happening.names.find? fun item => item.2 = signal).map Prod.fst).getD ""
  else if shell.isRich then "SIG" ++ Signal.listedName signal
  else Signal.listedName signal

def shownTraps (shell : Shell) (traps : List (Nat × String)) : String :=
  let all := traps.mergeSort fun left right => left.1 ≤ right.1
  let quoted := if shell.isRich then Quoting.wrapped else singleQuoted
  String.join (all.map fun (signal, action) =>
    "trap -- " ++ quoted action ++ " " ++ trapName shell signal ++ "\n")

/-- Sets what a signal calls; none means that it does what it does by itself. -/
def setTrap (signal : Nat) (action : Option String) : Work Unit := do
  modify fun shell =>
    let others := shell.traps.filter (·.1 ≠ signal)
    { shell with
      formerTraps := []
      traps := match action with
        | some text => (signal, text) :: others
        | none => others }
  if signal ≠ 0 ∧ signal ≤ Signal.highest then
    ask (.react signal (match action with
      | none => .standard
      | some text => if text = "" then .ignored else .caught))

def setTraps (action : Option String) : List String → Nat → Work Nat
  | [], status => return status
  | name :: rest, status => do
    let shell ← get
    match signal? shell name with
    | some signal =>
      setTrap signal action
      setTraps action rest status
    | none =>
      if shell.isRich then
        Work.warn (name ++ ": invalid signal specification")
        setTraps action rest 1
      else
        Work.put 2 ("trap: " ++ name ++ ": bad trap\n")
        return 1

def richSignalList : String :=
  let numbers := ((List.range Signal.highest).map (· + 1)).filter fun number => number ≠ 32 && number ≠ 33
  let shown := ((List.range numbers.length).zip numbers).map fun (place, number) =>
    let name := if number = 16 then "STKFLT" else Signal.listedName number
    (if number < 10 then " " else "") ++ toString number ++ ") SIG" ++ name
      ++ if place % 5 = 4 then "\n" else "\t"
  String.join shown ++ "\n"

/-- The traps as they are told. A copy of a script that has set none tells those of the script. -/
def toldTraps (shell : Shell) : List (Nat × String) :=
  if shell.isRich && !shell.formerTraps.isEmpty then shell.formerTraps else shell.traps

def trap (arguments : List String) : Work Nat := do
  let shell ← get
  let (found, operands) ← options (if shell.isRich then "lp" else "") arguments
  if found.any (·.1 = 'l') then deliver richSignalList
  else if found.any (·.1 = 'p') && !operands.isEmpty then
    let mut status := 0
    for name in operands do
      match signal? shell name with
      | some signal =>
        Work.put 1 (shownTraps shell ((toldTraps shell).filter fun item => item.1 = signal))
      | none =>
        Work.warn (name ++ ": invalid signal specification")
        status := 1
    return status
  else match operands with
  | [] => deliver (shownTraps shell (toldTraps shell))
  | first :: rest =>
    let isNumber : Bool := first ≠ "" && first.toList.all Char.isDigit && (signal? shell first).isSome
    if shell.isRich && rest.isEmpty && (signal? shell first).isNone then
      Work.put 2 "trap: usage: trap [-lp] [[arg] signal_spec ...]\n"
      return 2
    else if rest.isEmpty || isNumber then setTraps none operands 0
    else setTraps (if first = "-" then none else some first) rest 0

def signalList : String :=
  "0\n" ++ String.join ((List.range Signal.highest).map fun n => Signal.listedName (n + 1) ++ "\n")

def killUsage : String :=
  "Usage: kill [-s sigspec | -signum | -sigspec] [pid | job]... or\nkill -l [exitstatus]"

def job? (shell : Shell) (text : String) : Option (Nat × List Nat) :=
  let name := String.ofList (text.toList.drop 1)
  if ["", "%", "+"].contains name then shell.jobs.head?
  else if name = "-" then (shell.jobs[1]?).orElse fun _ => if shell.isRich then shell.jobs.head? else none
  else if name.toList.all Char.isDigit then name.toNat?.bind fun place => shell.jobs.find? (·.1 = place)
  else if shell.isRich then shell.jobs.find? fun item => fits name (Jobs.titleOf shell (item.2.headD 0))
  else none
where
  fits (name title : String) : Bool :=
    match name.toList with
    | '?' :: part => (List.range (title.length + 1)).any fun place => part.isPrefixOf (title.toList.drop place)
    | _ => name.isPrefixOf title

def job (text : String) (status : Nat := 1) : Work (Nat × List Nat) := do
  let shell ← get
  match job? shell text with
  | some found => return found
  | none =>
    if shell.isRich then Work.refuse (text ++ ": no such job") status
    else if ["%", "%%", "%+"].contains text then Work.refuse "No current job"
    else Work.refuse ("No such job: " ++ text)

def target (text : String) : Work Int := do
  match text.toList with
  | '%' :: _ =>
    let (_, numbers) ← job text
    return (numbers.headD 0 : Int)
  | '-' :: rest => return -((← number (String.ofList rest) : Nat) : Int)
  | _ => return (← number text : Nat)

def sendAll (signal : Nat) : List String → Nat → Work Nat
  | [], status => return status
  | text :: rest, status => do
    let whom ← target text
    if ← ask (.send whom signal) then sendAll signal rest status
    else
      Work.warn "No such process\n"
      sendAll signal rest 1

/-- The other names of signals in the rich dialect: a number for a name, and a name for a number. -/
def otherNames (texts : List String) : Work Nat := do
  let shell ← get
  let (shown, status) ← texts.foldlM (fun (shown, status) text => do
    let meant : Option String :=
      if text ≠ "" && text.toList.all Char.isDigit then
        let number := Text.valueIn 10 text.toList
        let signal := if number > 128 then number - 128 else number
        if signal = 0 then some "EXIT\n"
        else if signal ≤ Signal.highest then some (Signal.listedName signal ++ "\n")
        else none
      else (signal? shell text).map fun signal => toString signal ++ "\n"
    match meant with
    | some line => return (shown ++ line, status)
    | none =>
      Work.put 1 shown
      Work.warn (text ++ ": invalid signal specification")
      return ("", 1)) ("", 0)
  deliver shown status

def nameOfStatus (text : String) : Work Nat := do
  let status ← number text
  let signal := if status > 128 then status - 128 else status
  if 0 < signal ∧ signal ≤ Signal.highest then deliver (Signal.listedName signal ++ "\n")
  else Work.refuse ("invalid signal number or exit status: " ++ text)

structure Wanted where
  lists : Bool := false
  spec : Option String := none
  told : Bool := false
  rest : List String

/-- Reads the options of `kill` in the rich dialect; none if one of them lacks its value. -/
def Wanted.reading : Nat → Wanted → Except String Wanted
  | 0, wanted => .ok wanted
  | steps + 1, wanted =>
    match wanted.rest with
    | [] => .ok wanted
    | word :: rest =>
      if word = "-l" ∨ word = "-L" then reading steps { wanted with lists := true, rest }
      else if word = "-s" ∨ word = "-n" then
        match rest with
        | [] => .error word
        | value :: others => reading steps { wanted with spec := some value, rest := others }
      else if word = "--" then .ok { wanted with rest }
      else
        match word.toList with
        | '-' :: letter :: value =>
          if (letter = 's' ∨ letter = 'n') ∧ value ≠ [] then
            reading steps { wanted with spec := some (String.ofList value), rest }
          else if !wanted.told then
            reading steps { wanted with spec := some (String.ofList (letter :: value)), told := true, rest }
          else .ok wanted
        | _ => .ok wanted

/-- Sends a signal to programs and jobs, as many as there are. It is enough if one of them gets it. -/
def sendEach (signal : Nat) : List String → Bool → Work Nat
  | [], reached => return if reached then 0 else 1
  | text :: rest, reached => do
    let shell ← get
    let onward := fun (also : Bool) => sendEach signal rest (reached || also)
    let scanned := Text.scanInteger true text.toList
    if text ≠ "" ∧ scanned.found ∧ scanned.rest = [] then
      if ← ask (.send scanned.value signal) then onward true
      else
        Work.warn ("(" ++ toString scanned.value ++ ") - No such process")
        onward false
    else if text = "" then
      Work.warn "\x60': not a pid or valid job spec"
      onward false
    else if text.toList.head? ≠ some '%' then
      Work.warn (text ++ ": arguments must be process or job IDs")
      onward false
    else
      match job? shell text with
      | some (_, numbers) =>
        let sent ← numbers.mapM fun number : Nat => ask (.send number signal)
        onward (sent.any id)
      | none =>
        Work.warn (text ++ ": no such job")
        onward false

def richKill (arguments : List String) : Work Nat := do
  let shell ← get
  let usage : Work Nat := do
    Work.put 2 ("kill: usage: kill [-s sigspec | -n signum | -sigspec] pid | jobspec ... "
      ++ "or kill -l [sigspec]\n")
    return 2
  if arguments.isEmpty then usage
  else
    match Wanted.reading (arguments.length + 1) { rest := arguments } with
    | .error word =>
      Work.warn (word ++ ": option requires an argument")
      return 1
    | .ok wanted =>
      if wanted.lists then
        if wanted.rest.isEmpty then deliver richSignalList else otherNames wanted.rest
      else
        match wanted.spec with
        | none => if wanted.rest.isEmpty then usage else sendEach Signal.term wanted.rest false
        | some text =>
          match signal? shell text with
          | none =>
            Work.warn (text ++ ": invalid signal specification")
            return 1
          | some signal => if wanted.rest.isEmpty then usage else sendEach signal wanted.rest false

def kill (arguments : List String) : Work Nat := do
  let shell ← get
  if shell.isRich then richKill arguments
  else
    let send := fun (signal : Nat) (whom : List String) =>
      if whom.isEmpty then Work.refuse killUsage else sendAll signal whom 0
    match arguments with
    | [] => Work.refuse killUsage
    | first :: rest =>
      match first.toList with
      | '-' :: name =>
        match if name = [] then none else signal? shell (String.ofList name) with
        | some signal => send signal rest
        | none =>
          let (found, operands) ← options "ls:n:L" arguments
          match found.find? fun option => option.1 = 's' || option.1 = 'n' with
          | some (_, name) =>
            match signal? shell name with
            | some signal => send signal operands
            | none => Work.refuse ("invalid signal number or name: " ++ name)
          | none =>
            if found.isEmpty then send Signal.term operands
            else
              match operands with
              | [] => deliver signalList
              | text :: _ => nameOfStatus text
      | _ => send Signal.term arguments

end Assay.Script.Builtin
