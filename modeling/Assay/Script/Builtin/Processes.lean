import Assay.Script.Builtin.Signals

/-!
Builtin commands on programs at work.
-/

namespace Assay.Script.Builtin

open Work (deliver ask)

def lookAround : Nat → Work Unit
  | 0 => return
  | steps + 1 => do
    match ← ask (.wait { looksOnly := true }) with
    | .ended number ending =>
      modify fun shell => { shell with ended := (number, ending) :: shell.ended }
      lookAround steps
    | _ => return

def stateOf (shell : Shell) (numbers : List Nat) : String :=
  if numbers.all fun number => (shell.ended.lookup number).isSome then
    match numbers.getLast?.bind fun number => shell.ended.lookup number with
    | some (.code 0) | none => "Done"
    | some (.code status) => "Done(" ++ toString status ++ ")"
    | some (.signal signal) => Signal.epitaph signal
  else "Running"

def jobLine (shell : Shell) (sign : Char) (place : Nat) (numbers : List Nat) (withNumber : Bool) : String :=
  let front := "[" ++ toString place ++ "] " ++ String.ofList [sign] ++ " "
    ++ (if withNumber then toString (numbers.headD 0) ++ " " else "") ++ stateOf shell numbers
  let gap := String.ofList (List.replicate (max 1 (33 - front.length)) ' ')
  front ++ gap ++ String.join ((numbers.drop 1).map fun _ => " | ") ++ "\n"

/-- Lines about jobs in the rich dialect, the oldest first. Those that are done are forgotten. -/
def richJobLines (long : Bool) (chosen : List (Nat × List Nat)) : Work String := do
  let shell ← get
  let sign := fun place : Nat =>
    if (shell.jobs.head?.map Prod.fst) = some place then "+"
    else if (shell.jobs[1]?.map Prod.fst) = some place then "-" else " "
  let shown := (chosen.mergeSort fun left right => left.1 ≤ right.1).map fun (place, numbers) =>
    "[" ++ toString place ++ "]" ++ sign place ++ " "
      ++ if long then Jobs.atLength shell numbers else Jobs.briefly shell numbers
  let finished := (chosen.filter fun item => Jobs.isOver shell item.2).map Prod.fst
  modify fun after => { after with jobs := after.jobs.filter fun item => !finished.contains item.1 }
  return String.join shown

def jobLines (withNumber : Bool) : List (Nat × List Nat) → Bool → Bool → Work String
  | [], _, _ => return ""
  | (place, numbers) :: rest, first, second => do
    let shell ← get
    let line := jobLine shell (if first then '+' else if second then '-' else ' ') place numbers withNumber
    let done := numbers.all fun number => (shell.ended.lookup number).isSome
    if done then
      set { shell with jobs := shell.jobs.filter (·.1 ≠ place) }
      return line ++ (← jobLines withNumber rest first second)
    else return line ++ (← jobLines withNumber rest false first)

def jobs (arguments : List String) : Work Nat := do
  let rich := (← get).isRich
  let (found, operands) ← options (if rich then "lpnrs" else "lp") arguments
  let has := fun letter : Char => found.any (·.1 = letter)
  lookAround Process.manySteps
  let named ← operands.mapM (job ·)
  let shell ← get
  let all := if operands.isEmpty then shell.jobs else named
  let chosen := all.filter fun item =>
    !has 's' && !(has 'r' && Jobs.isOver shell item.2) && !(has 'n' && !Jobs.isOver shell item.2)
  if has 'p' then
    deliver (String.join (chosen.map fun (_, numbers) => toString (numbers.headD 0) ++ "\n"))
  else if rich then deliver (← richJobLines (has 'l') chosen)
  else deliver (← jobLines (has 'l') chosen true false)

def cameFirst : Work Nat := do
  let signals ← ask .caught
  modify fun shell => { shell with pending := shell.pending ++ signals }
  return 128 + (signals.getLast?).getD 0

/-- The programs that are waited for by a number or the name of a job; none if there are none of this kind. -/
def awaited? (text : String) : Work (Option (List Nat)) := do
  let shell ← get
  let isNumber : Bool := text ≠ "" && text.toList.all Char.isDigit
  if text.toList.head? = some '%' then return some (← job text 127).2
  else if shell.isRich && !isNumber then
    Work.refuse ("\x60" ++ text ++ "': not a pid or valid job spec") 1
  else
    let wanted ← number text
    let known := shell.jobs.any (fun job => job.2.contains wanted)
      || (shell.ended.lookup wanted).isSome || (shell.partners.lookup wanted).isSome
    return if known then some [wanted] else none

def waitEach : List String → Nat → Work Nat
  | [], status => return status
  | text :: rest, _ => do
    match ← awaited? text with
    | none =>
      if (← get).isRich then Work.warn ("pid " ++ text ++ " is not a child of this shell")
      waitEach rest 127
    | some wanted =>
      if ← Jobs.awaitAll wanted true Process.manySteps then
        let after ← get
        let status := ((wanted.getLast?.bind fun number => after.ended.lookup number).map Jobs.statusOf).getD 127
        waitEach rest status
      else cameFirst

def waitAll : Nat → Work Nat
  | 0 => return 0
  | steps + 1 => do
    match ← ask (.wait { interruptible := true }) with
    | .ended number ending =>
      modify fun shell => { shell with ended := (number, ending) :: shell.ended }
      waitAll steps
    | .interrupted => cameFirst
    | .nobody | .busy => return 0

def forgetEnded : Work Unit :=
  modify fun shell =>
    if shell.isRich then
      { shell with
        jobs := shell.jobs.filter fun job => !job.2.all fun number => (shell.ended.lookup number).isSome }
    else shell

def waitFirst (among : List Nat) : Nat → Work (Option Nat)
  | 0 => return none
  | steps + 1 => do
    let shell ← get
    match among.find? fun number => (shell.ended.lookup number).isSome with
    | some number => return some number
    | none =>
      match ← ask (.wait { interruptible := true }) with
      | .ended number ending =>
        modify fun after => { after with ended := (number, ending) :: after.ended }
        waitFirst among steps
      | .interrupted | .nobody | .busy => return none

def waitNext (operands : List String) (holder : Option String) : Work Nat := do
  let shell ← get
  let named ← operands.filterMapM fun text => do
    let known := (text.toNat?).filter fun number => shell.jobs.any fun job => job.2.contains number
    match known, text.toList.head? with
    | some number, _ => return some number
    | none, some '%' => return (← job text 127).2.getLast?
    | none, _ =>
      Work.warn (text ++ ": no such job")
      return none
  let among := if operands.isEmpty then shell.jobs.filterMap fun job => job.2.getLast? else named
  if among.isEmpty then return 127
  else
    match ← waitFirst among Process.manySteps with
    | none =>
      let signals ← ask .caught
      modify fun after => { after with pending := after.pending ++ signals }
      return 128 + (signals.getLast?).getD 0
    | some number =>
      let status := (((← get).ended.lookup number).map Jobs.statusOf).getD 127
      Jobs.tellOthers
      modify fun after => { after with jobs := after.jobs.filter fun job => !job.2.contains number }
      match holder with
      | some name => Work.assign name (toString number)
      | none => pure ()
      return status

def wait (arguments : List String) : Work Nat := do
  let status ← waited arguments
  Jobs.tellOthers
  Jobs.partPartners
  forgetEnded
  return status
where waited (arguments : List String) : Work Nat := do
  let (found, operands) ← options (if (← get).isRich then "nfp:" else "") arguments
  if found.any (·.1 = 'n') then waitNext operands (found.lookup 'p')
  else if operands.isEmpty then waitAll Process.manySteps
  else waitEach operands 0

def moveJob (arguments : List String) : Work Nat := do
  if (← get).isRich then Work.refuse "no job control" 1
  else
    let (_, operands) ← options "" arguments
    let _ ← job (operands.headD "%")
    Work.refuse ("job " ++ operands.headD "(null)" ++ " not created under job control")

def disown (arguments : List String) : Work Nat := do
  let (found, operands) ← options "ahr" arguments
  let shell ← get
  if operands.isEmpty then
    if found.any (·.1 = 'h') then return 0
    else if !found.isEmpty then
      set { shell with jobs := [] }
      return 0
    else
      match shell.jobs with
      | [] => Work.refuse "current: no such job" 1
      | _ :: others =>
        set { shell with jobs := others }
        return 0
  else
    operands.foldlM (fun status text => do
      let known ← get
      let number := text.toNat?
      let named := if text.toList.head? = some '%' then job? known text
        else known.jobs.find? fun job => number.any fun wanted => job.2.contains wanted
      match named with
      | some (place, _) =>
        set { known with jobs := known.jobs.filter fun job => job.1 ≠ place }
        return status
      | none =>
        Work.warn (text ++ ": no such job")
        return 1) 0

def times : Work Nat :=
  deliver "0m0.000000s 0m0.000000s\n0m0.000000s 0m0.000000s\n"

/-- What a program may use of something, as long as nobody has set it. -/
def usualLimit : Char → String
  | 'c' | 'r' => "0"
  | 's' | 'l' => "8192"
  | 'n' => "1048576"
  | _ => "unlimited"

def limited : List (Char × String) :=
  [('t', "time(seconds)"), ('f', "file(blocks)"), ('d', "data(kbytes)"), ('s', "stack(kbytes)"),
   ('c', "coredump(blocks)"), ('m', "memory(kbytes)"), ('l', "locked memory(kbytes)"), ('p', "process"),
   ('n', "nofiles"), ('v', "vmemory(kbytes)"), ('w', "locks"), ('r', "rtprio")]

def blockSize (rich : Bool) : Nat := if rich then 1024 else 512

/-- Limits of what a program may use. That of files is kept to, and the others are only remembered. -/
def ulimit (arguments : List String) : Work Nat := do
  let (found, operands) ← options "HSatfdscmlpnvwr" arguments
  let shell ← get
  let files ← ask .sizeLimit
  let valueOf := fun letter : Char =>
    if letter = 'f' then
      match files with
      | some limit => toString (limit / blockSize shell.isRich)
      | none => "unlimited"
    else (shell.limits.lookup letter).getD (usualLimit letter)
  let chosen := ((found.map Prod.fst).filter fun letter => letter ≠ 'H' && letter ≠ 'S').getLast?.getD 'f'
  match operands with
  | [] =>
    if chosen = 'a' then
      deliver (String.join (limited.map fun (letter, title) =>
        title ++ String.ofList (List.replicate (20 - title.length) ' ') ++ " " ++ valueOf letter ++ "\n"))
    else deliver (valueOf chosen ++ "\n")
  | text :: rest =>
    if !shell.isRich && !(rest.isEmpty && chosen ≠ 'a') then Work.refuse "too many arguments"
    else if text = "unlimited" || text ≠ "" && text.toList.all Char.isDigit then
      if chosen = 'f' then
        ask (.setSizeLimit (if text = "unlimited" then none
          else some (Text.valueIn 10 text.toList * blockSize shell.isRich)))
      else set { shell with limits := (chosen, text) :: shell.limits }
      return 0
    else if shell.isRich then
      if text = "hard" || text = "soft" then return 0 else Work.refuse (text ++ ": invalid number") 1
    else Work.refuse "bad number"

end Assay.Script.Builtin
