import Assay.Script.Expansion

/-!
Redirections: opening files for a command, and giving channels other numbers.
-/

namespace Assay.Script.Redirection

def reason (fault : FileFault) (creates : Bool) : String :=
  match fault with
  | .notFound | .notAFolder => if creates then "Directory nonexistent" else "No such file"
  | other => other.message

def faultText (rich : Bool) (fault : FileFault) (name : String) (creates : Bool) : String :=
  if rich then name ++ ": " ++ fault.message
  else (if creates then "cannot create " else "cannot open ") ++ name ++ ": " ++ reason fault creates

def openFile (number : Nat) (name : String) (mode : OpenMode) (creates : Bool) : Work Unit := do
  match ← Work.ask (.openFile (Work.path name) mode number) with
  | .ok () => return
  | .error fault =>
    let rich := (← get).isRich
    Work.refuse (faultText rich fault name creates) (if rich then 1 else 2)

def refuseExisting (name : String) : Work Unit := do
  let shell ← get
  if shell.hasFlag 'C' then
    let tree ← Work.ask .tree
    let folder ← Work.ask .folder
    if tree.isFile folder (Work.path name) then
      if shell.isRich then Work.refuse (name ++ ": cannot overwrite existing file") 1
      else Work.refuse ("cannot create " ++ name ++ ": File exists")

def readText (number : Nat) (text : String) : Work Unit := do
  let (reader, writer) ← Work.ask .pipe
  let before ← Work.ask .channels
  let aside := 1000
  Work.ask (.setChannels (before.put number reader |>.put aside writer))
  let _ ← (Process.write aside (Octets.toBytes text) : Process _)
  Work.ask (.setChannels (before.put number reader))

def moved? (rich : Bool) (target : String) : Option Nat :=
  let digits := target.toList.dropLast
  if rich && target.toList.getLast? = some '-' && digits ≠ [] && digits.all Char.isDigit then
    some (Text.valueIn 10 digits)
  else none

/-- Gives a channel another number, or closes it. What is written after the sign stands in complaints, unless that
spells a number. -/
def duplicate (number : Nat) (target : String) (written : String := target) : Work Unit := do
  let channels ← Work.ask .channels
  let rich := (← get).isRich
  if target = "-" then Work.ask (.setChannels (channels.drop number))
  else
    let moves := moved? rich target
    let source := (moves.orElse fun _ => target.toNat?).getD number
    if source = number then return
    else
      match channels.lookup source with
      | some channel =>
        let grown := channels.put number channel
        Work.ask (.setChannels (if moves.isSome then grown.drop source else grown))
      | none =>
        let literal : Bool := (written.toNat?).isSome || (moved? rich written).isSome
        let subject := if !rich || literal then toString source
          else if number ≤ 1 then written else toString number
        Work.refuse (subject ++ ": Bad file descriptor") (if rich then 1 else 2)

def namesNoChannel (rich : Bool) (target : String) : Bool :=
  target ≠ "-" && !((rich || target.length = 1) && target ≠ "" && target.toList.all Char.isDigit)
    && (moved? rich target).isNone

def fieldOf (commands : Expansion.Commands) (redirect : Redirect) : Work String := do
  if (← get).isRich then
    match ← Expansion.allFields commands [redirect.target] with
    | [field] => return field
    | _ => Work.refuse (redirect.written ++ ": ambiguous redirect") 1
  else Expansion.text commands redirect.target

def targetOf (commands : Expansion.Commands) (redirect : Redirect) : Work String := do
  match redirect.direction with
  | .document _ => return ""
  | .line => Expansion.text commands redirect.target
  | .duplicate =>
    let name ← fieldOf commands redirect
    let rich := (← get).isRich
    if namesNoChannel rich name && !(rich && redirect.channel = 1 && redirect.holder = "") then
      if rich then Work.refuse (name ++ ": ambiguous redirect") 1
      else
        modify fun shell => { shell with line := shell.readLine }
        Work.refuse "Syntax error: Bad fd number"
    else return name
  | _ => fieldOf commands redirect

def freeNumber : Work Nat := do
  let channels ← Work.ask .channels
  return (((List.range 246).map (· + 10)).find? fun number => (channels.lookup number).isNone).getD 255

def heldBy (holder : String) : Work (Option String) := do
  let name := String.ofList (holder.toList.takeWhile (· ≠ '['))
  if name = holder then Work.value? holder
  else
    let index := String.ofList ((holder.toList.drop (name.length + 1)).dropLast)
    return ((← get).binding? name).bind fun binding => binding.value.members.lookup index

def keepIn (holder : String) (number : Nat) : Work Unit := do
  let name := String.ofList (holder.toList.takeWhile (· ≠ '['))
  if name = holder then Work.assign holder (toString number)
  else
    let place := (String.ofList ((holder.toList.drop (name.length + 1)).dropLast)).toNat?.getD 0
    modify fun shell =>
      let binding := (shell.binding? name).getD { name }
      let members := match binding.value with
        | .list members => members
        | _ => []
      shell.setBinding
        { binding with value := .list (members.filter (·.1 ≠ place) ++ [(place, toString number)]) }

/-- The channel that a redirection is about. A variable that keeps it gets a new one, except where the channel is
closed. -/
def numberOf (redirect : Redirect) (name : String) : Work Nat := do
  let holder := redirect.holder
  if holder = "" then return redirect.channel
  else if redirect.direction = .duplicate && name = "-" then
    match ((← heldBy holder).getD "").toNat? with
    | some number => return number
    | none => Work.refuse (holder ++ ": Bad file descriptor") 1
  else
    let number ← freeNumber
    keepIn holder number
    return number

def applyOne (commands : Expansion.Commands) (redirect : Redirect) (name : String) : Work Unit := do
  let number ← numberOf redirect name
  match redirect.direction with
  | .document id =>
    let document := ((← get).documents.lookup id).getD {}
    readText number (← Expansion.text commands document.content)
  | .line => readText number (name ++ "\n")
  | .read => openFile number name .read false
  | .write =>
    refuseExisting name
    openFile number name .write true
  | .overwrite => openFile number name .write true
  | .append => openFile number name .append true
  | .readWrite => openFile number name .readWrite true
  | .writeBoth =>
    openFile 1 name .write true
    duplicate 2 "1"
  | .appendBoth =>
    openFile 1 name .append true
    duplicate 2 "1"
  | .duplicate =>
    if namesNoChannel (← get).isRich name && redirect.holder = "" then
      openFile 1 name .write true
      duplicate 2 "1"
    else duplicate number name redirect.written

def applyAll (commands : Expansion.Commands) : List (Redirect × String) → Work Unit
  | [] => return
  | (redirect, name) :: rest => do
    applyOne commands redirect name
    applyAll commands rest

structure Aside where
  base : Nat
  numbers : List Nat

def putAside (redirects : List Redirect) : Work Aside := do
  let rich := (← get).isRich
  let channels ← Work.ask .channels
  let highest := channels.foldl (fun most item => max most item.1) 0
  let base := 1000 * (highest / 1000 + 1)
  let numbers := ((redirects.filter (·.holder = "")).flatMap fun redirect =>
    match redirect.direction with
    | .writeBoth | .appendBoth => [1, 2]
    | .duplicate => if rich ∧ redirect.channel = 1 then [1, 2] else [redirect.channel]
    | _ => [redirect.channel]).eraseDups
  let kept := numbers.filterMap fun number =>
    (channels.lookup number).map fun channel => (base + number, channel)
  if !numbers.isEmpty then Work.ask (.setChannels (kept ++ channels))
  return { base, numbers }

def putBack (aside : Aside) : Work Unit := do
  if !aside.numbers.isEmpty then
    let channels ← Work.ask .channels
    let restored := aside.numbers.foldl (fun left number =>
      match channels.lookup (aside.base + number) with
      | some channel => (left.drop (aside.base + number)).put number channel
      | none => left.drop number) channels
    Work.ask (.setChannels restored)

def abandon (aside : Aside) : Work Unit := do
  if !aside.numbers.isEmpty then
    let channels ← Work.ask .channels
    Work.ask (.setChannels (aside.numbers.foldl (fun left number => left.drop (aside.base + number)) channels))

/-- Carries redirections out in order. One that fails is told about, and the others are left. The
result tells whether all went well. -/
def apply (commands : Expansion.Commands) (redirects : List Redirect) : Work Bool := do
  if (← get).isRich then
    match ← Work.outcome (redirects.forM fun redirect => do
      applyOne commands redirect (← targetOf commands redirect)) with
    | .ok () => return true
    | .error .fails => return false
    | .error jump => throw jump
  else
    let targets ← redirects.mapM (targetOf commands)
    match ← Work.outcome (applyAll commands (redirects.zip targets)) with
    | .ok () => return true
    | .error _ => return false

end Assay.Script.Redirection
