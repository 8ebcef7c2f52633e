import Assay.Script.Shell
import Assay.Text.Octets

/-!
The work of a script: it changes the state of the script, asks the host, and may be cut short by a
jump out of loops, out of a function, or to the end.
-/

namespace Assay.Script

inductive Jump
  | breaks (levels : Nat)
  | continues (levels : Nat)
  | returns
  | leaves
  /-- Something cannot be done; a script that is not asked what to do then ends. -/
  | fails
  | abandons
deriving DecidableEq, Repr

def Work (α : Type) : Type := Shell → (Except Jump α → Shell → Activity) → Activity

namespace Work

instance : Monad Work where
  pure value := fun shell next => next (.ok value) shell
  bind first second := fun shell next =>
    first shell fun result after =>
      match result with
      | .ok value => second value after next
      | .error jump => next (.error jump) after

instance : MonadStateOf Shell Work where
  get := fun shell next => next (.ok shell) shell
  set after := fun _ next => next (.ok ()) after
  modifyGet change := fun shell next =>
    let (value, after) := change shell
    next (.ok value) after

instance : MonadExceptOf Jump Work where
  throw jump := fun shell next => next (.error jump) shell
  tryCatch body handle := fun shell next =>
    body shell fun result after =>
      match result with
      | .ok value => next (.ok value) after
      | .error jump => handle jump after next

instance : MonadLift Process Work where
  monadLift process := fun shell next => process fun value => next (.ok value) shell

def ask (request : HostRequest) : Work request.Answer :=
  fun shell next => .ask request fun answer => next (.ok answer) shell

def outcome {α : Type} (part : Work α) : Work (Except Jump α) :=
  fun shell next => part shell fun result after => next (.ok result) after

def setStatus (status : Nat) : Work Unit := modify fun shell => { shell with status }

/-- Another script begins beside this one; its number is the result. -/
def fork (child : Work Unit) : Work Nat := fun shell next =>
  .fork (child shell fun _ after => .ended (.code (after.status % 256)))
    fun number => next (.ok number) shell

def finish {α : Type} (ending : Ending) : Work α := fun _ _ => .ended ending

def put (channel : Nat) (text : String) : Work Unit := do
  let _ ← (Process.write channel (Octets.toBytes text) : Process _)

def preamble : Work String := do
  let shell ← get
  let place := if shell.isRich then ": line " else ": "
  return shell.title ++ place ++ toString shell.line ++ ": "
    ++ ((shell.builtin.map (· ++ ": ")).getD "")

def warn (message : String) : Work Unit := do
  put 2 ((← preamble) ++ message ++ "\n")

def refuse {α : Type} (message : String) (status : Nat := 2) : Work α := do
  warn message
  setStatus status
  throw .fails

/-- Tells about a word that comes to nothing. In the rich dialect the present lines are left out. -/
def abandon {α : Type} (message : String) : Work α := do
  warn message
  let rich := (← get).isRich
  setStatus (if rich then 1 else 2)
  throw (if rich then .abandons else .fails)

def quit {α : Type} (message : String) (status : Nat) : Work α := do
  warn message
  setStatus status
  throw (if (← get).isRich then .leaves else .fails)

/-- A part of a word or an assignment. Where it fails, the rich dialect leaves the present lines out. -/
def abandoning {α : Type} (part : Work α) : Work α := do
  match ← outcome part with
  | .ok value => return value
  | .error jump => throw (if jump = .fails ∧ (← get).isRich then .abandons else jump)

def naming {α : Type} (name : Option String) (part : Work α) : Work α := do
  let before := (← get).builtin
  modify fun shell => { shell with builtin := name }
  let result ← outcome part
  modify fun shell => { shell with builtin := before }
  match result with
  | .ok value => return value
  | .error jump => throw jump

/-- Writes what a builtin command has to say at its end. Its status tells whether that was possible. -/
def deliver (text : String) (status : Nat := 0) : Work Nat := do
  match ← (Process.write 1 (Octets.toBytes text) : Process _) with
  | .ok () => return status
  | .error fault =>
    let shell ← get
    let name := shell.builtin.getD ""
    if shell.isRich then
      warn ("write error: " ++ fault.message)
      return 1
    else
      warn (name ++ ": I/O error")
      return status ||| 1

def value? (name : String) : Work (Option String) := do
  let shell ← get
  if name = "LINENO" && shell.isRich then return some (toString shell.line)
  else return (shell.binding? name).bind fun binding => binding.value.text?

def assign (name value : String) : Work Unit := do
  let shell ← get
  let old := (shell.binding? name).getD { name := shell.target name }
  if old.fixed then
    if shell.isRich then naming none (refuse (name ++ ": readonly variable") 1)
    else refuse (name ++ ": is read only")
  let held : Value := match old.value with
    | .list members => .list ((0, old.cased value) :: members.filter (·.1 ≠ 0))
    | .table members => .table (("0", old.cased value) :: members.filter (·.1 ≠ "0"))
    | _ => .single (old.cased value)
  let exported := old.exported || shell.hasFlag 'a'
  let positioned :=
    if name = "OPTIND" then { shell with optionIndex := max ((value.toNat?).getD 1) 1, optionPlace := none }
    else if shell.isRich && !shell.ordinary.contains name then marked shell
    else shell
  set (positioned.setBinding { old with value := held, exported })
  if shell.isRich && name = "SECONDS" then
    let began ← ask .clock
    modify fun after => { after with began }
  if shell.isRich && settable.contains name && value ≠ "" && !Text.isKnownSetting value then
    naming none (warn ("warning: setlocale: " ++ name ++ ": cannot change locale (" ++ value ++ ")"
      ++ ": No such file or directory"))
where
  number : Int := (value.toInt?).getD 0
  settable : List String := ["LC_ALL", "LC_CTYPE", "LC_MESSAGES", "LC_COLLATE", "LC_NUMERIC", "LC_TIME"]
  marked (shell : Shell) : Shell :=
    match name with
    | "RANDOM" => { shell with chance := (number % 4294967296).toNat, drawn := 0 }
    | "SECONDS" => { shell with lead := number }
    | _ => shell

/-- Keeps what a variable was, so that the function or command that is at work may change it. -/
def keep (name : String) : Work Unit :=
  modify fun shell =>
    match shell.locals with
    | frame :: others =>
      if (frame.lookup name).isSome then shell
      else { shell with locals := ((name, shell.ownBinding? name) :: frame) :: others }
    | [] => shell

def localized {α : Type} (part : Work α) : Work α := do
  let before ← get
  modify fun shell => { shell with locals := [] :: shell.locals }
  let result ← outcome part
  modify fun shell =>
    let restored := (shell.locals.headD []).foldl (fun left item =>
      match item.2 with
      | some binding => left.setBinding binding
      | none => left.removeBinding item.1) shell
    let counts := shell.isRich && ((shell.locals.headD []).lookup "OPTIND").isSome
    { restored with
      locals := shell.locals.drop 1
      optionIndex := if counts then before.optionIndex else shell.optionIndex
      optionPlace := if counts then before.optionPlace else shell.optionPlace }
  match result with
  | .ok value => return value
  | .error jump => throw jump

def separators : Work (List Char) := do
  return ((← value? "IFS").map String.toList).getD [' ', '\t', '\n']

def joint : Work (List Char) := do
  match ← value? "IFS" with
  | none => return [' ']
  | some text => return text.toList.take 1

def rank (rich : Bool) (places : Nat) (name : String) : Nat :=
  let codes := name.toList.map Char.toNat
  if rich then codes.foldl (fun sum code => (sum * 16777619 % 4294967296) ^^^ code) 2166136261 % places
  else codes.foldl (fun total code => total + code) (16 * codes.headD 0) % places

/-- The variables that programs see which the script starts, in the order of their ranks. In the rich dialect
those come first that hold for the present command alone. -/
def environment : Work (List (String × String)) := do
  let shell ← get
  let seen := shell.bindings.filterMap fun binding =>
    if binding.exported then binding.value.text?.map fun text => (binding.name, text) else none
  if shell.isRich then
    let passing := (shell.locals.headD []).map Prod.fst
    let first := passing.filterMap fun name => (seen.lookup name).map fun text => (name, text)
    let others := (seen.filter fun item => !passing.contains item.1 && item.1 ≠ "_").reverse
    return first ++ others.mergeSort fun left right => rank true 1024 left.1 ≤ rank true 1024 right.1
  else return seen.mergeSort fun left right => rank false 39 left.1 ≤ rank false 39 right.1

def path (octets : String) : Path := ⟨Octets.toText octets⟩

end Work

end Assay.Script
