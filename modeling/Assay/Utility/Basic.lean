import Assay.Host.Programs
import Assay.Text.Citation
import Assay.Text.Numeral
import Assay.Text.Octets

/-!
What programs of the system have in common: they gather their output, complain by their name, and read
options and files.
-/

namespace Assay

abbrev Loss := FileFault → String × Nat

def Loss.usual (status : Nat) : Loss := fun fault => ("write error: " ++ fault.message, status)

structure Console where
  call : Call
  loss : Loss := Loss.usual 1
  output : ByteArray := .empty
  waits : Bool := false
  status : Nat := 0

abbrev Utility (α : Type) := ExceptT Nat (StateT Console Process) α

namespace Utility

def lift {α : Type} (process : Process α) : Utility α := ExceptT.lift (StateT.lift process)

def ask (request : HostRequest) : Utility request.Answer := lift (Process.ask request)

def tree : Utility FileTree := ask .tree

def folder : Utility Location := ask .folder

def name : Utility String := do return (← get).call.name

def arguments : Utility (List String) := do return (← get).call.arguments

def path (octets : String) : Path := ⟨Octets.toText octets⟩

def spellsWide : Utility Bool := do return Text.spellsWide ((← get).call.environment.lookup ·)

def messageBytes (wide : Bool) (text : String) : ByteArray :=
  if Octets.isAscii text then text.toUTF8 else Octets.bytes (Text.Citation.settled wide text.toList)

def say (text : String) : Utility Unit := do
  let _ ← lift (Process.write 2 (messageBytes (← spellsWide) text))

def bufferSize : Nat := 4096

def flush : Utility Unit := do
  let console ← get
  if !console.output.isEmpty then
    set { console with output := .empty }
    match ← lift (Process.write 1 console.output) with
    | .ok () => return
    | .error fault =>
      let (message, status) := console.loss fault
      say ((← name) ++ ": " ++ message ++ "\n")
      throw status

/-- Tells about something and goes on. What has been gathered is written before it, unless it waits. -/
def warn (message : String) : Utility Unit := do
  if !(← get).waits then flush
  say ((← name) ++ ": " ++ message ++ "\n")

def waiting : Utility Unit := modify fun console => { console with waits := true }

def complain (message : String) (status : Nat := 1) : Utility Unit := do
  warn message
  modify fun console => { console with status := max console.status status }

def fail {α : Type} (message : String) (status : Nat := 1) : Utility α := do
  warn message
  throw status

def misuse {α : Type} (message : String) (status : Nat := 1) : Utility α := do
  warn message
  say ("Try '" ++ (← name) ++ " --help' for more information.\n")
  throw status

def losing (loss : Loss) : Utility Unit := modify fun console => { console with loss }

def emitBytes (bytes : ByteArray) : Utility Unit := do
  modify fun console => { console with output := console.output ++ bytes }
  if bufferSize ≤ (← get).output.size then flush

def emit (text : List Char) : Utility Unit := emitBytes (Octets.bytes text)

def emitText (text : String) : Utility Unit := emitBytes (Octets.toBytes text)

def starting (body : Become → Utility Unit) : Program := fun become call => do
  let (result, console) ← (do body become; flush : Utility Unit).run.run { call }
  match result with
  | .ok () => return console.status
  | .error status =>
    let _ ← Process.write 1 console.output
    return status

def program (body : Utility Unit) : Program := starting fun _ => body

/-- Another program beside this one. If it cannot be started, the fault and its status are handled. -/
def spawn (become : Become) (environment : List (String × String)) (name : String)
    (arguments : List String) (onFault : FileFault → Process Nat) : Utility Nat :=
  lift (Process.fork do onFault (← Program.becomeNamed become environment name arguments))

def awaitNumber (number : Nat) : Nat → Utility Ending
  | 0 => return .code 0
  | steps + 1 => do
    match ← ask (.wait { numbers := some [number] }) with
    | .ended _ ending => return ending
    | .nobody => return .code 0
    | .busy | .interrupted => awaitNumber number steps

def startStatus (fault : FileFault) : Nat :=
  if fault = .notFound ∨ fault = .notAFolder then 127 else 126

def cited (text : String) : String := Text.Citation.marked text

def isPlainName (text : String) : Bool := Text.Citation.standsAlone true [] text.toList

def quoted (text : String) : String := String.ofList (Text.Citation.quoted true text.toList)

/-- A name, between quotes if a shell needs them, or if a colon would make it hard to tell where it ends. -/
def named (text : String) : String := String.ofList (Text.Citation.readable true [':'] text.toList)

structure Options where
  flags : String := ""
  valued : String := ""
  loose : String := ""
  /-- Words, the letter or word they mean, and whether they take an argument. -/
  words : List (String × String × Bool) := []
  lenient : List String := []
  inOrder : Bool := false
  failure : Nat := 1
  signed : Bool := false
  hint : Char → Option String := fun _ => none
  usage : Option String := none
  manual : Option (String → String) := none
  refused : Char → Option (String × Bool) := fun _ => none

def Options.misused {α : Type} (known : Options) (message : String) : Utility α := do
  warn message
  match known.manual with
  | some text =>
    say (text (← name))
    throw known.failure
  | none => pure ()
  match known.usage with
  | some text => say ("Usage: " ++ (← name) ++ " " ++ text ++ "\n")
  | none => pure ()
  let front ← if known.signed then do pure ((← name) ++ ": ") else pure ""
  say (front ++ "Try '" ++ (← name) ++ " --help' for more information.\n")
  throw known.failure

/-- What was found among the arguments: options with their values, and the others. -/
structure Found where
  options : List (String × String) := []
  operands : List String := []

namespace Found

def has (found : Found) (key : String) : Bool := found.options.any (·.1 = key)

def value? (found : Found) (key : String) : Option String :=
  (found.options.reverse.find? (·.1 = key)).map Prod.snd

def values (found : Found) (key : String) : List String :=
  (found.options.filter (·.1 = key)).map Prod.snd

def last? (found : Found) (keys : List String) : Option String :=
  (found.options.reverse.find? fun option => keys.contains option.1).map Prod.fst

end Found

def scanLetters (known : Options) : List Char → List String →
    Utility (List (String × String) × List String)
  | [], rest => return ([], rest)
  | c :: more, rest => do
    let key := String.ofList [c]
    match known.refused c with
    | some (message, helps) => if helps then known.misused message else fail message known.failure
    | none => pure ()
    if known.flags.toList.contains c then
      let (found, left) ← scanLetters known more rest
      return ((key, "") :: found, left)
    else if known.valued.toList.contains c then
      match more, rest with
      | [], [] => known.misused ("option requires an argument -- '" ++ key ++ "'")
      | [], value :: others => return ([(key, value)], others)
      | _, _ => return ([(key, String.ofList more)], rest)
    else if known.loose.toList.contains c then return ([(key, String.ofList more)], rest)
    else
      let message := "invalid option -- '" ++ key ++ "'"
      match known.hint c with
      | some text =>
        warn message
        known.misused text
      | none => known.misused message

/-- The option that a word means; its beginning is enough if no other word begins that way. -/
def scanWord (known : Options) (text : String) (rest : List String) :
    Utility (List (String × String) × List String) := do
  let written := text.toList.takeWhile (· ≠ '=')
  let given : Option String := match text.toList.drop written.length with
    | _ :: value => some (String.ofList value)
    | [] => none
  let fits := known.words.filter fun word => written.isPrefixOf word.1.toList
  let exact := fits.filter fun word => word.1.toList = written
  match if exact.isEmpty then fits else exact with
  | [] => known.misused ("unrecognized option '--" ++ text ++ "'")
  | (word, key, takes) :: others =>
    if !others.isEmpty && others.any fun other => other.2.1 ≠ key then
      known.misused ("option '--" ++ String.ofList written ++ "' is ambiguous; possibilities: "
        ++ " ".intercalate (fits.map fun item => "'--" ++ item.1 ++ "'"))
    else if takes then
      match given, rest with
      | some value, _ => return ([(key, value)], rest)
      | none, value :: left => return ([(key, value)], left)
      | none, [] => known.misused ("option '--" ++ word ++ "' requires an argument")
    else
      match given with
      | some value =>
        if known.lenient.contains word then return ([(key, value)], rest)
        else known.misused ("option '--" ++ word ++ "' doesn't allow an argument")
      | none => return ([(key, "")], rest)

/-- Goes through the arguments; the number bounds how many there are. -/
def scanArguments (known : Options) : Nat → List String → Utility Found
  | 0, rest => return { operands := rest }
  | _, [] => return {}
  | size + 1, first :: rest => do
    let further := fun (result : List (String × String) × List String) => do
      let found ← scanArguments known size result.2
      return { found with options := result.1 ++ found.options : Found }
    match first.toList with
    | ['-', '-'] => return { operands := rest }
    | '-' :: '-' :: word => further (← scanWord known (String.ofList word) rest)
    | '-' :: c :: more => further (← scanLetters known (c :: more) rest)
    | _ =>
      if known.inOrder then return { operands := first :: rest }
      else
        let found ← scanArguments known size rest
        return { found with operands := first :: found.operands }

def options (known : Options) : Utility Found := do
  let given ← arguments
  scanArguments known (given.length + 1) given

/-- What a word means that has to be one of some. Each of them may have several names, and the beginning of a name
is enough if it could mean nothing else. -/
def choice {α : Type} [DecidableEq α] (option : String) (choices : List (List String × α)) (word : String)
    (status : Nat := 1) : Utility α := do
  let all := choices.flatMap fun item => item.1.map fun name => (name, item.2)
  let fits := all.filter fun item => word.isPrefixOf item.1
  let meant := match all.lookup word with
    | some value => [value]
    | none => (fits.map Prod.snd).eraseDups
  match meant with
  | [value] => return value
  | _ =>
    warn ((if fits.isEmpty then "invalid" else "ambiguous") ++ " argument " ++ cited word ++ " for " ++ cited option)
    say "Valid arguments are:\n"
    for (names, _) in choices do say ("  - " ++ ", ".intercalate (names.map cited) ++ "\n")
    say ("Try '" ++ (← name) ++ " --help' for more information.\n")
    throw status

def requireOperands (found : Found) : Utility Unit := do
  if found.operands.isEmpty then misuse "missing operand"

def inputNumber : Nat := 900

def withInput {α : Type} (file : String) (part : Nat → Utility α) : Utility (Except FileFault α) := do
  if file = "-" then return .ok (← part 0)
  else
    match ← ask (.openFile (path file) .read inputNumber) with
    | .error fault => return .error fault
    | .ok () =>
      let result ← part inputNumber
      let channels ← ask .channels
      ask (.setChannels (channels.drop inputNumber))
      return .ok result

def contentOf (file : String) : Utility (Except FileFault ByteArray) := do
  match ← withInput file fun number => lift (Process.readAll number) with
  | .error fault => return .error fault
  | .ok result => return result

/-- Tells that the input cannot be closed, where it was never open. -/
def closeInput (subject : String) : Utility Unit := do
  if ((← ask .channels).lookup 0).isNone then complain (subject ++ ": " ++ FileFault.badChannel.message)

def inputName (file : String) : String := if file = "-" then "standard input" else file

/-- The contents of files one after the other; those that cannot be read are told about. -/
def contentsOf (files : List String) : Utility (List (String × List Char)) := do
  let mut found := []
  for file in if files.isEmpty then ["-"] else files do
    match ← contentOf file with
    | .ok content => found := found ++ [(file, Octets.chars content)]
    | .error fault => complain (named (if files.isEmpty then inputName file else file) ++ ": " ++ fault.message)
  return found

def linesOf (text : List Char) : List (List Char) :=
  let pieces := text.splitOn '\n'
  if pieces.getLast? = some [] then pieces.dropLast else pieces

def unlines (lines : List (List Char)) : List Char := lines.flatMap fun line => line ++ ['\n']

def natural? (text : String) : Option Nat :=
  if text ≠ "" ∧ text.toList.all Char.isDigit then some (Text.valueIn 10 text.toList) else none

end Utility

end Assay
