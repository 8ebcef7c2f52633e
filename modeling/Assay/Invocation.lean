import Assay.Settings.Basic

/-!
Invocations: the words of a command line and what they ask for. Overrides of settings may stand
before or after the command, each at most once in either place; what stands after it counts.
-/

namespace Assay

structure Overrides where
  settingsFile : Option Path := none
  subject : Option Path := none
  jobs : Option UInt64 := none
  timeout : Option UInt64 := none
  outputFolder : Option Path := none
deriving DecidableEq, Repr

inductive Request
  | run (suites : List String)
  | list (suites : List String)
  | showDefaults
deriving DecidableEq, Repr

structure Invocation where
  overrides : Overrides := {}
  request : Request := .run []
deriving DecidableEq, Repr

inductive Topic
  | whole
  | run
  | list
  | showDefaults
  | help
deriving DecidableEq, Repr

inductive Halt
  | misuse
  | version
  | help (topic : Topic)
deriving DecidableEq, Repr

namespace Overrides

/-- Those of the first, completed by those of the second. -/
def orElse (first second : Overrides) : Overrides where
  settingsFile := first.settingsFile <|> second.settingsFile
  subject := first.subject <|> second.subject
  jobs := first.jobs <|> second.jobs
  timeout := first.timeout <|> second.timeout
  outputFolder := first.outputFolder <|> second.outputFolder

def path? (text : String) : Except Halt Path := if text = "" then .error .misuse else .ok ⟨text⟩

def number? (text : String) : Except Halt UInt64 :=
  let digits := match text.toList with
    | '+' :: rest => rest
    | all => all
  let value := Text.digitsValue digits
  if digits ≠ [] ∧ digits.all Char.isDigit ∧ value < UInt64.size then .ok (UInt64.ofNat value)
  else .error .misuse

def once {α : Type} (old : Option α) (value : Except Halt α) : Except Halt (Option α) :=
  match old with
  | some _ => .error .misuse
  | none => value.map some

def give (overrides : Overrides) (name text : String) : Except Halt Overrides :=
  match name with
  | "config" => do
    return { overrides with settingsFile := ← once overrides.settingsFile (path? text) }
  | "subject-analyzer" => do
    return { overrides with subject := ← once overrides.subject (path? text) }
  | "jobs" => do return { overrides with jobs := ← once overrides.jobs (number? text) }
  | "timeout" => do return { overrides with timeout := ← once overrides.timeout (number? text) }
  | "output-dir" => do
    return { overrides with outputFolder := ← once overrides.outputFolder (path? text) }
  | _ => .error .misuse

/-- The environment names the subject where the command line does not. -/
def withEnvironment (overrides : Overrides) (subject : Option String) : Except Halt Overrides :=
  match overrides.subject, subject with
  | none, some text => do return { overrides with subject := some (← path? text) }
  | _, _ => .ok overrides

end Overrides

namespace Invocation

def command? : String → Option Topic
  | "run" => some .run
  | "list" => some .list
  | "default-config" => some .showDefaults
  | "help" => some .help
  | _ => none

def takesSuites (command : Topic) : Bool := command = .run || command = .list

structure Reading where
  overrides : Overrides := {}
  suites : List String := []

def option? (word : String) : Option (String × Option String) :=
  match word.toList with
  | '-' :: '-' :: rest =>
    let name := String.ofList (rest.takeWhile (· ≠ '='))
    match rest.dropWhile (· ≠ '=') with
    | _ :: value => some (name, some (String.ofList value))
    | [] => some (name, none)
  | _ => none

def looksLikeOption (word : String) : Bool := "-".isPrefixOf word && word ≠ "-"

def take (place : Topic) (reading : Reading) (name value : String) : Except Halt Reading :=
  if name = "suite" ∧ takesSuites place then
    .ok { reading with suites := reading.suites ++ [value] }
  else do return { reading with overrides := ← reading.overrides.give name value }

def halt? (place : Topic) (word : String) : Option Halt :=
  if word = "--help" ∨ "-h".isPrefixOf word then some (.help place)
  else if place = .whole ∧ (word = "--version" ∨ "-V".isPrefixOf word) then some .version
  else none

/-- Reads options up to the first word that is none, and gives that word and what follows. -/
def readOptions (place : Topic) (reading : Reading) :
    List String → Except Halt (Reading × List String)
  | [] => .ok (reading, [])
  | ["--"] => .ok (reading, [])
  | word :: rest =>
    match halt? place word with
    | some halt => .error halt
    | none =>
      match option? word with
      | some (name, some value) => do readOptions place (← take place reading name value) rest
      | some (name, none) =>
        match rest with
        | [] => .error .misuse
        | value :: others =>
          if looksLikeOption value then .error .misuse
          else do readOptions place (← take place reading name value) others
      | none => if looksLikeOption word then .error .misuse else .ok (reading, word :: rest)

def readBehind (command : Topic) (subject : Option String) (words : List String) :
    Except Halt Reading := do
  let (reading, rest) ← readOptions command {} words
  if rest ≠ [] then throw .misuse
  let _ ← reading.overrides.withEnvironment subject
  return reading

def readHelp : List String → Halt
  | [] => .help .whole
  | [name] => ((command? name).map Halt.help).getD .misuse
  | _ => .misuse

def read (subject : Option String) (words : List String) : Except Halt Invocation := do
  let (front, rest) ← readOptions .whole {} words
  let (reading, request) ←
    match rest with
    | [] => pure (({} : Reading), Request.run [])
    | word :: others =>
      match command? word with
      | some .run => do
        let reading ← readBehind .run subject others
        pure (reading, Request.run reading.suites)
      | some .list => do
        let reading ← readBehind .list subject others
        pure (reading, Request.list reading.suites)
      | some .showDefaults => do
        let reading ← readBehind .showDefaults subject others
        pure (reading, Request.showDefaults)
      | some .help => throw (readHelp others)
      | _ => throw .misuse
  let _ ← front.overrides.withEnvironment subject
  let overrides ← (reading.overrides.orElse front.overrides).withEnvironment subject
  return { overrides, request }

end Invocation

end Assay
