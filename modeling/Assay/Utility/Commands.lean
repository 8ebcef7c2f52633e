import Assay.Host.Signal
import Assay.Utility.Plain

/-!
Programs that start other programs, or send them signals.
-/

namespace Assay.Utility

def becomeOperands (become : Become) (operands : List String) : Utility Unit := do
  match operands with
  | [] => return
  | command :: rest =>
    let fault ← lift (Program.becomeNamed become (← get).call.environment command rest)
    fail ("failed to run command " ++ quoted command ++ ": " ++ fault.message) (startStatus fault)

def nohup : Program := starting fun become => do
  let found ← options { inOrder := true, failure := 125 }
  if found.operands.isEmpty then misuse "missing operand" 125
  ask (.react 1 .ignored)
  becomeOperands become found.operands

def nice : Program := starting fun become => do
  let found ← options { valued := "n", inOrder := true, failure := 125, words := [("adjustment", "n", true)] }
  match found.value? "n" with
  | some text =>
    let scanned := Text.scanInteger true text.toList
    if !scanned.found || !scanned.rest.isEmpty then fail ("invalid adjustment " ++ cited text) 125
  | none => pure ()
  if found.operands.isEmpty then emitText "0\n"
  else
    let fault ← lift (Program.becomeNamed become (← get).call.environment
      (found.operands.headD "") (found.operands.drop 1))
    fail (cited (found.operands.headD "") ++ ": " ++ fault.message) (startStatus fault)

def stdbuf : Program := starting fun become => do
  let found ← options { valued := "ioe", inOrder := true, failure := 125 }
  becomeOperands become found.operands

def setsid : Program := starting fun become => do
  let found ← options { flags := "cfw", inOrder := true }
  match found.operands with
  | [] => fail "no command specified"
  | command :: rest =>
    ask .leaveGroup
    let fault ← lift (Program.becomeNamed become (← get).call.environment command rest)
    fail ("failed to execute " ++ command ++ ": " ++ fault.message) (startStatus fault)

def lookInterval : Nat := 1000

def awaitUntil (number deadline : Nat) : Nat → Utility (Option Ending)
  | 0 => return none
  | steps + 1 => do
    match ← ask (.wait { numbers := some [number], looksOnly := true }) with
    | .ended _ ending => return some ending
    | .nobody => return some (.code 0)
    | .busy | .interrupted =>
      if deadline ≤ (← ask .clock) then return none
      else
        ask (.pause lookInterval)
        awaitUntil number deadline steps

def timeout : Program := starting fun become => do
  let found ← options
    { flags := "vfp", valued := "sk", inOrder := true, failure := 125,
      words := [("signal", "s", true), ("kill-after", "k", true), ("preserve-status", "p", false),
                ("foreground", "f", false), ("verbose", "v", false)] }
  match found.operands with
  | text :: command :: rest =>
    match span? text, (found.value? "s").map Signal.named?, found.value? "k" with
    | none, _, _ => misuse ("invalid time interval " ++ cited text) 125
    | some limit, chosen, after =>
      let signal ← match found.value? "s" with
        | none => pure Signal.term
        | some name =>
          match ((natural? name).filter (· ≤ Signal.highest)).orElse fun _ => (chosen.getD none) with
          | some number => pure number
          | none => misuse (cited name ++ ": invalid signal") 125
      if !found.has "f" then ask .leaveGroup
      let name ← name
      let wide ← spellsWide
      let number ← spawn become (← get).call.environment command rest fun fault => do
        let _ ← Process.write 2 (messageBytes wide
          (name ++ ": failed to run command " ++ cited command ++ ": " ++ fault.message ++ "\n"))
        return startStatus fault
      let start ← ask .clock
      let first ← if limit = 0 then do pure (some (← awaitNumber number Process.manySteps))
        else awaitUntil number (start + limit) Process.manySteps
      let (ending, late) : Ending × Bool ← match first with
        | some ending => pure (ending, false)
        | none =>
          let telling := fun signal : Nat => do
            if found.has "v" then
              let word := (Signal.name? signal).getD (toString signal)
              warn ("sending signal " ++ word ++ " to command " ++ cited command)
          telling signal
          let _ ← ask (.send number signal)
          if !found.has "f" then
            if signal ≠ Signal.kill then ask (.react signal .ignored)
            let _ ← ask (.send 0 signal)
          match after.bind span? with
          | none => pure (← awaitNumber number Process.manySteps, true)
          | some more =>
            match ← awaitUntil number ((← ask .clock) + more) Process.manySteps with
            | some ending => pure (ending, true)
            | none =>
              telling Signal.kill
              let _ ← ask (.send number Signal.kill)
              if !found.has "f" then
                let _ ← ask (.send 0 Signal.kill)
              pure (← awaitNumber number Process.manySteps, true)
      match ending with
      | .code status =>
        modify fun console => { console with status := if late && !found.has "p" then 124 else status }
      | .signal number =>
        if late && number ≠ Signal.kill && !found.has "p" then throw 124
        else if late then throw (128 + number)
        else lift (Process.finish (.signal number))
  | _ =>
    say ("Try '" ++ (← name) ++ " --help' for more information.\n")
    throw 125

def signalOf? (text : String) : Option Nat := (natural? text).orElse fun _ => Signal.named? text

def sendEach (signal : Nat) (targets : List String) : Utility Unit := do
  for target in targets do
    let number : Option Int := match target.toList with
      | '-' :: rest => (natural? (String.ofList rest)).map fun n => -(n : Int)
      | _ => (natural? target).map fun n => (n : Int)
    match number with
    | none => complain ("failed to parse argument: " ++ quoted target)
    | some whom =>
      if !(← ask (.send whom signal)) then
        complain ("(" ++ target ++ "): No such process")

def kill : Program := program do
  match ← arguments with
  | "-l" :: _ => emitText (" ".intercalate (Signal.known.map Prod.fst) ++ "\n")
  | "-s" :: name :: targets =>
    match signalOf? name with
    | some signal => sendEach signal targets
    | none => fail ("unknown signal name " ++ name)
  | first :: rest =>
    match first.toList with
    | '-' :: '-' :: _ => sendEach Signal.term rest
    | '-' :: name =>
      match signalOf? (String.ofList name) with
      | some signal => sendEach signal rest
      | none => fail ("unknown signal name " ++ String.ofList name)
    | _ => sendEach Signal.term (first :: rest)
  | [] => fail "not enough arguments"

def which : Program := program do
  let found ← options { flags := "as" }
  let folders := ((← get).call.environment.lookup "PATH").getD Program.standardPath
  let tree ← tree
  let here ← folder
  for name in found.operands do
    let places := (Program.candidates folders name).filter fun place =>
      match tree.target? here (path place) with
      | some (_, .file _ _ true) => true
      | _ => false
    if places.isEmpty then modify fun console => { console with status := 1 }
    else for place in if found.has "a" then places else places.take 1 do emitText (place ++ "\n")

/-- Waits for a lock until a time, if there is one; the number bounds the looks. -/
def awaitLock (channel : Nat) (alone : Bool) (deadline : Option Nat) : Nat → Utility (Except FileFault Bool)
  | 0 => return .ok false
  | steps + 1 => do
    match ← ask (.lock channel (some alone)) with
    | .error fault => return .error fault
    | .ok true => return .ok true
    | .ok false =>
      if deadline.any (· ≤ (← ask .clock)) then return .ok false
      else
        ask (.pause lookInterval)
        awaitLock channel alone deadline steps

def flock : Program := starting fun become => do
  waiting
  let found ← options
    { flags := "sexnuoF", valued := "wE", inOrder := true, failure := 64,
      words := [("shared", "s", false), ("exclusive", "x", false), ("unlock", "u", false), ("nonblocking", "n", false),
        ("nb", "n", false), ("nonblock", "n", false), ("timeout", "w", true), ("wait", "w", true), ("conflict-exit-code", "E", true),
        ("close", "o", false), ("no-fork", "F", false), ("verbose", "verbose", false)] }
  let conflict := ((found.value? "E").bind natural?).getD 1
  let alone := (found.last? ["s", "e", "x"]) ≠ some "s"
  let limit ← match found.value? "w" with
    | none => pure none
    | some text =>
      match span? text with
      | some span => pure (some span)
      | none => fail ("invalid timeout value: '" ++ text ++ "'") 64
  let deadline ← if found.has "n" then pure (some 0)
    else do pure (limit.map (· + (← ask .clock)))
  let lockOn := fun (channel : Nat) (shown : String) => do
    if found.has "u" then
      match ← ask (.lock channel none) with
      | .ok _ => pure ()
      | .error fault => fail (shown ++ ": " ++ fault.message) 65
    else
      match ← awaitLock channel alone deadline Process.manySteps with
      | .ok true => pure ()
      | .ok false => throw conflict
      | .error fault => fail (shown ++ ": " ++ fault.message) 65
  match found.operands with
  | [] =>
    if (← arguments).isEmpty then
      warn "not enough arguments"
      say ("Try '" ++ (← name) ++ " --help' for more information.\n")
      throw 64
    fail "requires file descriptor, file or directory" 64
  | [text] =>
    match natural? text with
    | some number => lockOn number text
    | none => fail ("bad file descriptor: '" ++ text ++ "'") 64
  | file :: command :: rest =>
    let (program, arguments) ← if command = "-c" || command = "--command" then
        match rest with
        | [text] =>
          pure ((((← get).call.environment.lookup "SHELL").filter (· ≠ "")).getD "/bin/sh", ["-c", text])
        | _ => fail "-c requires exactly one command argument" 64
      else pure (command, rest)
    let opened ← match ← ask (.openFile (path file) .create (inputNumber + 1)) with
      | .error .isAFolder => ask (.openFile (path file) .read (inputNumber + 1))
      | other => pure other
    match opened with
    | .error fault => fail ("cannot open lock file " ++ file ++ ": " ++ fault.message) 66
    | .ok () =>
      lockOn (inputNumber + 1) file
      let name ← name
      let wide ← spellsWide
      let number ← spawn become (← get).call.environment program arguments fun fault => do
        let _ ← Process.write 2 (messageBytes wide
          (name ++ ": failed to execute " ++ program ++ ": " ++ fault.message ++ "\n"))
        return if fault = .notFound then 69 else 70
      match ← awaitNumber number Process.manySteps with
      | .code status => modify fun console => { console with status }
      | .signal number => throw (128 + number)

end Assay.Utility
