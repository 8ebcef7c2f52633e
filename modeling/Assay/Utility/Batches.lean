import Assay.Utility.Escape
import Assay.Utility.Basic

/-!
Command lines whose last arguments come from the input, in batches.
-/

namespace Assay.Utility

namespace Batches

inductive Batch
  | all
  | items (count : Nat)
  | lines (count : Nat)
  | inPlaceOf (mark : String)

structure Gathered where
  word : Option (List Char) := none
  line : List String := []
  lines : List (List String) := []

namespace Gathered

def begin (gathered : Gathered) : Gathered := { gathered with word := some (gathered.word.getD []) }

def add (gathered : Gathered) (c : Char) : Gathered :=
  { gathered with word := some (c :: gathered.word.getD []) }

def closeWord (gathered : Gathered) : Gathered :=
  match gathered.word with
  | some word => { gathered with word := none, line := String.ofList word.reverse :: gathered.line }
  | none => gathered

def closeLine (gathered : Gathered) : Gathered :=
  let closed := gathered.closeWord
  if closed.line.isEmpty then closed
  else { closed with line := [], lines := closed.line.reverse :: closed.lines }

def finish (gathered : Gathered) : List (List String) := gathered.closeLine.lines.reverse

end Gathered

/-- Takes the input apart at blanks and line ends, with quotes and backslashes. A quote that is left open is
the end, and told. The number bounds the steps. -/
def split (atBlanks : Bool) :
    Nat → Option Char → Option Char → Gathered → List Char → List (List String) × Option Char
  | 0, _, _, gathered, _ => (gathered.finish, none)
  | _, _, some quote, gathered, [] => ({ gathered with word := none }.finish, some quote)
  | _, _, none, gathered, [] => (gathered.finish, none)
  | fuel + 1, before, some quote, gathered, c :: rest =>
    if c = '\n' then ({ gathered with word := none }.finish, some quote)
    else if c = quote then split atBlanks fuel before none gathered rest
    else split atBlanks fuel (some c) (some quote) (gathered.add c) rest
  | fuel + 1, before, none, gathered, c :: rest =>
    let isBlank := fun d : Char => d = ' ' || d = '\t'
    if c = '\n' then
      if atBlanks ∧ (before.map isBlank).getD false then split atBlanks fuel (some c) none gathered.closeWord rest
      else split atBlanks fuel (some c) none gathered.closeLine rest
    else if isBlank c ∧ gathered.word.isNone then split atBlanks fuel (some c) none gathered rest
    else if isBlank c ∧ atBlanks then split atBlanks fuel (some c) none gathered.closeWord rest
    else if c = '\'' ∨ c = '"' then split atBlanks fuel (some c) (some c) gathered.begin rest
    else if c = '\\' then
      match rest with
      | d :: more => split atBlanks fuel (some d) none (gathered.add d) more
      | [] => (gathered.finish, none)
    else split atBlanks fuel (some c) none (gathered.add c) rest

def chunks {α : Type} (size : Nat) : Nat → List α → List (List α)
  | 0, _ => []
  | fuel + 1, items => if items.isEmpty then [] else items.take size :: chunks size fuel (items.drop size)

def upTo (last : Option String) (lines : List (List String)) : List (List String) :=
  match last with
  | none => lines
  | some word =>
    let before := lines.takeWhile fun line => !line.contains word
    match lines.drop before.length with
    | line :: _ =>
      let rest := line.takeWhile (· ≠ word)
      if rest.isEmpty then before else before ++ [rest]
    | [] => before

def within (room : Nat) : List String → List String × List String
  | [] => ([], [])
  | item :: rest =>
    if item.length < room then
      let (taken, left) := within (room - item.length - 1) rest
      (item :: taken, left)
    else ([], item :: rest)

/-- Items in parts that fit into a number of bytes; the number bounds the parts. -/
def fitting (room : Nat) : Nat → List String → List (List String)
  | 0, _ => []
  | _, [] => []
  | parts + 1, first :: rest =>
    let (taken, left) := within (room - first.length - 1) rest
    (first :: taken) :: fitting room parts left

def commandLines (batch : Batch) (runsAlways : Bool) (room : Nat) (command : List String)
    (lines : List (List String)) : List (List String) :=
  let items := lines.flatten
  let space := room - command.foldl (fun total word => total + word.length + 1) 0
  match batch with
  | .inPlaceOf mark =>
    items.map fun item => (command.take 1) ++ (command.drop 1).map fun word => word.replace mark item
  | .lines count =>
    if lines.isEmpty ∧ runsAlways then [command]
    else (chunks count (lines.length + 1) lines).map fun group => command ++ group.flatten
  | .items count =>
    if items.isEmpty then if runsAlways then [command] else []
    else (chunks count (items.length + 1) items).map fun group => command ++ group
  | .all =>
    if items.isEmpty then if runsAlways then [command] else []
    else (fitting space (items.length + 1) items).map fun group => command ++ group

/-- What the ending of a command means for the whole: nothing, a status for the end, or the end. -/
def judge (command : String) (ending : Ending) : Utility Unit := do
  match ending with
  | .code 0 => return
  | .code status =>
    if status = 126 ∨ status = 127 then throw status
    else if status = 255 then fail (command ++ ": exited with status 255; aborting") 124
    else modify fun console => { console with status := 123 }
  | .signal number => fail (command ++ ": terminated by signal " ++ toString number) 125

def awaitOne (numbers : List Nat) : Nat → Utility (Nat × Ending)
  | 0 => return (numbers.headD 0, .code 0)
  | steps + 1 => do
    match ← ask (.wait { numbers := some numbers }) with
    | .ended number ending => return (number, ending)
    | .nobody => return (numbers.headD 0, .code 0)
    | .busy | .interrupted => awaitOne numbers steps

def awaitBelow (command : String) (limit : Nat) : Nat → List Nat → Utility (List Nat)
  | 0, running => return running
  | steps + 1, running => do
    if running.length < limit then return running
    else
      let (number, ending) ← awaitOne running Process.manySteps
      judge command ending
      awaitBelow command limit steps (running.filter (· ≠ number))

def runAll (become : Become) (traced : Bool) (most : Nat) : List Nat → List (List String) → Utility Unit
  | running, [] => do
    let _ ← awaitBelow "" 1 (running.length + 1) running
  | running, line :: rest => do
    let command := line.headD ""
    let left ← awaitBelow command most (running.length + 1) running
    if traced then
      say (" ".intercalate (line.map fun word => if isPlainName word then word else quoted word) ++ "\n")
    let called ← name
    let number ← spawn become (← get).call.environment command (line.drop 1) fun fault => do
      let _ ← Process.write 2 (Octets.toBytes (called ++ ": " ++ command ++ ": " ++ fault.message ++ "\n"))
      return startStatus fault
    let after ← awaitBelow command most (left.length + 2) (left ++ [number])
    runAll become traced most after rest

def known : Options where
  flags := "0rtxpo"
  valued := "nILPsadE"
  loose := "ile"
  inOrder := true
  words :=
    [("null", "0", false), ("no-run-if-empty", "r", false), ("max-args", "n", true), ("replace", "i", false),
     ("max-lines", "l", false), ("max-procs", "P", true), ("delimiter", "d", true), ("verbose", "t", false),
     ("arg-file", "a", true), ("eof", "e", false), ("max-chars", "s", true), ("exit", "x", false),
     ("open-tty", "o", false), ("interactive", "p", false)]
  lenient := ["replace", "max-lines", "eof"]

def count (option : String) (least : Nat) (text : String) : Utility Nat := do
  match natural? text with
  | none => misuse ("invalid number \"" ++ text ++ "\" for -" ++ option ++ " option")
  | some number =>
    if number < least then
      misuse ("value " ++ text ++ " for -" ++ option ++ " option should be >= " ++ toString least)
    else return number

def batchOf : Batch → List (String × String) → Utility Batch
  | batch, [] => return batch
  | batch, (key, value) :: rest => do
    let ignoring := fun (now before : String) =>
      warn ("warning: options " ++ before ++ " and " ++ now ++ " are mutually exclusive, ignoring previous "
        ++ before ++ " value")
    if key = "n" then
      let number ← count "n" 1 value
      match batch with
      | .inPlaceOf mark =>
        if number = 1 then batchOf (.inPlaceOf mark) rest
        else
          ignoring "--max-args" "--replace"
          batchOf (.items number) rest
      | .lines _ =>
        ignoring "--max-args" "--max-lines"
        batchOf (.items number) rest
      | _ => batchOf (.items number) rest
    else if key = "L" ∨ key = "l" then
      let number ← if value = "" then pure 1 else count key 1 value
      match batch with
      | .items _ => ignoring (if key = "L" then "-L" else "--max-lines/-l") "--max-args"
      | .inPlaceOf _ => ignoring (if key = "L" then "-L" else "--max-lines/-l") "--replace"
      | _ => pure ()
      batchOf (.lines number) rest
    else if key = "I" ∨ key = "i" then
      match batch with
      | .items _ => ignoring "--replace/-I/-i" "--max-args"
      | .lines _ => ignoring "--replace/-I/-i" "--max-lines"
      | _ => pure ()
      batchOf (.inPlaceOf (if value = "" then "\x7b\x7d" else value)) rest
    else batchOf batch rest

def delimiter (text : String) : Utility Char := do
  match (Escape.unescape { manner := .program } text.toList).1, text.toList with
  | [c], _ => return c
  | _, [c] => return c
  | _, _ =>
    fail ("Invalid input delimiter specification " ++ text ++ ": the delimiter must be either a single "
      ++ "character or an escape sequence starting with \\.")

def between (mark : Char) (text : List Char) : List (List String) :=
  let pieces := text.splitOn mark
  (if pieces.getLast? = some [] then pieces.dropLast else pieces).map fun piece => [String.ofList piece]

def itemsOf (found : Found) (batch : Batch) (text : List Char) : Utility (List (List String)) := do
  let atBlanks := match batch with
    | .inPlaceOf _ => false
    | _ => true
  match found.last? ["0", "d"] with
  | some "0" => return between '\x00' text
  | some _ => return between (← delimiter ((found.value? "d").getD "\n")) text
  | none =>
    let (lines, opened) := split atBlanks (text.length + 2) none none {} text
    match opened with
    | some quote =>
      complain ("unmatched " ++ (if quote = '"' then "double" else "single")
        ++ " quote; by default quotes are special to xargs unless you use the -0 option")
    | none => pure ()
    return upTo (((found.value? "E").orElse fun _ => found.value? "e").filter (· ≠ "")) lines

end Batches

def xargs : Program := starting fun become => do
  let found ← options Batches.known
  let batch ← Batches.batchOf .all found.options
  let most ← match found.value? "P" with
    | some text => Batches.count "P" 0 text
    | none => pure 1
  let room ← match found.value? "s" with
    | some text => Batches.count "s" 1 text
    | none => pure 131072
  match found.value? "d" with
  | some text =>
    let _ ← Batches.delimiter text
  | none => pure ()
  let source := (found.value? "a").getD "-"
  let content ← contentOf source
  match if source = "-" then .ok (content.toOption.getD .empty) else content with
  | .error fault => fail ("Cannot open input file " ++ cited source ++ ": " ++ fault.message)
  | .ok content =>
    let lines ← Batches.itemsOf found batch (Octets.chars content)
    let command := if found.operands.isEmpty then ["echo"] else found.operands
    if source = "-" then
      let _ ← ask (.openFile (path "/dev/null") .read 0)
    let runsAlways := !found.has "r" && (← get).status = 0
    Batches.runAll become (found.has "t") (if most = 0 then 1000 else most) []
      (Batches.commandLines batch runsAlways room command lines)

end Assay.Utility
