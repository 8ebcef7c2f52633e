import Assay.Utility.Basic
import Assay.Utility.Escape
import Assay.Utility.Printf
import Assay.Utility.Test
import Assay.Text.Octets

/-!
Programs that only write what their arguments tell, or pass time.
-/

namespace Assay.Utility

def programHabit : Utility Escape.Habit := do
  return { manner := .program, wide := Text.spellsWide ((← get).call.environment.lookup ·) }

def echoProgram : Program := program do
  emit (Echo.written (← programHabit) (← arguments))

def printfProgram : Program := program do
  match ← arguments with
  | [] => misuse "missing operand"
  | first :: rest =>
    let given := if first = "--" then rest else first :: rest
    match given with
    | [] => misuse "missing operand"
    | format :: values =>
      let printed := Printf.printed { habit := ← programHabit, arguments := values } format
      emit printed.output.reverse
      for message in printed.complaints do complain message 0
      modify fun console => { console with status := printed.status }

def testProgram : Program := program do
  let call := (← get).call
  let called := if call.name.toList.getLast? = some '[' then "[" else "test"
  let view : Test.View := { tree := ← tree, folder := ← folder, ends := ← ask .ends }
  let (status, message) := Test.result .program view called call.arguments
  match message with
  | some text => complain text status
  | none => modify fun console => { console with status }

def succeed : Program := fun _ _ => return 0

def refuse : Program := fun _ _ => return 1

def pwd : Program := program do
  let _ ← options { flags := "LP", words := [("logical", "L", false), ("physical", "P", false)] }
  let here ← folder
  if FileTree.isLost here then fail "couldn't find directory entry in '..' with matching i-node"
  emitText (Octets.ofText here.path.text ++ "\n")

def span? (text : String) : Option Nat :=
  match Text.scanDecimal text.toList with
  | some (false, digits, exponent, rest) =>
    let unit : Option Nat := match rest with
      | [] | ['s'] => some 1
      | ['m'] => some 60
      | ['h'] => some 3600
      | ['d'] => some 86400
      | _ => none
    unit.map fun seconds =>
      let places := exponent + 6
      let bounded := max (-400) (min 400 places)
      let numerator := digits * Nat.pow 10 bounded.toNat * seconds
      let denominator := Nat.pow 10 (-bounded).toNat
      (numerator + denominator - 1) / denominator
  | _ => if text = "inf" ∨ text = "infinity" then some 1000000000000000 else none

def sleep : Program := program do
  let found ← options {}
  requireOperands found
  for text in found.operands do
    if (span? text).isNone then
      complain ("invalid time interval " ++ cited text)
  if (← get).status ≠ 0 then
    say "Try 'sleep --help' for more information.\n"
  else
    ask (.pause ((found.operands.filterMap span?).foldl (· + ·) 0))

def withoutEnd (text : List Char) : List Char := (text.reverse.dropWhile (· = '/')).reverse

def lastName (text : String) : String :=
  let body := withoutEnd text.toList
  if body = [] then (if text = "" then "" else "/")
  else String.ofList ((body.reverse.takeWhile (· ≠ '/')).reverse)

def folderName (text : String) : String :=
  let body := withoutEnd text.toList
  let above := (body.reverse.dropWhile (· ≠ '/')).reverse
  if body = [] then (if text = "" then "." else "/")
  else if above = [] then "."
  else if withoutEnd above = [] then "/" else String.ofList (withoutEnd above)

def withoutEnding (ending name : String) : String :=
  if ending ≠ "" ∧ ending ≠ name ∧ ending.toList.isSuffixOf name.toList then
    String.ofList (name.toList.take (name.length - ending.length))
  else name

def basename : Program := program do
  let found ← options
    { flags := "az", valued := "s", inOrder := true,
      words := [("multiple", "a", false), ("suffix", "s", true), ("zero", "z", false)] }
  requireOperands found
  let ending := if found.has "z" then "\x00" else "\n"
  if found.has "a" || found.has "s" then
    for name in found.operands do
      emitText (withoutEnding ((found.value? "s").getD "") (lastName name) ++ ending)
  else
    match found.operands with
    | [name] => emitText (lastName name ++ ending)
    | [name, suffix] => emitText (withoutEnding suffix (lastName name) ++ ending)
    | _ => misuse ("extra operand " ++ cited (found.operands.getD 2 ""))

def dirname : Program := program do
  let found ← options { flags := "z", words := [("zero", "z", false)] }
  requireOperands found
  for name in found.operands do
    emitText (folderName name ++ (if found.has "z" then "\x00" else "\n"))

def repeatText (text : ByteArray) : Nat → Utility Unit
  | 0 => return
  | times + 1 => do
    match ← lift (Process.write 1 text) with
    | .ok () => repeatText text times
    | .error fault => fail ("standard output: " ++ fault.message)

def yes : Program := program do
  let found ← options {}
  let line := (if found.operands.isEmpty then "y" else " ".intercalate found.operands) ++ "\n"
  let copies := max 1 (8192 / line.length)
  repeatText (Octets.toBytes (String.join (List.replicate copies line))) Process.manySteps

def whoami : Program := program do
  let _ ← options {}
  emitText "root\n"

def id : Program := program do
  let found ← options
    { flags := "ugGnrz", words := [("user", "u", false), ("group", "g", false), ("groups", "G", false),
                                   ("name", "n", false), ("real", "r", false)] }
  if found.has "u" || found.has "g" || found.has "G" then
    emitText (if found.has "n" then "root\n" else "0\n")
  else emitText "uid=0(root) gid=0(root) groups=0(root)\n"

def uname : Program := program do
  let found ← options { flags := "asnrvmpio" }
  let parts := [("s", "Linux"), ("n", "localhost"), ("r", "6.1.0"), ("v", "#1 SMP"), ("m", "x86_64"),
    ("o", "GNU/Linux")]
  let chosen := if found.has "a" then parts
    else if found.options.isEmpty then parts.take 1
    else parts.filter fun part => found.has part.1
  emitText (" ".intercalate (chosen.map Prod.snd) ++ "\n")

def hostname : Program := program do emitText "localhost\n"

def arch : Program := program do emitText "x86_64\n"

def nproc : Program := program do emitText "4\n"

def tty : Program := program do
  let found ← options { flags := "s", words := [("silent", "s", false), ("quiet", "s", false)] }
  if !found.has "s" then emitText "not a tty\n"
  modify fun console => { console with status := 1 }

def printenv : Program := program do
  losing (Loss.usual 2)
  let found ← options { flags := "0", inOrder := true, failure := 2 }
  let environment := (← get).call.environment
  if found.operands.isEmpty then
    for (name, value) in environment do emitText (name ++ "=" ++ value ++ "\n")
  else
    for name in found.operands do
      match environment.lookup name with
      | some value => emitText (value ++ "\n")
      | none => modify fun console => { console with status := 1 }

def sync : Program := fun _ _ => return 0

end Assay.Utility
