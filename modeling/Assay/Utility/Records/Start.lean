import Assay.Utility.Records.Run

/-!
Starting programs that work on records: their text, the values that are given to variables, and the files that
records come from.
-/

namespace Assay.Utility

namespace Records

structure Order where
  separator : Option String := none
  files : List String := []
  assignments : List (String × String) := []
  operands : List String := []

def usage {α : Type} : Utility α := do
  say ("Usage: " ++ (← name) ++ " [Options] [Program] [file ...]\n")
  throw 0

def tellVersion {α : Type} : Utility α := do
  emitText ((← name) ++ "\n\n\n\n")
  flush
  throw 0

/-- The words behind the letter for all else; the beginning of each is enough. -/
def special (word : String) : Utility Unit := do
  let bare := String.ofList (word.toList.takeWhile (· ≠ '='))
  let means := fun (names : List String) => bare ≠ "" && names.any fun name => bare.isPrefixOf name
  if means ["version"] then tellVersion
  else if means ["help", "usage"] then usage
  else if !means ["interactive", "dump", "posix_space", "compat", "exec", "random", "sprintf"] then
    warn ("vacuous option: -W \"" ++ word ++ "\"")

def orderOf : Nat → Order → List String → Utility Order
  | 0, order, _ => return order
  | fuel + 1, order, words => do
    let valued := fun (letter : String) (inner : String) (rest : List String)
        (take : String → Utility Order) => do
      match inner, rest with
      | "", [] => fail ("option -" ++ letter ++ " lacks argument") 2
      | "", value :: others => orderOf fuel (← take value) others
      | value, others => orderOf fuel (← take value) others
    match words with
    | [] => return order
    | "--" :: rest => return { order with operands := rest }
    | word :: rest =>
      match word.toList with
      | '-' :: letter :: more =>
        let inner := String.ofList more
        match letter with
        | 'F' => valued "F" inner rest fun value => return { order with separator := some value }
        | 'f' => valued "f" inner rest fun value => return { order with files := order.files ++ [value] }
        | 'v' =>
          valued "v" inner rest fun value => do
            match Running.assignment? value with
            | some found => return { order with assignments := order.assignments ++ [found] }
            | none => fail ("improper assignment: -v " ++ value) 2
        | 'W' =>
          valued "W" inner rest fun value => do
            special value
            return order
        | '-' =>
          if ["version", "help", "usage"].any fun name => inner.isPrefixOf name then special inner
          fail ("not an option: " ++ word) 2
        | _ => fail ("not an option: " ++ word) 2
      | _ => return { order with operands := word :: rest }

def textOfFiles (files : List String) : Utility String := do
  let mut text := ""
  for file in files do
    match ← contentOf file with
    | .ok content => text := text ++ String.ofList (Octets.chars content)
    | .error fault => fail ("cannot open " ++ file ++ " (" ++ fault.message ++ ")") 2
  return text

def firstValues (separator : String) (count : Nat) : List (String × Value) :=
  [("FS", .text separator), ("OFS", .text " "), ("ORS", .text "\n"), ("RS", .text "\n"), ("NR", .number 0),
   ("FNR", .number 0), ("FILENAME", .text ""), ("SUBSEP", .text "\x1c"), ("CONVFMT", .text "%.6g"),
   ("OFMT", .text "%.6g"), ("RSTART", .number 0), ("RLENGTH", .number (-1)), ("ARGC", .ofNat count)]

def runSource (become : Become) (source : Source) (names : List String) (order : Order) (operands : List String) :
    Running Nat := do
  let called ← Running.perform name
  let arguments := called :: operands
  let separator := order.separator.getD " "
  for (label, value) in firstValues (String.ofList (Running.unescaped (separator.length + 1) separator.toList))
      arguments.length do
    Running.setGlobal label value
  for label in names do
    let _ ← Running.cellOf label
  modify fun machine =>
    { machine with functions := source.functions.foldl (fun all item => all.insert item.1 item.2) machine.functions }
  for (place, argument) in (List.range arguments.length).zip arguments do
    Running.changeTable "ARGV" fun table => table.put (toString place) (.ofInput argument)
  let environment ← Running.perform (do return (← get).call.environment)
  for (label, value) in environment do
    Running.changeTable "ENVIRON" fun table => table.put label (.ofInput value)
  for (label, value) in order.assignments do Running.assign label value
  Running.run become source.rules

end Records

open Records

def awk : Program := starting fun become => do
  waiting
  losing fun fault => ("close failed on file /dev/stdout (" ++ fault.message ++ ")", 2)
  modify fun console =>
    let baseName := (console.call.name.toList.reverse.takeWhile (· ≠ '/')).reverse
    { console with call := { console.call with name := String.ofList baseName } }
  let given ← arguments
  if given.isEmpty then usage
  let order ← orderOf (given.length + 1) {} given
  let (text, operands) ← match order.files, order.operands with
    | [], [] => throw 0
    | [], text :: operands => pure (text, operands)
    | files, operands => do pure (← textOfFiles files, operands)
  match Source.ofText text with
  | .error messages =>
    for message in messages do warn message
    throw 2
  | .ok (source, names) =>
    let (result, _) ← StateT.run (ExceptT.run (runSource become source names order operands)) {}
    match result with
    | .ok status => if status ≠ 0 then throw status
    | .error _ => throw 2

end Assay.Utility
