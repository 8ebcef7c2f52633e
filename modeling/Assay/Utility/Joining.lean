import Assay.Utility.Ordering

/-!
Joining the lines of two files that share a field. Both files are in the order of that field, and it is told where they
are not.
-/

namespace Assay.Utility

abbrev FieldLine := List (List Char)

structure Joining where
  separator : Option (Option Char) := none
  first : Nat := 1
  second : Nat := 1
  ignoresCase : Bool := false
  unpaired : List Nat := []
  paired : Bool := true
  format : List (Nat × Nat) := []
  sizes : Option (Nat × Nat) := none
  filler : List Char := []
  mark : Char := '\n'
  check : OrderCheck := .whenUnpaired

namespace Joining

def words (line : List Char) : FieldLine :=
  let isGap := fun c : Char => isBlank c || c = '\n'
  match line.dropWhile isGap with
  | [] => []
  | body =>
    ((body.splitOnP isGap).filter (· ≠ [])) ++ (if (body.getLast?.map isGap).getD false then [[]] else [])

def fields (joining : Joining) (line : List Char) : FieldLine :=
  match joining.separator with
  | none => words line
  | some none => if line = [] then [] else [line]
  | some (some mark) => if line = [] then [] else line.splitOn mark

def between (joining : Joining) : Char := joining.separator.elim ' ' fun mark => mark.getD '\n'

def key (joining : Joining) (file : Nat) (line : FieldLine) : List Char :=
  let text := line.getD ((if file = 1 then joining.first else joining.second) - 1) []
  if joining.ignoresCase then text.map Char.toLower else text

def row (joining : Joining) (left right : Option FieldLine) : List Char :=
  let field := fun (line : Option FieldLine) (place : Nat) =>
    match (line.bind fun fields => (fields.drop (place - 1)).head?) with
    | some [] | none => joining.filler
    | some text => text
  let shared := match left with
    | some _ => field left joining.first
    | none => field right joining.second
  let others := fun (line : Option FieldLine) (own : Nat) (size : Option Nat) =>
    let count := size.getD ((line.map List.length).getD 0)
    (((List.range count).map (· + 1)).filter (· ≠ own)).map (field line)
  let parts :=
    if joining.format.isEmpty then
      shared :: others left joining.first (joining.sizes.map Prod.fst)
        ++ others right joining.second (joining.sizes.map Prod.snd)
    else joining.format.map fun (file, place) =>
      if file = 0 then shared else field (if file = 1 then left else right) place
  ended ([joining.between].intercalate parts) joining.mark

/-- A file on its way: the lines that are not read yet, how many have been, and the last of them. -/
structure Source where
  name : String
  left : List (List Char)
  number : Nat := 0
  before : Option FieldLine := none
  told : Bool := false

structure Progress where
  first : Source
  second : Source
  unpaired : Bool := false

def Progress.source (progress : Progress) (file : Nat) : Source :=
  if file = 1 then progress.first else progress.second

def Progress.put (progress : Progress) (file : Nat) (source : Source) : Progress :=
  if file = 1 then { progress with first := source } else { progress with second := source }

/-- The next line of a file, if it has one. A line that is out of order is told about once. -/
def next (joining : Joining) (file : Nat) : StateT Progress Utility (Option FieldLine) := do
  let progress ← get
  let source := progress.source file
  match source.left with
  | [] => return none
  | text :: left =>
    let line := joining.fields text
    let number := source.number + 1
    let wrong := !source.told
      && (joining.check = .always || (joining.check = .whenUnpaired && progress.unpaired))
      && source.before.any fun before => decide (joining.key file line < joining.key file before)
    set (progress.put file
      { source with left, number, before := some line, told := source.told || wrong })
    if wrong then
      let message := source.name ++ ":" ++ toString number ++ ": is not sorted: " ++ String.ofList text
      if joining.check = .always then let _ ← (fail message : Utility Unit) else (warn message : Utility Unit)
    return some line

/-- The lines of a file that share the key, and the first line behind them. The number bounds the lines. -/
def alike (joining : Joining) (file : Nat) (key : List Char) : Nat → List FieldLine →
    StateT Progress Utility (List FieldLine × Option FieldLine)
  | 0, found => return (found.reverse, none)
  | fuel + 1, found => do
    match ← joining.next file with
    | none => return (found.reverse, none)
    | some line =>
      if joining.key file line = key then joining.alike file key fuel (line :: found)
      else return (found.reverse, some line)

def rest (joining : Joining) (file : Nat) : Nat → Option FieldLine → StateT Progress Utility Unit
  | 0, _ => return
  | _, none => return
  | fuel + 1, some line => do
    let shows := joining.unpaired.contains file
    if shows then
      (emit (if file = 1 then joining.row (some line) none else joining.row none (some line)) : Utility Unit)
    if shows || (joining.check ≠ .never && !((← get).source file).told) then
      joining.rest file fuel (← joining.next file)

def run (joining : Joining) : Nat → Option FieldLine → Option FieldLine → StateT Progress Utility Unit
  | 0, _, _ => return
  | fuel + 1, some left, some right => do
    let a := joining.key 1 left
    let b := joining.key 2 right
    if a < b then
      if joining.unpaired.contains 1 then (emit (joining.row (some left) none) : Utility Unit)
      let further ← joining.next 1
      modify fun progress => { progress with unpaired := true }
      joining.run fuel further (some right)
    else if b < a then
      if joining.unpaired.contains 2 then (emit (joining.row none (some right)) : Utility Unit)
      let further ← joining.next 2
      modify fun progress => { progress with unpaired := true }
      joining.run fuel (some left) further
    else
      let size := (← get).first.left.length + (← get).second.left.length + 1
      let (lefts, further) ← joining.alike 1 b size [left]
      let (rights, following) ← joining.alike 2 a size [right]
      if joining.paired then
        for one in lefts do
          for other in rights do (emit (joining.row (some one) (some other)) : Utility Unit)
      joining.run fuel further following
  | _, left, right => do
    if left.isSome && right.isSome then return
    let size := (← get).first.left.length + (← get).second.left.length + 1
    joining.rest 1 size left
    joining.rest 2 size right

end Joining

def fieldNumber (text : String) : Utility Nat := do
  match natural? text with
  | none | some 0 => fail ("invalid field number: " ++ cited text)
  | some n => return n

def fieldSpecs (text : String) : Utility (List (Nat × Nat)) := do
  let pieces := (text.toList.splitOnP fun c => c = ',' || c = ' ' || c = '\t').map String.ofList
  pieces.mapM fun piece => do
    match piece.toList with
    | ['0'] => return (0, 0)
    | '0' :: _ => fail ("invalid field specifier: " ++ cited piece)
    | c :: rest =>
      if c = '1' ∨ c = '2' then
        match rest with
        | '.' :: digits => return (if c = '1' then 1 else 2, ← fieldNumber (String.ofList digits))
        | _ => fail ("invalid field specifier: " ++ cited piece)
      else fail ("invalid file number in field spec: " ++ cited piece)
    | [] => fail ("invalid file number in field spec: " ++ cited piece)

def join : Program := program do
  let found ← options
    { flags := "iz", valued := "12ajotve",
      words := [("ignore-case", "i", false), ("check-order", "check-order", false),
                ("nocheck-order", "nocheck-order", false), ("zero-terminated", "z", false),
                ("header", "header", false)] }
  let mut joining : Joining := { check := OrderCheck.ofOptions found, ignoresCase := found.has "i"
                                 mark := if found.has "z" then '\x00' else '\n' }
  let mut filler : Option String := none
  let mut places : Option Nat × Option Nat := (none, none)
  let mut automatic := false
  for (key, value) in found.options do
    match key with
    | "a" | "v" =>
      match value with
      | "1" => joining := { joining with unpaired := 1 :: joining.unpaired }
      | "2" => joining := { joining with unpaired := 2 :: joining.unpaired }
      | _ => fail ("invalid field number: " ++ cited value)
      if key = "v" then joining := { joining with paired := false }
    | "e" =>
      if filler.any (· ≠ value) then fail "conflicting empty-field replacement strings"
      filler := some value
    | "1" | "2" | "j" =>
      let number ← fieldNumber value
      for (mine, before) in [("1", places.1), ("2", places.2)] do
        if key = mine || key = "j" then
          match before with
          | some other =>
            if other ≠ number then
              fail ("incompatible join fields " ++ toString (other - 1) ++ ", " ++ toString (number - 1))
          | none => pure ()
      places := (if key = "2" then places.1 else some number, if key = "1" then places.2 else some number)
    | "o" =>
      if value = "auto" then automatic := true
      else joining := { joining with format := joining.format ++ (← fieldSpecs value) }
    | "t" =>
      let mark ← match value.toList with
        | [] => pure none
        | [c] => pure (some c)
        | ['\\', '0'] => pure (some '\x00')
        | _ => fail ("multi-character tab " ++ cited value)
      if joining.separator.any (· ≠ mark) then fail "incompatible tabs"
      joining := { joining with separator := some mark }
    | _ => pure ()
  joining := { joining with first := places.1.getD 1, second := places.2.getD 1, filler := (filler.getD "").toList }
  match found.operands with
  | [one, other] =>
    if one = "-" && other = "-" then
      fail ("both files cannot be standard input: " ++ FileFault.notFound.message)
    let lines := fun file : String => do
      match ← contentOf file with
      | .ok content =>
        let pieces := (Octets.chars content).splitOn joining.mark
        pure (if pieces.getLast? = some [] then pieces.dropLast else pieces)
      | .error fault => fail (named file ++ ": " ++ fault.message)
    let lefts ← lines one
    let rights ← lines other
    if automatic then
      let size := fun lines : List (List Char) => ((lines.head?.map joining.fields).map List.length).getD 0
      joining := { joining with sizes := some (size lefts, size rights) }
    let final := joining
    let work : StateT Joining.Progress Utility Unit := do
      let left ← final.next 1
      let right ← final.next 2
      let (left, right) ← if found.has "header" && (left.isSome || right.isSome) then do
          (emit (final.row (some (left.getD [])) (some (right.getD []))) : Utility Unit)
          modify fun progress =>
            { progress with
              first := { progress.first with before := none }, second := { progress.second with before := none } }
          pure (← final.next 1, ← final.next 2)
        else pure (left, right)
      final.run (lefts.length + rights.length + 2) left right
    let (_, progress) ← work.run { first := { name := one, left := lefts }, second := { name := other, left := rights } }
    if progress.first.told || progress.second.told then fail "input is not in sorted order"
  | [] => misuse "missing operand"
  | [one] => misuse ("missing operand after " ++ cited ((← arguments).getLast?.getD one))
  | _ => misuse ("extra operand " ++ quoted (found.operands.getD 2 ""))

end Assay.Utility
