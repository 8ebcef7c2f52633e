import Assay.Utility.Copying

/-!
Programs that take lines apart and put them together.
-/

namespace Assay.Utility

structure Span where
  first : Nat
  last : Option Nat

def Span.holds (span : Span) (place : Nat) : Bool :=
  span.first ≤ place && (span.last.map fun last => decide (place ≤ last)).getD true

def spansOf (fields : Bool) (text : String) : Except String (List Span) :=
  let kind := if fields then "field" else "byte/character position"
  let fromOne := (if fields then "fields" else "byte/character positions") ++ " are numbered from 1"
  let number := fun piece : List Char =>
    if piece.all Char.isDigit then
      if Text.valueIn 10 piece = 0 then Except.error fromOne else .ok (Text.valueIn 10 piece)
    else .error ("invalid " ++ (if fields then kind ++ " value" else kind) ++ " " ++ cited (String.ofList piece))
  (text.toList.splitBy fun a b => !isComma a && !isComma b).filter (fun piece => piece.any fun c => !isComma c)
    |> fun pieces =>
      if (commas text.toList) ≠ pieces.length then .error fromOne
      else pieces.mapM fun piece =>
        let low := piece.takeWhile (· ≠ '-')
        match piece.drop low.length with
        | [] => do
          let place ← number low
          return { first := place, last := some place }
        | _ :: high =>
          if low.isEmpty ∧ high.isEmpty then .error "invalid range with no endpoint: -"
          else do
            let first ← if low.isEmpty then pure 1 else number low
            if high.isEmpty then return { first, last := none }
            else
              let last ← number high
              if last < first then throw "invalid decreasing range"
              return { first, last := some last }
where
  isComma (c : Char) : Bool := c = ',' || c = ' ' || c = '\t'
  commas (text : List Char) : Nat := (text.filter isComma).length + 1

structure Cutting where
  spans : List Span
  delimiter : Char := '\t'
  between : List Char := ['\t']
  complement : Bool := false
  onlyDelimited : Bool := false

def Cutting.keeps (cutting : Cutting) (place : Nat) : Bool :=
  (cutting.spans.any fun span => span.holds place) != cutting.complement

def Cutting.fields (cutting : Cutting) (line : List Char) : Option (List Char) :=
  if !line.contains cutting.delimiter then (if cutting.onlyDelimited then none else some line)
  else
    let pieces := line.splitOn cutting.delimiter
    let numbered := (List.range pieces.length).zip pieces
    some (cutting.between.intercalate
      ((numbered.filter fun item => cutting.keeps (item.1 + 1)).map Prod.snd))

def Cutting.begins (cutting : Cutting) (place : Nat) : Bool :=
  if cutting.complement then !(cutting.keeps (place - 1)) && cutting.keeps place
  else cutting.spans.any fun span =>
    span.first = place && !(cutting.spans.any fun other => other.first < place && other.holds place)

/-- Chosen characters of a line; the separator stands between ranges. -/
def Cutting.chars (cutting : Cutting) (between : List Char) (line : List Char) : List Char :=
  (((List.range line.length).zip line).foldl (fun (found : List Char × Bool) (item : Nat × Char) =>
    if cutting.keeps (item.1 + 1) then
      let front := if found.2 && cutting.begins (item.1 + 1) then between.reverse else []
      (item.2 :: front ++ found.1, true)
    else found) ([], false)).1.reverse

def cut : Program := program do
  let found ← options
    { flags := "nsz", valued := "bcdfO",
      words := [("bytes", "b", true), ("characters", "c", true), ("fields", "f", true),
                ("delimiter", "d", true), ("only-delimited", "s", false),
                ("output-delimiter", "O", true), ("complement", "C", false), ("zero-terminated", "z", false)] }
  let lists := found.options.filter fun option => ["b", "c", "f"].contains option.1
  match lists with
  | [] => misuse "you must specify a list of bytes, characters, or fields"
  | _ :: _ :: _ => misuse "only one list may be specified"
  | [(key, text)] =>
    let byFields : Bool := key = "f"
    let delimiter := (found.value? "d").getD "\t"
    if 1 < delimiter.length then misuse "the delimiter must be a single character"
    match spansOf byFields text with
    | .error message => misuse message
    | .ok spans =>
      if !byFields && found.has "d" then
        misuse "an input delimiter may be specified only when operating on fields"
      if !byFields && found.has "s" then
        misuse "suppressing non-delimited lines makes sense\n\tonly when operating on fields"
      let mark := if found.has "z" then '\x00' else '\n'
      let single := delimiter.toList.headD '\x00'
      let between := ((found.value? "O").map String.toList).getD [single]
      let cutting : Cutting :=
        { spans, delimiter := single, between, complement := found.has "C", onlyDelimited := found.has "s" }
      let step : LineStep Unit := fun _ line _ =>
        let part : Option (List Char) :=
          if byFields then cutting.fields line
          else some (cutting.chars (if found.has "O" then between else []) line)
        { state := (), output := (part.map fun chars => ended chars mark).getD [] }
      eachLineOf found.operands { mark } () step

def separators : List Char → List (List Char)
  | '\\' :: 'n' :: rest => ['\n'] :: separators rest
  | '\\' :: 't' :: rest => ['\t'] :: separators rest
  | '\\' :: '0' :: rest => [] :: separators rest
  | '\\' :: c :: rest => [c] :: separators rest
  | c :: rest => [c] :: separators rest
  | [] => []

def joinedBy (between : List (List Char)) : Nat → List (List Char) → List Char
  | _, [] => []
  | _, [last] => last
  | turn, first :: rest =>
    first ++ (between[turn % (max 1 between.length)]?).getD [] ++ joinedBy between (turn + 1) rest

def rowsOf (between : List (List Char)) : Nat → List (List (List Char)) → List (List Char)
  | 0, _ => []
  | fuel + 1, columns =>
    if columns.all List.isEmpty then []
    else
      joinedBy between 0 (columns.map fun column => column.headD [])
        :: rowsOf between fuel (columns.map fun column => column.drop 1)

def dealt (size place : Nat) (lines : List (List Char)) : List (List Char) :=
  ((List.range lines.length).zip lines).filterMap fun (number, line) =>
    if number % size = place then some line else none

def paste : Program := program do
  let found ← options
    { flags := "sz", valued := "d",
      words := [("serial", "s", false), ("delimiters", "d", true), ("zero-terminated", "z", false)] }
  let between := separators ((found.value? "d").getD "\t").toList
  let files := if found.operands.isEmpty then ["-"] else found.operands
  let inputs := (files.filter (· = "-")).length
  let input ← if inputs = 0 then pure [] else do pure (linesOf (← charsOf "-"))
  let mut columns : List (List (List Char)) := []
  let mut dashes := 0
  for file in files do
    if file = "-" then
      columns := columns ++
        [if found.has "s" then (if dashes = 0 then input else []) else dealt inputs dashes input]
      dashes := dashes + 1
    else
      match ← contentOf file with
      | .ok content => columns := columns ++ [linesOf (Octets.chars content)]
      | .error fault =>
        let message := named file ++ ": " ++ fault.message
        if found.has "s" then complain message else fail message
  if found.has "s" then emit (unlines (columns.map (joinedBy between 0)))
  else
    let rows := columns.foldl (fun most column => max most column.length) 0
    emit (unlines (rowsOf between (rows + 1) columns))
  if inputs ≠ 0 then closeInput "-"

def nextColumn (bytes : Bool) (column : Nat) (c : Char) : Nat :=
  if bytes then column + 1
  else if c = '\t' then column + (8 - column % 8)
  else if c = '\x08' then column - 1
  else if c = '\r' then 0
  else column + 1

/-- A line broken where it gets too wide, if it can be, behind a blank. The first list is the part since
the last break, backwards; the number bounds the steps. -/
def folded (width : Nat) (bytes blanks : Bool) : Nat → List Char → Nat → List Char → List Char
  | 0, held, _, rest => held.reverse ++ rest
  | _, held, _, [] => held.reverse
  | fuel + 1, held, column, c :: rest =>
    let next := nextColumn bytes column c
    if next ≤ width then folded width bytes blanks fuel (c :: held) next rest
    else if held.isEmpty then folded width bytes blanks fuel [c] next rest
    else
      let tail := held.takeWhile fun d => d ≠ ' ' && d ≠ '\t'
      if blanks && tail.length < held.length then
        let whole := held.drop tail.length
        whole.reverse ++ '\n' :: folded width bytes blanks fuel [] 0 (tail.reverse ++ c :: rest)
      else held.reverse ++ '\n' :: folded width bytes blanks fuel [] 0 (c :: rest)

def fold : Program := program do
  let given := (← arguments).map fun text =>
    match text.toList with
    | '-' :: c :: _ => if c.isDigit then "-w" ++ String.ofList (text.toList.drop 1) else text
    | _ => text
  let found ← scanArguments
    { flags := "bs", valued := "w", words := [("bytes", "b", false), ("spaces", "s", false), ("width", "w", true)] }
    (given.length + 1) given
  let text := (found.value? "w").getD "80"
  match natural? text with
  | none => fail ("invalid number of columns: " ++ cited text)
  | some 0 => fail ("invalid number of columns: " ++ cited text ++ ": Numerical result out of range")
  | some width =>
    let step : LineStep Unit := fun _ line complete =>
      let body := folded width (found.has "b") (found.has "s") (2 * line.length * line.length + 2) [] 0 line
      { state := (), output := if complete then ended body else body }
    eachLineOf found.operands {} () step

end Assay.Utility
