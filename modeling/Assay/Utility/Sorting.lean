import Assay.Utility.Collation
import Assay.Utility.Copying

/-!
Sorting lines, and telling whether they are in order.
-/

namespace Assay.Utility

namespace Sorting

def columns (wide : Bool) (text : List Char) : Nat :=
  (((if wide then Text.Characters.gather text else text).map fun c =>
    if c = '\t' then 1 else Text.Alphabet.columns c).foldl (· + ·) 0)

def counted (collation : Collation) (text : List Char) : Nat :=
  if collation.month then (if monthRank text = 0 then 0 else 3)
  else if collation.general then
    let body := text.dropWhile Text.isSpaceByte
    match Text.scanNumber? body with
    | some (_, rest) => text.length - rest.length
    | none => 0
  else
    let (_, whole, places, rest) := leadingDecimal text
    if whole = [] ∧ places = [] then 0
    else text.length - rest.length + (if collation.human && 0 < (rest.head?.map unitOrder).getD 0 then 1 else 0)

def mark (sorting : Sorting) (wide : Bool) (line : List Char) (key : Option SortKey) : List Char :=
  let (start, size) : Nat × Nat := match key with
    | none => (0, line.length)
    | some key =>
      let start := key.start sorting.separator line
      let stop := key.stop sorting.separator line
      let part := (line.drop start).take (stop - start)
      if key.collation.month || key.collation.isNumeric then
        let body := if start < stop then part.dropWhile isBlank else part
        (start + (part.length - body.length), counted key.collation body)
      else (start, part.length)
  let width := columns wide ((line.drop start).take size)
  List.replicate (columns wide (line.take start)) ' '
    ++ (if width = 0 then "^ no match for key".toList else List.replicate width '_') ++ ['\n']

def explained (sorting : Sorting) (wide : Bool) (line : List Char) : List Char :=
  let whole := if sorting.keys = [] ∨ !(sorting.stable || sorting.unique) then [none] else []
  line.map (fun c => if c = '\t' then '>' else c) ++ '\n'
    :: (sorting.keys.map some ++ whole).flatMap (sorting.mark wide line)

def oldKey (key : SortKey) : String × String :=
  let sign := fun n : Nat => toString n
  let (oldEnd, newEnd) := match key.last with
    | none => ("", "")
    | some last => (" -" ++ sign (last.fields + 1), "," ++ sign (last.fields + 1))
  ("+" ++ sign key.first.fields ++ oldEnd, "-k " ++ sign (key.first.fields + 1) ++ newEnd)

def keyNotes (sorting : Sorting) (number : Nat) (key : SortKey) : List String :=
  let sign := toString number
  let wholeLine := key.first.fields = 0 ∧ key.first.chars = 0
  let endField := key.last.map FieldPlace.fields
  let empty := !wholeLine && (endField.map fun last => decide (last < key.first.fields)).getD false
  let old := if key.old then
      let (former, new) := oldKey key
      ["obsolescent key " ++ cited former ++ " used; consider " ++ cited new ++ " instead"]
    else []
  let skips := key.collation.isNumeric || key.collation.month
  let within := (key.last.map fun last => decide (last.fields = 0 ∧ last.chars ≠ 0)).getD false
  let blanks := key.first.skipsBlanks
  let lastBlanks := (key.last.map FieldPlace.skipsBlanks).getD false
  let lastChars := (key.last.map FieldPlace.chars).getD 0
  let spans := match endField with
    | none => true
    | some last => decide (key.first.fields < last)
  old ++ (if empty then ["key " ++ sign ++ " has zero width and will be ignored"] else [])
    ++ (if !empty && sorting.separator.isNone && !within
          && ((!blanks && !skips) || (!blanks && key.first.chars ≠ 0) || (!lastBlanks && lastChars ≠ 0)) then
        ["leading blanks are significant in key " ++ sign ++ "; consider also specifying 'b'"]
      else [])
    ++ (if key.collation.isNumeric && spans then ["key " ++ sign ++ " is numeric and spans multiple fields"] else [])

/-- The options for all keys that no key takes up. `whole` tells that they make up the only key. -/
def unused (sorting : Sorting) (whole : Bool) (asked : Collation) (blanks : Bool) : List String :=
  if whole then []
  else
    let left := sorting.keys.foldl (fun (left : Collation) key =>
      { numeric := left.numeric && !key.collation.numeric
        general := left.general && !key.collation.general
        human := left.human && !key.collation.human
        version := left.version && !key.collation.version
        month := left.month && !key.collation.month
        random := left.random && !key.collation.random
        foldsCase := left.foldsCase && !key.collation.foldsCase
        dictionary := left.dictionary && !key.collation.dictionary
        printable := left.printable && !key.collation.printable
        reversed := left.reversed && !key.collation.reversed : Collation }) asked
    let blanksLeft := blanks && sorting.keys.all fun key => !key.first.skipsBlanks
    let final := sorting.stable || sorting.unique
    let letters := (if blanksLeft then ['b'] else []) ++ { left with reversed := left.reversed && final }.letters
    let plain := { left with reversed := false } = ({} : Collation) && !blanksLeft
    (if !plain || (left.reversed && final && sorting.keys ≠ []) then
        [(if letters.length = 1 then "option '-" else "options '-") ++ String.ofList letters
          ++ (if letters.length = 1 then "' is ignored" else "' are ignored")]
      else [])
      ++ (if left.reversed && !final && sorting.keys ≠ [] then
        ["option '-r' only applies to last-resort comparison"] else [])

def notes (sorting : Sorting) (whole : Bool) (asked : Collation) (blanks : Bool) : List String :=
  let numbered := (List.range sorting.keys.length).zip sorting.keys
  let numeric := sorting.keys.any fun key => key.collation.isNumeric
  let spanning := !whole && sorting.keys.any fun key =>
    key.collation.isNumeric && (key.last.map fun last => decide (key.first.fields < last.fields)).getD true
  let mixed := fun (mark : Char) (meaning : String) =>
    if spanning && sorting.separator = some mark then
      ["field separator " ++ cited (String.ofList [mark]) ++ " is treated as a " ++ meaning ++ " in numbers"]
    else []
  ["text ordering performed using simple byte comparison"]
    ++ (if whole then [] else numbered.flatMap fun (place, key) => keyNotes sorting (place + 1) key)
    ++ mixed '.' "decimal point" ++ mixed '-' "minus sign"
    ++ (if numeric && !(spanning && sorting.separator = some '.') then
        [(if sorting.separator = some '.' then "" else "note ") ++ "numbers use " ++ cited "."
          ++ " as a decimal point in this locale"]
      else [])
    ++ unused sorting whole asked blanks

end Sorting

def orderWords : List (List String × Char) :=
  [(["general-numeric"], 'g'), (["human-numeric"], 'h'), (["month"], 'M'), (["numeric"], 'n'), (["random"], 'R'),
   (["version"], 'V')]

def excludes {α : Type} (letters : String) : Utility α := fail ("options '-" ++ letters ++ "' are incompatible") 2

/-- Takes keys in the old way out of the arguments: `+1 -2` instead of `-k 2,2`. The number bounds the arguments. -/
def withNewKeys : Nat → List String → List (String ⊕ SortKey)  → Utility (List (String ⊕ SortKey))
  | 0, _, done => return done.reverse
  | _, [], done => return done.reverse
  | fuel + 1, first :: rest, done => do
    if first = "--" then return done.reverse ++ (first :: rest).map Sum.inl
    let old := if first.startsWith "+" then SortKey.readOld? (first.toList.drop 1) else none
    match old, rest with
    | none, _ => withNewKeys fuel rest (.inl first :: done)
    | some key, [] => withNewKeys fuel rest (.inr key :: done)
    | some key, second :: more =>
      match second.toList with
      | '-' :: c :: _ =>
        if c.isDigit then
          match key.withOldEnd second with
          | .ok key => withNewKeys fuel more (.inr key :: done)
          | .error message => fail message 2
        else withNewKeys fuel rest (.inr key :: done)
      | _ => withNewKeys fuel rest (.inr key :: done)

def sort : Program := program do
  losing fun fault => ("fflush failed: 'standard output': " ++ fault.message ++ "\nsort: write error", 2)
  let given ← arguments
  let parts ← withNewKeys (given.length + 1) given []
  let oldKeys := parts.filterMap fun part => part.elim (fun _ => none) some
  let plain := parts.filterMap fun part => part.elim some fun _ => none
  let found ← scanArguments
    { flags := "bdfghiMnRrVcCmsuz", valued := "koStTy", failure := 2, lenient := ["check"],
      words := [("ignore-leading-blanks", "b", false), ("dictionary-order", "d", false),
                ("ignore-case", "f", false), ("general-numeric-sort", "g", false),
                ("human-numeric-sort", "h", false), ("ignore-nonprinting", "i", false), ("month-sort", "M", false),
                ("numeric-sort", "n", false), ("random-sort", "R", false), ("reverse", "r", false),
                ("version-sort", "V", false), ("check", "check", false), ("key", "k", true),
                ("merge", "m", false), ("output", "o", true), ("stable", "s", false), ("sort", "sort", true),
                ("field-separator", "t", true), ("unique", "u", false), ("zero-terminated", "z", false),
                ("parallel", "P", true), ("buffer-size", "S", true), ("temporary-directory", "T", true),
                ("batch-size", "N", true), ("compress-program", "C", true), ("random-source", "Q", true),
                ("debug", "debug", false), ("files0-from", "files0-from", true)] }
    (plain.length + 1) plain
  let mut asked : Collation := {}
  let mut keys := oldKeys
  let mut separator : Option Char := none
  let mut checks : Option Char := none
  let mut target : Option String := none
  for (key, value) in found.options do
    match key with
    | "k" =>
      match SortKey.read value with
      | .ok key => keys := keys ++ [key]
      | .error message => fail message 2
    | "t" =>
      let mark ← match value.toList with
        | [c] => pure c
        | ['\\', '0'] => pure '\x00'
        | [] => fail "empty tab" 2
        | _ => fail ("multi-character tab " ++ cited value) 2
      if separator.any (· ≠ mark) then fail "incompatible tabs" 2
      separator := some mark
    | "o" =>
      if target.any (· ≠ value) then fail "multiple output files specified" 2
      target := some value
    | "sort" => asked := (asked.with? (← choice "--sort" orderWords value 2)).getD asked
    | "c" | "C" | "check" =>
      let letter ← if key = "check" then
          (if value = "" then pure 'c'
           else choice "--check" [(["quiet", "silent"], 'C'), (["diagnose-first"], 'c')] value 2)
        else pure (key.toList.headD 'c')
      if checks.any (· ≠ letter) then excludes "cC"
      checks := some letter
    | _ => if key.length = 1 then asked := ((key.toList.head?.bind asked.with?).getD asked)
  let blanks := found.has "b"
  let debugging := found.has "debug"
  let everywhere : SortKey :=
    { first := { skipsBlanks := blanks }, collation := asked }
  let own := keys.map fun key =>
    if key.isPlain && !key.collation.reversed then
      { key with
        collation := asked
        first := { key.first with skipsBlanks := blanks }
        last := key.last.map fun last => { last with skipsBlanks := blanks } }
    else key
  let onlyKey := keys.isEmpty && !everywhere.isPlain
  let sorting : Sorting :=
    { separator, keys := if onlyKey then [everywhere] else own, reversed := asked.reversed
      stable := found.has "s", unique := found.has "u" }
  let files ← match found.value? "files0-from" with
    | none => pure (if found.operands.isEmpty then ["-"] else found.operands)
    | some list =>
      match found.operands with
      | extra :: _ =>
        warn ("extra operand " ++ quoted extra)
        say "file operands cannot be combined with --files0-from\n"
        say ("Try '" ++ (← name) ++ " --help' for more information.\n")
        throw 2
      | [] =>
        match ← contentOf list with
        | .error fault => fail ("cannot open " ++ quoted list ++ " for reading: " ++ fault.message) 2
        | .ok content =>
          let names := ((Octets.chars content).splitOn '\x00').filter (· ≠ []) |>.map String.ofList
          if names.isEmpty then fail ("no input from " ++ quoted list) 2
          pure names
  match sorting.keys.find? fun key => key.collation.clashes with
  | some key => excludes (String.ofList ({ key.collation with reversed := false }).letters)
  | none => pure ()
  if debugging then
    if checks.isSome || target.isSome then excludes (String.ofList [checks.getD 'o'] ++ " --debug")
    for note in sorting.notes onlyKey asked blanks do warn note
  let mark := if found.has "z" then '\x00' else '\n'
  match checks with
  | none => pure ()
  | some letter =>
    if 1 < files.length then
      fail ("extra operand " ++ quoted (files.getD 1 "") ++ " not allowed with -" ++ String.ofList [letter]) 2
    if target.isSome then excludes (String.ofList [letter, 'o'])
  let sortFault := fun (file : String) (fault : FileFault) (reading : Bool) =>
    if fault = .isAFolder then "read failed: " ++ named file ++ ": Is a directory"
    else (if file = "-" then "stat failed: "
      else if checks.isSome then "open failed: " else if reading then "read failed: " else "cannot read: ")
        ++ named file ++ ": " ++ fault.message
  if checks.isNone then
    for file in files do
      if file ≠ "-" then
        match ← withInput file fun _ => pure () with
        | .ok () => pure ()
        | .error fault => fail (sortFault file fault false) 2
    match target with
    | none => pure ()
    | some file =>
      match ← ask (.openFile (path file) .append (inputNumber + 1)) with
      | .error fault => fail ("open failed: " ++ named file ++ ": " ++ fault.message) 2
      | .ok () => ask (.setChannels ((← ask .channels).drop (inputNumber + 1)))
  let mut inputs : List (List (List Char)) := []
  for file in files do
    match ← contentOf file with
    | .ok content =>
      let pieces := (Octets.chars content).splitOn mark
      inputs := inputs ++ [if pieces.getLast? = some [] then pieces.dropLast else pieces]
    | .error fault => fail (sortFault file fault false) 2
  let lines := inputs.flatten
  match checks with
  | some letter =>
    match sorting.disorder? 1 lines with
    | none => return
    | some (number, line) =>
      if letter = 'c' then
        say ((← name) ++ ": " ++ files.headD "-" ++ ":" ++ toString number ++ ": disorder: "
          ++ String.ofList line ++ String.ofList [mark])
      throw 1
  | none => pure ()
  let wide ← spellsWide
  let result := if found.has "m" then sorting.united inputs else sorting.sorted lines
  let output := result.flatMap fun line => if debugging then sorting.explained wide line else ended line mark
  match target with
  | none => emit output
  | some file =>
    match ← ask (.openFile (path file) .write (inputNumber + 1)) with
    | .error fault => fail ("open failed: " ++ named file ++ ": " ++ fault.message) 2
    | .ok () =>
      let _ ← lift (Process.write (inputNumber + 1) (Octets.bytes output))

end Assay.Utility
