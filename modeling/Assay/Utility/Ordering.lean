import Assay.Utility.Basic
import Assay.Utility.Copying
import Assay.Utility.Sorting

/-!
Lines in order: finding those that repeat, comparing two lists of them, turning them round, and bringing them into any
order. Names in an order that agrees with pairs: the first one of each pair comes before the second one. Loops among the
pairs are told about and opened.
-/

namespace Assay.Utility

inductive Parting where
  | none | before | between | behind | around
deriving DecidableEq

/-- How lines are compared with the ones before, and what is shown of those that are alike. -/
structure Repeats where
  skipFields : Nat := 0
  skipChars : Nat := 0
  width : Option Nat := none
  ignoresCase : Bool := false
  counts : Bool := false
  single : Bool := true
  one : Bool := true
  others : Bool := false
  parting : Parting := .none
  groups : Parting := .none

def withoutFields : Nat → List Char → List Char
  | 0, line => line
  | count + 1, line =>
    withoutFields count ((line.dropWhile isBlank).dropWhile fun c => !isBlank c)

def Repeats.key (repeats : Repeats) (line : List Char) : List Char :=
  let rest := (withoutFields repeats.skipFields line).drop repeats.skipChars
  let part := (repeats.width.map fun width => rest.take width).getD rest
  if repeats.ignoresCase then part.map Char.toLower else part

/-- What is written for a group of lines that are alike. `first` tells that no repetition came before. -/
def Repeats.group (repeats : Repeats) (mark : Char) (first : Bool) (lines : List (List Char)) : List Char :=
  let front := if repeats.counts then rightAligned 7 (digitsOf lines.length) ++ [' '] else []
  match lines with
  | [] => []
  | [line] => if repeats.single then front ++ ended line mark else []
  | line :: _ =>
    let gap := if repeats.parting = .before ∨ (repeats.parting = .between ∧ !first) then [mark] else []
    let shown := if repeats.others then (if repeats.one then lines else lines.dropLast)
      else if repeats.one then [line] else []
    gap ++ shown.flatMap fun line => front ++ ended line mark

def Repeats.shown (repeats : Repeats) (mark : Char) (groups : List (List (List Char))) : List Char :=
  if repeats.groups = .none then
    (groups.foldl (fun (found : List (List Char) × Bool) group =>
      (repeats.group mark found.2 group :: found.1, found.2 && group.length < 2)) ([], true)).1.reverse.flatten
  else
    let texts := groups.map fun group => group.flatMap fun line => ended line mark
    match repeats.groups with
    | .before => texts.flatMap fun text => mark :: text
    | .around => (texts.flatMap fun text => mark :: text) ++ (if texts = [] then [] else [mark])
    | .behind => texts.flatMap fun text => text ++ [mark]
    | _ => [mark].intercalate texts

def uniq : Program := program do
  let found ← options
    { flags := "cdDiuz0123456789", valued := "fsw", lenient := ["all-repeated", "group"],
      words := [("count", "c", false), ("repeated", "d", false), ("all-repeated", "D", false),
                ("group", "group", false), ("ignore-case", "i", false), ("unique", "u", false),
                ("skip-fields", "f", true), ("skip-chars", "s", true), ("check-chars", "w", true),
                ("zero-terminated", "z", false)] }
  let number := fun (key : String) (what : String) => do
    match found.value? key with
    | none => pure none
    | some text =>
      match natural? text with
      | some n => pure (some n)
      | none => fail (text ++ ": invalid number of " ++ what)
  let parting ← match found.value? "D" with
    | none | some "" => pure Parting.none
    | some word =>
      choice "--all-repeated" [(["none"], Parting.none), (["prepend"], .before), (["separate"], .between)] word
  let groups ← match found.value? "group" with
    | none => pure Parting.none
    | some "" => pure .between
    | some word =>
      choice "--group" [(["prepend"], Parting.before), (["append"], .behind), (["separate"], .between),
        (["both"], .around)] word
  let fields ← number "f" "fields to skip"
  let chars ← number "s" "bytes to skip"
  let digits := (found.options.reverse.takeWhile (·.1 ≠ "f")).reverse.flatMap fun option =>
    option.1.toList.filter Char.isDigit
  let pluses := found.operands.filter fun word =>
    word.startsWith "+" && 1 < word.length && (word.toList.drop 1).all Char.isDigit
  let operands := found.operands.filter fun word => !pluses.contains word
  let repeats : Repeats :=
    { skipFields := if digits = [] then fields.getD 0 else Text.valueIn 10 digits
      skipChars := ((pluses.getLast?.map fun word => Text.valueIn 10 (word.toList.drop 1)).orElse fun _ => chars).getD 0
      width := ← number "w" "bytes to compare"
      ignoresCase := found.has "i"
      counts := found.has "c"
      single := !(found.has "d" || found.has "D")
      one := !found.has "u"
      others := found.has "D"
      parting, groups }
  match operands with
  | _ :: _ :: extra :: _ => misuse ("extra operand " ++ cited extra)
  | _ => pure ()
  if groups ≠ .none && ["c", "d", "D", "u"].any found.has then
    misuse "--group is mutually exclusive with -c/-d/-D/-u"
  if repeats.counts && repeats.others then
    misuse "printing all duplicated lines and repeat counts is meaningless"
  let mark := if found.has "z" then '\x00' else '\n'
  let file := operands.headD "-"
  match ← contentOf file with
  | .error fault =>
    fail ((if fault = .isAFolder || file = "-" then "error reading " ++ quoted file else named file)
      ++ ": " ++ fault.message)
  | .ok content =>
    let pieces := (Octets.chars content).splitOn mark
    let lines := if pieces.getLast? = some [] then pieces.dropLast else pieces
    let output := repeats.shown mark (lines.splitBy fun a b => repeats.key a = repeats.key b)
    match operands[1]? with
    | none | some "-" => emit output
    | some target =>
      match ← ask (.openFile (path target) .write (inputNumber + 1)) with
      | .error fault => fail (named target ++ ": " ++ fault.message)
      | .ok () =>
        let _ ← lift (Process.write (inputNumber + 1) (Octets.bytes output))

/-- Whether it is checked that lists are in order: never, once a line has no partner, or always. -/
inductive OrderCheck where
  | never | whenUnpaired | always
deriving DecidableEq

def OrderCheck.ofOptions (found : Found) : OrderCheck :=
  match found.last? ["check-order", "nocheck-order"] with
  | some "check-order" => .always
  | some _ => .never
  | none => .whenUnpaired

structure Row where
  passed : List (List Char) := []
  left : List (List Char)
  told : Bool := false

structure Pairing where
  first : Row
  second : Row
  unpaired : Bool := false
  counts : Nat × Nat × Nat := (0, 0, 0)

namespace Pairing

/-- Goes on in one list, and tells whether its lines are out of order there. At the end of the list the last two lines
are looked at again. -/
def step (check : OrderCheck) (unpaired : Bool) (row : Row) : Row × Bool :=
  let next := match row.left with
    | [] => row
    | line :: rest => { row with passed := line :: row.passed, left := rest }
  let pair := match next.left, next.passed with
    | line :: _, before :: _ => some (before, line)
    | [], line :: before :: _ => some (before, line)
    | _, _ => none
  let wrong := !next.told && (check = .always || (check = .whenUnpaired && unpaired))
    && pair.any fun (before, line) => decide (line < before)
  ({ next with told := next.told || wrong }, wrong)

def next? (pairing : Pairing) : Option (Nat × List Char) :=
  match pairing.first.left, pairing.second.left with
  | [], [] => none
  | a :: _, [] => some (1, a)
  | [], b :: _ => some (2, b)
  | a :: _, b :: _ => if a = b then some (3, a) else if a < b then some (1, a) else some (2, b)

/-- Goes on behind a line of a column, and gives the numbers of lists that are out of order. -/
def behind (check : OrderCheck) (pairing : Pairing) (column : Nat) : Pairing × List Nat :=
  let unpaired := pairing.unpaired || column ≠ 3
  let (first, wrongFirst) := if column = 2 then (pairing.first, false) else step check unpaired pairing.first
  let (second, wrongSecond) := if column = 1 then (pairing.second, false) else step check unpaired pairing.second
  let (ones, twos, boths) := pairing.counts
  ({ first, second, unpaired
     counts := (if column = 1 then ones + 1 else ones, if column = 2 then twos + 1 else twos,
       if column = 3 then boths + 1 else boths) },
   (if wrongFirst then [1] else []) ++ if wrongSecond then [2] else [])

end Pairing

def comm : Program := program do
  let found ← options
    { flags := "123z",
      words := [("output-delimiter", "O", true), ("check-order", "check-order", false),
                ("nocheck-order", "nocheck-order", false), ("total", "T", false), ("zero-terminated", "z", false)] }
  let mark := if found.has "z" then '\x00' else '\n'
  let delimiters := found.values "O"
  if 1 < delimiters.eraseDups.length then fail "multiple output delimiters specified"
  match found.operands with
  | [one, other] =>
    let lines := fun file : String => do
      match ← contentOf file with
      | .ok content =>
        let pieces := (Octets.chars content).splitOn mark
        pure (if pieces.getLast? = some [] then pieces.dropLast else pieces)
      | .error fault => fail (named file ++ ": " ++ fault.message)
    let lefts ← lines one
    let rights ← lines other
    let between := ((found.value? "O").map fun text => if text = "" then ['\x00'] else text.toList).getD ['\t']
    let check := OrderCheck.ofOptions found
    let hides := fun column : Nat => found.has (toString column)
    let mut pairing : Pairing := { first := { left := lefts }, second := { left := rights } }
    for _ in List.range (lefts.length + rights.length) do
      match pairing.next? with
      | none => pure ()
      | some (column, line) =>
        if !hides column then
          let before := ((List.range column).drop 1).filter fun other => !hides other
          emit ((before.flatMap fun _ => between) ++ ended line mark)
        let (next, wrong) := pairing.behind check column
        pairing := next
        for number in wrong do
          let message := "file " ++ toString number ++ " is not in sorted order"
          if check = .always then fail message else warn message
    if found.has "T" then
      let (ones, twos, boths) := pairing.counts
      emit (between.intercalate [digitsOf ones, digitsOf twos, digitsOf boths, "total".toList] ++ [mark])
    if pairing.first.told || pairing.second.told then fail "input is not in sorted order"
  | [] => misuse "missing operand"
  | [one] => misuse ("missing operand after " ++ cited one)
  | _ => misuse ("extra operand " ++ cited (found.operands.getD 2 ""))

def separated (mark : List Char) (before : Bool) : Nat → List Char → List Char → List (List Char)
  | 0, held, rest => [held.reverse ++ rest]
  | _, held, [] => if held = [] then [] else [held.reverse]
  | fuel + 1, held, c :: rest =>
    if mark.isPrefixOf (c :: rest) then
      let behind := (c :: rest).drop mark.length
      if before then
        (if held = [] then [] else [held.reverse]) ++ separated mark before fuel mark.reverse behind
      else (held.reverse ++ mark) :: separated mark before fuel [] behind
    else separated mark before fuel (c :: held) rest

def tac : Program := program do
  waiting
  let found ← options
    { flags := "br", valued := "s", words := [("separator", "s", true), ("before", "b", false), ("regex", "r", false)] }
  let given := ((found.value? "s").getD "\n").toList
  let mark := if given = [] then ['\x00'] else given
  let files := if found.operands.isEmpty then ["-"] else found.operands
  for file in files do
    match ← contentOf file with
    | .ok content =>
      let text := Octets.chars content
      emit (separated mark (found.has "b") (text.length + 1) [] text).reverse.flatten
    | .error .isAFolder => complain (named file ++ ": read error: Invalid argument")
    | .error fault =>
      complain (if file = "-" then quoted (inputName file) ++ ": read error: " ++ fault.message
        else "failed to open " ++ quoted file ++ " for reading: " ++ fault.message)
  if files.contains "-" then closeInput "-"

/-- Items in another order, which a seed tells; the number bounds them. -/
def shuffled {α : Type} : Nat → Nat → List α → List α
  | 0, _, items => items
  | fuel + 1, seed, items =>
    if items.isEmpty then []
    else
      let next := (seed * 6364136223846793005 + 1442695040888963407) % Nat.pow 2 64
      let place := next / Nat.pow 2 33 % items.length
      match items[place]? with
      | some item => item :: shuffled fuel next (items.eraseIdx place)
      | none => items

def shuf : Program := program do
  let found ← options
    { flags := "erz", valued := "inoR",
      words := [("echo", "e", false), ("repeat", "r", false), ("zero-terminated", "z", false),
        ("input-range", "i", true), ("head-count", "n", true), ("output", "o", true), ("random-source", "R", true)] }
  let mark := if found.has "z" then '\x00' else '\n'
  let limits ← (found.values "n").mapM fun text => do
    match natural? text with
    | some count => pure count
    | none => fail ("invalid line count: " ++ cited text)
  if 1 < (found.values "i").length then fail "multiple -i options specified"
  if 1 < (found.values "o").eraseDups.length then fail "multiple output files specified"
  if found.has "e" && found.has "i" then misuse "cannot combine -e and -i options"
  let items ← match found.value? "i" with
    | some text =>
      let low := text.toList.takeWhile (· ≠ '-')
      let high := text.toList.drop (low.length + 1)
      match natural? (String.ofList low), natural? (String.ofList high) with
      | some first, some last =>
        if last + 1 < first then fail ("invalid input range: " ++ cited text)
        match found.operands with
        | extra :: _ => misuse ("extra operand " ++ cited extra)
        | [] => pure ((List.range (last + 1 - first)).map fun place => digitsOf (first + place))
      | _, _ => fail ("invalid input range: " ++ cited text)
    | none =>
      if found.has "e" then pure (found.operands.map String.toList)
      else
        match found.operands with
        | _ :: extra :: _ => misuse ("extra operand " ++ cited extra)
        | files =>
          let file := files.headD "-"
          match ← contentOf file with
          | .error .isAFolder => fail "read error: Is a directory"
          | .error fault => fail (named file ++ ": " ++ fault.message)
          | .ok content =>
            let pieces := (Octets.chars content).splitOn mark
            pure (if pieces.getLast? = some [] then pieces.dropLast else pieces)
  let limit := limits.foldl (fun (least : Option Nat) count => some ((least.map (min count)).getD count)) none
  let seed := (← ask .clock) + 7919 * (← ask .number)
  let chosen ← if found.has "r" then
      if items.isEmpty && limit ≠ some 0 then fail "no lines to repeat"
      else
        let count := limit.getD 1000000
        pure ((List.range count).filterMap fun place => ((shuffled 1 (seed + place) items).head?))
    else pure ((shuffled items.length seed items).take (limit.getD items.length))
  let output := chosen.flatMap fun item => ended item mark
  match found.value? "o" with
  | none => emit output
  | some file =>
    match ← ask (.openFile (path file) .write (inputNumber + 1)) with
    | .error fault => fail (named file ++ ": " ++ fault.message)
    | .ok () =>
      let _ ← lift (Process.write (inputNumber + 1) (Octets.bytes output))

/-- The names with what is known about the order between them. Each name goes by its place among all names in
alphabetical order. -/
structure Precedence where
  names : Array String
  waiting : Array Nat
  followers : Array (List Nat)
  written : List Nat := []
  links : List (Nat × Nat) := []
  trace : Option Nat := none

namespace Precedence

def ofPairs (pairs : List (String × String)) : Precedence :=
  let all := (pairs.flatMap fun (one, other) => [one, other]).mergeSort fun a b => a ≤ b
  let names := all.foldr (fun name (kept : List String) => if kept.head? = some name then kept else name :: kept) []
  let place := fun name : String => (names.findIdx? (· = name)).getD 0
  let empty : Precedence :=
    { names := names.toArray, waiting := (names.map fun _ => 0).toArray, followers := (names.map fun _ => []).toArray }
  pairs.foldl (fun (order : Precedence) (one, other) =>
    if one = other then order
    else
      { order with
        waiting := order.waiting.modify (place other) (· + 1)
        followers := order.followers.modify (place one) (place other :: ·) }) empty

def places (order : Precedence) : List Nat := List.range order.names.size

/-- Writes the names of a queue and those that become free by it; the number bounds them. -/
def run (order : Precedence) : Nat → List Nat → List Nat → Precedence × List Nat
  | 0, _, out => (order, out)
  | _, [], out => (order, out)
  | fuel + 1, first :: rest, out =>
    let (waiting, freed) := (order.followers.getD first []).foldl (fun (found : Array Nat × List Nat) next =>
      let waiting := found.1.modify next (· - 1)
      (waiting, if waiting.getD next 0 = 0 then found.2 ++ [next] else found.2)) (order.waiting, [])
    run { order with waiting, written := first :: order.written } fuel (rest ++ freed) (first :: out)

def retrace (order : Precedence) (stop : Nat) : Nat → Nat → List Nat
  | 0, _ => []
  | fuel + 1, place =>
    if place = stop then [place]
    else place :: ((order.links.lookup place).map (order.retrace stop fuel)).getD []

/-- Looks at one name on the search for a loop. If one is found, its names are given, and it is opened. -/
def look (order : Precedence) (place : Nat) : Precedence × Option (List Nat) :=
  if order.waiting.getD place 0 = 0 then (order, none)
  else
    match order.trace with
    | none => ({ order with trace := some place }, none)
    | some trace =>
      let followers := order.followers.getD place []
      if !followers.contains trace then (order, none)
      else if (order.links.lookup place).isSome then
        let loop := order.retrace place (order.names.size + 1) trace
        ({ order with
            waiting := order.waiting.modify trace (· - 1)
            followers := order.followers.modify place (·.erase trace)
            links := [], trace := none }, some loop)
      else ({ order with links := (place, trace) :: order.links, trace := some place }, none)

/-- Goes through all names until a loop is found; the number bounds how often. -/
def openLoop (order : Precedence) : Nat → Precedence × List Nat
  | 0 => (order, [])
  | fuel + 1 =>
    let (order, loop) := order.places.foldl (fun (found : Precedence × Option (List Nat)) place =>
      match found.2 with
      | some _ => found
      | none => found.1.look place) (order, none)
    match loop with
    | some loop => (order, loop)
    | none => if order.trace.isNone then (order, []) else order.openLoop fuel

end Precedence

/-- Writes all names in order; the number bounds the loops among them. -/
def writeOrder (file : String) : Nat → Precedence → Utility Unit
  | 0, _ => return
  | fuel + 1, order => do
    let start := order.places.filter fun place => order.waiting.getD place 0 = 0 && !order.written.contains place
    let (next, out) := order.run (order.names.size + 1) start []
    for place in out.reverse do emitText (order.names.getD place "" ++ "\n")
    if next.written.length < next.names.size then
      complain (named file ++ ": input contains a loop:")
      let (opened, loop) := next.openLoop (next.names.size * next.names.size + 2)
      for place in loop do warn (next.names.getD place "")
      writeOrder file fuel opened

def pairsOf : List String → List (String × String)
  | one :: other :: rest => (one, other) :: pairsOf rest
  | _ => []

def tsort : Program := program do
  let found ← options {}
  match found.operands with
  | _ :: extra :: _ => misuse ("extra operand " ++ cited extra)
  | operands =>
    let file := operands.headD "-"
    match ← contentOf file with
    | .error .isAFolder => fail (named file ++ ": read error: Is a directory")
    | .error fault => fail (named file ++ ": " ++ fault.message)
    | .ok content =>
      let words := ((Octets.chars content).splitOnP fun c => c = ' ' || c = '\t' || c = '\n').filter (· ≠ [])
      if words.length % 2 = 1 then fail (named file ++ ": input contains an odd number of tokens")
      let pairs := pairsOf (words.map String.ofList)
      writeOrder file (pairs.length + 1) (Precedence.ofPairs pairs)

end Assay.Utility
