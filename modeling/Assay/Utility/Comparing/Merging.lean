import Assay.Utility.Comparing.Start

/-!
Three texts compared: where one of them differs from both others, and how the changes from one to a second are made
in a third.
-/

namespace Assay.Utility

open Text (Change)

namespace Comparing

/-- Lines of a text by their numbers from one on. An empty range ends before its beginning. -/
structure Range where
  low : Int
  high : Int

namespace Range

def size (range : Range) : Nat := (range.high - range.low + 1).toNat

def lines (range : Range) (text : Array (List Char)) : List (List Char) :=
  (text.extract (range.low - 1).toNat range.high.toNat).toList

end Range

structure Step where
  own : Range
  shared : Range

def Step.ofChange (change : Change) : Step where
  own := { low := change.start + 1, high := change.start + change.removed }
  shared := { low := change.place + 1, high := change.place + change.added }

inductive Odd
  | none
  | first
  | second
  | shared
deriving DecidableEq

structure Block where
  first : Range
  second : Range
  shared : Range
  odd : Odd

structure Ladder where
  taken : List Step × List Step := ([], [])
  left : List Step × List Step
  high : Int
  fromFirst : Bool

/-- Takes steps of the other text as long as they meet what has been taken; the number bounds the steps. -/
def Ladder.climb : Nat → Ladder → Ladder
  | 0, ladder => ladder
  | fuel + 1, ladder =>
    let other := if ladder.fromFirst then ladder.left.2 else ladder.left.1
    match other with
    | [] => ladder
    | step :: rest =>
      if ladder.high + 1 < step.shared.low then ladder
      else
        let next : Ladder := if ladder.fromFirst then
            { ladder with taken := (ladder.taken.1, ladder.taken.2 ++ [step]), left := (ladder.left.1, rest) }
          else { ladder with taken := (ladder.taken.1 ++ [step], ladder.taken.2), left := (rest, ladder.left.2) }
        climb fuel (if ladder.high < step.shared.high then
            { next with high := step.shared.high, fromFirst := !ladder.fromFirst }
          else next)

/-- The range of a text that belongs to a range of the shared one. Without steps both went together since the last
block. -/
def ownRange (steps : List Step) (low high : Int) (last : Range × Range) : Range :=
  match steps.head?, steps.getLast? with
  | some head, some tail =>
    { low := low - head.shared.low + head.own.low, high := high - tail.shared.high + tail.own.high }
  | _, _ =>
    { low := low - last.2.high + last.1.high, high := high - last.2.high + last.1.high }

/-- The blocks of three texts, from the steps of the first and the second to the shared one; the number bounds them. -/
def blocks (first second : Array (List Char)) : Nat → List Step → List Step → Block → List Block
  | 0, _, _, _ => []
  | fuel + 1, ones, twos, last =>
    let start : Option (Ladder × Int) := match ones, twos with
      | [], [] => none
      | one :: rest, [] =>
        some ({ taken := ([one], []), left := (rest, []), high := one.shared.high, fromFirst := true }, one.shared.low)
      | [], two :: rest =>
        some ({ taken := ([], [two]), left := ([], rest), high := two.shared.high, fromFirst := false }, two.shared.low)
      | one :: rest, two :: others =>
        if two.shared.low < one.shared.low then
          some ({ taken := ([], [two]), left := (one :: rest, others), high := two.shared.high, fromFirst := false },
            two.shared.low)
        else
          some ({ taken := ([one], []), left := (rest, two :: others), high := one.shared.high, fromFirst := true },
            one.shared.low)
    match start with
    | none => []
    | some (bottom, low) =>
      let ladder := bottom.climb (ones.length + twos.length + 1)
      let one := ownRange ladder.taken.1 low ladder.high (last.first, last.shared)
      let two := ownRange ladder.taken.2 low ladder.high (last.second, last.shared)
      let odd := if ladder.taken.1.isEmpty then Odd.second
        else if ladder.taken.2.isEmpty then Odd.first
        else if one.lines first = two.lines second then Odd.shared
        else Odd.none
      let block : Block := { first := one, second := two, shared := { low, high := ladder.high }, odd }
      block :: blocks first second fuel ladder.left.1 ladder.left.2 block

/-- Three texts in their order, and blocks with their ranges in that order. The place of the odd one counts from
zero. -/
structure Three where
  texts : List (Array (List Char))
  blocks : List (List Range × Option Nat)

def withEnd (lines : List (List Char)) : List (List Char) :=
  match lines.getLast? with
  | some line => if line.getLast? = some '\n' then lines else lines.dropLast ++ [line ++ ['\n']]
  | none => []

/-- Compares three texts. With `around` the second one is what both others are compared with, else the third; with
`ended` last lines get their ends once they have been compared. The number tells how many changed lines lack them. -/
def Three.ofTexts (rule : LineRule) (around ended : Bool) (one two three : List (List Char)) : Three × Nat :=
  let (second, shared) := if around then (three, two) else (two, three)
  let changes := fun text : List (List Char) => rule.changes 100 text shared
  let lacking := fun text : List (List Char) =>
    ((changes text).map fun change =>
      (((text.drop change.start).take change.removed ++ (shared.drop change.place).take change.added).filter
        fun line => line.getLast? ≠ some '\n').length).foldl (· + ·) 0
  let (ones, twos) := ((changes one).map Step.ofChange, (changes second).map Step.ofChange)
  let count := lacking one + lacking second
  let settled := fun text : List (List Char) => (if ended then withEnd text else text).toArray
  let zero : Range := { low := 0, high := 0 }
  let found := Comparing.blocks (settled one) (settled second) (ones.length + twos.length + 1) ones twos
    { first := zero, second := zero, shared := zero, odd := .none }
  ({ texts := [settled one, settled two, settled three]
     blocks := found.map fun block =>
      ([block.first, if around then block.shared else block.second, if around then block.second else block.shared],
        match block.odd with
        | .none => none
        | .first => some 0
        | .second => some (if around then 2 else 1)
        | .shared => some (if around then 1 else 2)) }, count)

namespace Three

def rangeAt (ranges : List Range) (place : Nat) : Range := (ranges[place]?).getD { low := 1, high := 0 }

def linesAt (three : Three) (ranges : List Range) (place : Nat) : List (List Char) :=
  (rangeAt ranges place).lines ((three.texts[place]?).getD #[])

def told (three : Three) (tabbed : Bool) : List Char :=
  three.blocks.flatMap fun (ranges, odd) =>
    let hidden := match odd with
      | none => 3
      | some 0 => 1
      | some _ => 0
    let order := if odd = some 1 then [0, 2, 1] else [0, 1, 2]
    let part := fun place : Nat =>
      let range := rangeAt ranges place
      let head := toString (place + 1) ++ ":" ++
        (if range.size = 0 then toString range.high ++ "a"
          else if range.size = 1 then toString range.low ++ "c"
          else toString range.low ++ "," ++ toString range.high ++ "c") ++ "\n"
      let lines := three.linesAt ranges place
      let shown := lines.flatMap fun line => (if tabbed then ['\t'] else [' ', ' ']) ++ line
      let ending := if lines.getLast?.any fun line => decide (line.getLast? ≠ some '\n') then
          "\n\\ No newline at end of file\n".toList
        else []
      head.toList ++ if place = hidden then [] else shown ++ ending
    ("====" ++ (odd.map fun place => toString (place + 1)).getD "" ++ "\n").toList ++ order.flatMap part

structure Policy where
  showsSecond : Bool := false
  flags : Bool := false
  overlapsOnly : Bool := false
  simpleOnly : Bool := false
  labels : List String := []

def Policy.label (policy : Policy) (place : Nat) : String := (policy.labels[place]?).getD ""

def Policy.conflicts? (policy : Policy) : Option Nat → Option Bool
  | none => if policy.simpleOnly then none else some policy.flags
  | some 1 => if policy.showsSecond then some true else none
  | some 2 => if policy.overlapsOnly then none else some false
  | some _ => none

/-- The first text with the changes from the second to the third one, and whether there were conflicts. -/
def merged (three : Three) (policy : Policy) : List Char × Bool :=
  let base := (three.texts[0]?).getD #[]
  let (made, here, any) := three.blocks.foldl (fun (made, here, any) (ranges, odd) =>
    match policy.conflicts? odd with
    | none => (made, here, any)
    | some conflict =>
      let own := rangeAt ranges 0
      let before := (base.extract here (own.low - 1).toNat).toList.flatten
      let part := fun place : Nat => (three.linesAt ranges place).flatten
      let front := if !conflict then []
        else
          (if odd = none then ("<<<<<<< " ++ policy.label 0 ++ "\n").toList ++ part 0 else [])
            ++ (if policy.showsSecond then
                ((if odd = none then "||||||| " else "<<<<<<< ") ++ policy.label 1 ++ "\n").toList ++ part 1
              else [])
            ++ "=======\n".toList
      let back := if conflict then (">>>>>>> " ++ policy.label 2 ++ "\n").toList else []
      (made ++ before ++ front ++ part 2 ++ back, own.high.toNat, any || conflict)) (([] : List Char), 0, false)
  (made ++ (base.extract here base.size).toList.flatten, any)

/-- Lines as an editor takes them: a dot in front is doubled. The flag tells that there was one. -/
def dotted (lines : List (List Char)) : List Char × Bool :=
  (lines.flatMap fun line => if line.head? = some '.' then '.' :: line else line,
    lines.any fun line => decide (line.head? = some '.'))

/-- The end of lines for an editor; dots that were doubled in them become single again. -/
def undotted (doubled : Bool) (start : Int) (count : Nat) : List Char :=
  let strip := "s/^\\.//\n"
  ".\n".toList ++
    (if !doubled then ""
      else if count = 1 then toString start ++ strip
      else toString start ++ "," ++ toString (start + count - 1) ++ strip).toList

/-- The commands of an editor that make these changes, from the last block on, and whether there were conflicts. -/
def edited (three : Three) (policy : Policy) : List Char × Bool :=
  three.blocks.reverse.foldl (fun (made, any) (ranges, odd) =>
    match policy.conflicts? odd with
    | none => (made, any)
    | some conflict =>
      let own := rangeAt ranges 0
      let count := fun place : Nat => (rangeAt ranges place).size
      let part := fun place : Nat => dotted (three.linesAt ranges place)
      if conflict then
        let (second, secondDots) := part 1
        let (third, thirdDots) := part 2
        let (body, dots) := if odd = none then
            ((if policy.showsSecond then ("||||||| " ++ policy.label 1 ++ "\n").toList ++ second else [])
                ++ "=======\n".toList ++ third,
              (policy.showsSecond && secondDots) || thirdDots)
          else ([], false)
        let ending := (toString own.high ++ "a\n").toList ++ body ++ (">>>>>>> " ++ policy.label 2 ++ "\n").toList
          ++ undotted dots (own.high + 2) (count 1 + count 2 + 1)
        let (front, frontDots) := if odd = some 1 then (second ++ "=======\n".toList, secondDots) else ([], false)
        let beginning := (toString (own.low - 1) ++ "a\n<<<<<<< "
            ++ policy.label (if odd = none then 0 else 1) ++ "\n").toList ++ front
          ++ undotted frontDots (own.low + 1) (count 1)
        (made ++ ending ++ beginning, true)
      else if count 2 = 0 then
        let rows := if own.low = own.high then toString own.low else toString own.low ++ "," ++ toString own.high
        (made ++ (rows ++ "d\n").toList, any)
      else
        let rows := if own.size = 0 then toString own.high ++ "a"
          else if own.size = 1 then toString own.high ++ "c"
          else toString own.low ++ "," ++ toString own.high ++ "c"
        let (text, dots) := part 2
        (made ++ (rows ++ "\n").toList ++ text ++ undotted dots own.low (count 2), any)) (([] : List Char), false)

end Three

def diff3Options : Options :=
  { flags := "aeimvx3AETX", valued := "L", failure := 2, signed := true
    words :=
      [("text", "a", false), ("show-all", "A", false), ("ed", "e", false), ("show-overlap", "E", false),
       ("label", "L", true), ("merge", "m", false), ("initial-tab", "T", false), ("overlap-only", "x", false),
       ("easy-only", "3", false), ("version", "v", false), ("strip-trailing-cr", "cr", false),
       ("diff-program", "program", true)] }

def linesOfFile (scheme : Scheme) (file : String) : Utility (List (List Char)) := do
  match ← contentOf file with
  | .ok content => return linesWithEnds (scheme.prepared (Octets.chars content))
  | .error fault => fail (file ++ ": " ++ fault.message) 2

end Comparing

open Comparing

def diff3 : Program := program do
  losing fun fault => ("standard output: " ++ fault.message, 2)
  let given ← arguments
  let found ← options diff3Options
  if found.has "v" then
    emitText "diff3\n"
    throw 0
  let asked := found.options.filter fun option => "AxXEe3".toList.contains (option.1.toList.headD ' ') && option.1.length = 1
  let merges := found.has "m"
  let edits := !asked.isEmpty && !merges
  let all := merges && asked.isEmpty
  let labels := found.values "L"
  let flags := all || found.has "A" || found.has "E"
  if 3 < labels.length then diff3Options.misused "too many file label options"
  if 1 < asked.length || (found.has "i" && merges) || (!labels.isEmpty && !flags) then
    diff3Options.misused "incompatible options"
  match found.operands with
  | [one, two, three] =>
    let around := edits || merges
    let (shared, other) := if around then (two, three) else (three, two)
    let swapped := shared = "-"
    if swapped && (one = "-" || other = "-") then fail "'-' specified for more than one input file" 2
    for file in [one, two, three] do
      if file ≠ "-" then
        match ← Side.ofPath file with
        | .lost fault => fail (file ++ ": " ++ fault.message) 2
        | side => if side.isFolder then fail (file ++ ": " ++ FileFault.isAFolder.message) 2
    let scheme : Scheme := { dropsReturns := found.has "cr" }
    let later ← [two, three].mapM (linesOfFile scheme)
    let first ← linesOfFile scheme one
    let (compared, lacking) := Three.ofTexts {} (around != swapped) edits first (later.getD 0 []) (later.getD 1 [])
    if edits then
      for _ in List.range lacking do warn "No newline at end of file"
    let policy : Three.Policy :=
      { showsSecond := all || found.has "A", flags, overlapsOnly := found.has "x" || found.has "X"
        simpleOnly := found.has "3"
        labels := labels ++ [one, two, three].drop labels.length }
    if edits then
      let (text, conflicts) := compared.edited policy
      emit text
      if found.has "i" then emitText "w\nq\n"
      if conflicts then throw 1
    else if merges then
      let (text, conflicts) := compared.merged policy
      emit text
      if conflicts then throw 1
    else emit (compared.told (found.has "T"))
  | _ :: _ :: _ :: extra :: _ => diff3Options.misused ("extra operand '" ++ extra ++ "'")
  | _ => diff3Options.misused ("missing operand after '" ++ lastWord found given "diff3" ++ "'")

def sdiffOptions : Options :=
  { flags := "abBdEHilstvWZ", valued := "Iow", failure := 2, signed := true
    words :=
      [("diff-program", "program", true), ("expand-tabs", "t", false), ("help", "help", false),
       ("ignore-all-space", "W", false), ("ignore-blank-lines", "B", false), ("ignore-case", "i", false),
       ("ignore-matching-lines", "I", true), ("ignore-space-change", "b", false), ("ignore-tab-expansion", "E", false),
       ("ignore-trailing-space", "Z", false), ("left-column", "l", false), ("minimal", "d", false), ("output", "o", true),
       ("speed-large-files", "H", false), ("strip-trailing-cr", "cr", false), ("suppress-common-lines", "s", false),
       ("tabsize", "size", true), ("text", "a", false), ("version", "v", false), ("width", "w", true)] }

def sdiff : Program := starting fun become => do
  losing fun fault => ("standard output: " ++ fault.message, 2)
  let given ← arguments
  let found ← options sdiffOptions
  if found.has "v" then
    emitText "sdiff\n"
    throw 0
  match found.operands with
  | [one, two] =>
    let words := found.options.flatMap fun (key, value) =>
      match key with
      | "I" => ["-I", value]
      | "w" => ["-W", value]
      | "W" => ["-w"]
      | "l" => ["--left-column"]
      | "cr" => ["--strip-trailing-cr"]
      | "size" => ["--tabsize", value]
      | "s" | "o" | "program" => []
      | _ => ["-" ++ key]
    let hides := if found.has "s" then ["--suppress-common-lines"] else []
    let environment := (← get).call.environment
    let fault ← lift (Program.becomeNamed become environment "diff" (words ++ hides ++ ["-y", "--", one, two]))
    fail ("diff: " ++ fault.message) 2
  | _ :: _ :: extra :: _ => sdiffOptions.misused ("extra operand '" ++ extra ++ "'")
  | _ => sdiffOptions.misused ("missing operand after '" ++ lastWord found given "sdiff" ++ "'")

end Assay.Utility
