import Assay.Text.Regex
import Assay.Text.Trial.Reader
import Assay.Utility.Reading

/-!
The colors in which lines that were found are shown.
-/

namespace Assay.Utility

structure Palette where
  selectedMatch : String := "01;31"
  contextMatch : String := "01;31"
  selectedLine : String := ""
  contextLine : String := ""
  fileName : String := "35"
  lineNumber : String := "32"
  offset : String := "32"
  separator : String := "36"
  reversed : Bool := false
  clears : Bool := true

namespace Palette

def start (palette : Palette) (color : String) : String :=
  if color = "" then "" else "\x1b[" ++ color ++ "m" ++ (if palette.clears then "\x1b[K" else "")

def paint (palette : Palette) (color text : String) : String :=
  if color = "" then text else palette.start color ++ text ++ "\x1b[m" ++ (if palette.clears then "\x1b[K" else "")

def isColor (text : List Char) : Bool := text.all fun c => c.isDigit || c = ';'

def set (palette : Palette) (name : String) (value : Option String) : Palette :=
  match name, value with
  | "rv", _ => { palette with reversed := true }
  | "ne", _ => { palette with clears := false }
  | _, none => palette
  | "mt", some color => { palette with selectedMatch := color, contextMatch := color }
  | "ms", some color => { palette with selectedMatch := color }
  | "mc", some color => { palette with contextMatch := color }
  | "sl", some color => { palette with selectedLine := color }
  | "cx", some color => { palette with contextLine := color }
  | "fn", some color => { palette with fileName := color }
  | "ln", some color => { palette with lineNumber := color }
  | "bn", some color => { palette with offset := color }
  | "se", some color => { palette with separator := color }
  | _, _ => palette

/-- Sets colors as a text with colons between them tells, up to the first that is not well written. -/
def withColors (palette : Palette) (text : String) : Palette :=
  let items := text.toList.splitOn ':'
  let fine := fun item : List Char =>
    match item.dropWhile (· ≠ '=') with
    | [] => true
    | _ :: value => item.head? ≠ some '=' && isColor value
  (items.takeWhile fine).foldl (fun palette item =>
    let name := item.takeWhile (· ≠ '=')
    palette.set (String.ofList name)
      (if name.length = item.length then none else some (String.ofList (item.drop (name.length + 1))))) palette

end Palette

end Assay.Utility

namespace Assay.Utility

open Text (Regex Trial)

inductive OnBinary
  | tell
  | skip
  | readAnyway
deriving DecidableEq

structure Search where
  patterns : List Regex := []
  style : Regex.Style := {}
  trial : Option (Trial × List (Nat × Trial)) := none
  words : Bool := false
  wholeLines : Bool := false
  inverted : Bool := false
  counts : Bool := false
  names : Option Bool := none
  quiet : Bool := false
  onlyParts : Bool := false
  numbers : Bool := false
  offsets : Bool := false
  withNames : Bool := false
  most : Option Nat := none
  before : Nat := 0
  after : Nat := 0
  context : Bool := false
  separator : Option String := some "--"
  onBinary : OnBinary := .tell
  mark : Char := '\n'
  palette : Option Palette := none
  nullNames : Bool := false
  aligned : Bool := false

namespace Search

def wide (search : Search) : Bool := search.style.wide

def isSilent (search : Search) : Bool := search.quiet || search.counts || search.names.isSome

def stopAt? (search : Search) (subject : Regex.Subject) (start : Nat) (regex : Regex) : Option Nat :=
  if Regex.hasBack regex || search.wholeLines || search.words then
    (Regex.stops subject regex start).find? fun stop =>
      (!search.wholeLines || (start = 0 && stop = subject.chars.size))
        && (search.wholeLines || !search.words
          || (!subject.isWord (subject.before? start) && !subject.isWord (subject.at? stop)))
        && (!Regex.hasBack regex || (Regex.groupsOf subject regex start stop).isSome)
  else ((Regex.ends subject regex [(start, start)]).getLast?).map Prod.snd

/-- The first part that fits from a place on; the number bounds the places. -/
def partFrom? (search : Search) (subject : Regex.Subject) : Nat → Nat → Option (Nat × Nat)
  | 0, _ => none
  | fuel + 1, start =>
    if subject.chars.size < start then none
    else
      match search.patterns.filterMap (search.stopAt? subject start) with
      | [] => if search.wholeLines then none else partFrom? search subject fuel (start + 1)
      | stop :: others => some (start, others.foldl max stop)

def part? (search : Search) (subject : Regex.Subject) (start : Nat) : Option (Nat × Nat) :=
  match search.trial with
  | some (trial, groups) => Trial.part? { chars := subject.chars, wide := search.wide, groups } trial start
  | none => search.partFrom? subject (subject.chars.size + 2) start

/-- The parts of a line that fit and are not empty; the number bounds them. -/
def partsFrom (search : Search) (subject : Regex.Subject) : Nat → Nat → List (Nat × Nat)
  | 0, _ => []
  | fuel + 1, start =>
    match search.part? subject start with
    | none => []
    | some (first, stop) =>
      if stop ≤ first then partsFrom search subject fuel (max start first + 1)
      else (first, stop) :: partsFrom search subject fuel stop

def parts (search : Search) (subject : Regex.Subject) : List (Nat × Nat) :=
  search.partsFrom subject (subject.chars.size + 2) 0

def charsOf (search : Search) (line : List Char) : List Char :=
  if search.wide && line.any fun c => 128 ≤ c.toNat then Text.Characters.gather line else line

def subjectOf (search : Search) (chars : List Char) : Regex.Subject :=
  { chars := chars.toArray, style := search.style }

def selects (search : Search) (line : List Char) : Bool :=
  (search.part? (search.subjectOf (search.charsOf line)) 0).isSome != search.inverted

def octets (search : Search) (chars : List Char) : List Char :=
  if search.wide then Text.Characters.spread chars else chars

def isGarbled (search : Search) (chars : List Char) : Bool :=
  search.wide && search.onBinary ≠ .readAnyway && chars.any Text.Characters.isStray

def painted (search : Search) (color : Palette → String) (text : String) : String :=
  match search.palette with
  | some palette => palette.paint (color palette) text
  | none => text

end Search

structure Searched where
  name : String
  binary : Bool := false
  width : Nat := 0

structure SearchState where
  number : Nat := 0
  offset : Nat := 0
  selected : Nat := 0
  held : List (Nat × Nat × List Char) := []
  following : Nat := 0
  lastShown : Option Nat := none
  shown : Bool := false
  binaryFound : Bool := false

namespace Search

def front (search : Search) (file : Searched) (sign : String) (number offset : Nat) (empty : Bool) : List Char :=
  let mark := search.painted Palette.separator sign
  let figures := fun (count : Nat) =>
    let text := toString count
    String.ofList (List.replicate (file.width - text.length) ' ') ++ text
  let parts :=
    (if search.withNames then
      search.painted Palette.fileName file.name ++ (if search.nullNames then "\x00" else mark) else "")
    ++ (if search.numbers then search.painted Palette.lineNumber (figures number) ++ mark else "")
    ++ (if search.offsets then search.painted Palette.offset (figures offset) ++ mark else "")
  (parts ++ (if search.aligned && parts ≠ "" && !empty then "\t" else "")).toList

def shownLine (search : Search) (file : Searched) (context : Bool) (number offset : Nat) (line : List Char) :
    List Char × Bool :=
  let chars := search.charsOf line
  let sign := if context then "-" else ":"
  let matching := context = search.inverted
  let matchColor := fun palette : Palette => if context then palette.contextMatch else palette.selectedMatch
  if search.onlyParts then
    if !matching then ([], false)
    else
      (search.parts (search.subjectOf chars)).foldl (fun (text, missing) (start, stop) =>
        let part := (chars.drop start).take (stop - start)
        if search.isGarbled part then (text, true)
        else
          let place := offset + (search.octets (chars.take start)).length
          (text ++ search.front file sign number place false
            ++ (search.painted matchColor (String.ofList (search.octets part))).toList ++ [search.mark], missing))
        ([], false)
  else if search.isGarbled chars then ([], true)
  else
    let head := search.front file sign number offset line.isEmpty
    let body := match search.palette with
      | none => line
      | some palette =>
        let lineColor :=
          if (!context) != (search.inverted && palette.reversed) then palette.selectedLine else palette.contextLine
        let octets := fun chars : List Char => String.ofList (search.octets chars)
        let (text, place) : String × Nat :=
          if matching && matchColor palette ≠ "" then
            (search.parts (search.subjectOf chars)).foldl (fun (text, place) (start, stop) =>
              (text ++ palette.start lineColor ++ octets ((chars.drop place).take (start - place))
                ++ palette.paint (matchColor palette) (octets ((chars.drop start).take (stop - start))), stop)) ("", 0)
          else ("", 0)
        let tail := chars.drop place
        (text ++ (if tail = [] then "" else palette.paint lineColor (octets tail))).toList
    (head ++ body ++ [search.mark], false)

def binaryStep (search : Search) : LineStep SearchState := fun state line _ =>
  let selected := (line.splitOn '\x00').foldl (fun count piece =>
    if search.most.all (count < ·) && search.selects piece then count + 1 else count) state.selected
  let found : Bool := state.selected < selected
  { state := { state with selected, binaryFound := state.binaryFound || (found && !search.isSilent) }
    ends := (found && !search.counts) || search.most.any fun most => most ≤ selected }

def step (search : Search) (file : Searched) : LineStep SearchState := fun state line complete =>
  if file.binary then search.binaryStep state line complete
  else
  let number := state.number + 1
  let offset := state.offset + line.length + 1
  let moved := { state with number, offset }
  let exhausted := search.most.any fun most => decide (most ≤ state.selected)
  let found := !exhausted && search.selects line
  if found then
    let selected := state.selected + 1
    let full := search.most.any fun most => decide (most ≤ selected)
    let stops := search.quiet || search.names.isSome || (full && search.after = 0)
    if search.isSilent then { state := { moved with selected }, ends := stops }
    else
      let first := match state.held with
        | (before, _, _) :: _ => before
        | [] => number
      let gap := match search.separator with
        | some text =>
          if search.context && state.shown && state.lastShown ≠ some (first - 1) then
            (search.painted Palette.separator text).toList ++ ['\n'] else []
        | none => []
      let (earlier, lost) := state.held.foldl (fun (text, lost) (place, start, line) =>
        let (more, missing) := search.shownLine file true place start line
        (text ++ more, lost || missing)) (([] : List Char), false)
      let (body, missing) := search.shownLine file false number state.offset line
      { state :=
          { moved with
            selected, held := [], following := if missing then 0 else search.after, lastShown := some number
            shown := true, binaryFound := state.binaryFound || lost || missing }
        output := gap ++ earlier ++ body
        ends := stops }
  else if search.isSilent then { state := moved, ends := exhausted }
  else if 0 < state.following then
    let (text, missing) := search.shownLine file true number state.offset line
    { state :=
        { moved with
          following := state.following - 1, lastShown := some number, binaryFound := state.binaryFound || missing }
      output := text
      ends := exhausted && state.following = 1 }
  else if exhausted then { state := moved, ends := true }
  else
    { state :=
        { moved with
          held := if search.before = 0 then []
            else (state.held ++ [(number, state.offset, line)]).drop (state.held.length + 1 - search.before) } }

end Search

structure SearchOutcome where
  selected : Bool := false
  shown : Bool := false

def Search.width (search : Search) (size : Nat) : Nat :=
  if search.aligned then (toString (if search.numbers then size + 1 else size)).length else 0

def searchChannel (search : Search) (name : String) (number : Nat) (outcome : SearchOutcome) :
    Utility SearchOutcome := do
  let source ← ask (.standing number)
  let itself ← match source, ← ask (.standing 1) with
    | some source, some target => pure (source.serial = target.serial && !search.isSilent && search.most ≠ some 1)
    | _, _ => pure false
  if itself then
    complain (name ++ ": input file is also the output") 2
    return outcome
  match ← ask (.read number 32768) with
  | .error fault =>
    complain (name ++ ": " ++ fault.message) 2
    return outcome
  | .ok content =>
    let front := Octets.chars content
    let binary := search.onBinary ≠ .readAnyway && search.mark = '\n' && front.contains '\x00'
    let width := match source with
      | some standing => search.width standing.size
      | none => if search.aligned then 19 else 0
    let file : Searched := { name, binary, width }
    let start : Reel SearchState := { state := { shown := outcome.shown } }
    let skipped := binary && search.onBinary = .skip
    let first :=
      if content.isEmpty || skipped then start else start.turn search.mark (search.step file) front
    emitBytes first.output
    let returned := first.ends && number = 0 && !(search.quiet || search.names.isSome)
    if returned && first.left ≠ 0 then ask (.giveBack number first.left)
    let manner : LineManner := { mark := search.mark, returns := returned }
    let result : Except FileFault SearchState ←
      if first.ends || content.isEmpty || skipped then pure (.ok first.state)
      else readLines number manner (search.step file) Process.manySteps { first with output := .empty }
    match result with
    | .error fault =>
      complain (name ++ ": " ++ fault.message) 2
      return outcome
    | .ok state =>
      let any : Bool := 0 < state.selected
      if search.counts then
        emitText ((if search.withNames then
            search.painted Palette.fileName name
              ++ (if search.nullNames then "\x00" else search.painted Palette.separator ":") else "")
          ++ toString state.selected ++ "\n")
      if search.names = some any then
        emitText (search.painted Palette.fileName name ++ (if search.nullNames then "\x00" else "\n"))
      if state.binaryFound && search.onBinary = .tell then warn (name ++ ": binary file matches")
      return { selected := outcome.selected || any, shown := outcome.shown || state.shown }

end Assay.Utility
