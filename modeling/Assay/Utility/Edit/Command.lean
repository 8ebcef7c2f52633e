import Assay.Text.Regex

/-!
Scripts that edit texts line by line: commands of one letter, each behind the lines that it is meant for, and what takes
the place of the parts of a text that an expression fits.
-/

namespace Assay.Utility.Edit

open Text (Regex)

/-- An expression with the way it is fitted; without one the last that was used is meant. -/
abbrev Pattern := Option (Regex × Regex.Style)

inductive Address
  | line (number : Nat)
  | last
  | fits (pattern : Pattern)
  | stepped (first step : Nat)

inductive RangeEnd
  | at (address : Address)
  | after (count : Nat)
  | multiple (factor : Nat)

structure Selector where
  first : Option Address := none
  last : Option RangeEnd := none
  negated : Bool := false

inductive CaseChange
  | upper
  | lower
  | upperNext
  | lowerNext
  | stop

inductive Piece
  | text (chars : List Char)
  | group (number : Nat)
  | change (case : CaseChange)

inductive Target
  | output
  | errors
  | file (number : Nat)

structure Substitution where
  pattern : Pattern
  pieces : List Piece
  everywhere : Bool := false
  occurrence : Nat := 1
  prints : Bool := false
  runs : Bool := false
  printsBefore : Bool := false
  target : Option Target := none

inductive Action
  | block (close : Nat)
  | close
  | substitute (substitution : Substitution)
  | transliterate (table : List (Char × Char))
  | delete
  | deleteFirst
  | print
  | printFirst
  | next
  | appendNext
  | quit (status : Nat) (silent : Bool)
  | append (text : List Char)
  | insert (text : List Char)
  | change (text : List Char)
  | hold (adds : Bool)
  | fetch (adds : Bool)
  | exchange
  | number
  | list (width : Option Nat)
  | branch (label : String)
  | branchIf (label : String) (replaced : Bool)
  | label (name : String)
  | readFile (name : String)
  | readLine (name : String)
  | writeFile (target : Target) (firstOnly : Bool)
  | fileName
  | clear
  | run (command : List Char)
  | nothing

structure Command where
  selector : Selector
  action : Action

def Action.goal? : Action → Option String
  | branch goal | branchIf goal _ => if goal = "" then none else some goal
  | _ => none

structure Script where
  commands : Array Command
  files : List String

def Script.place? (script : Script) (label : String) : Option Nat :=
  script.commands.findIdx? fun command => match command.action with
    | .label name => name = label
    | _ => false

structure Casing where
  next : Option Bool := none
  all : Option Bool := none

def cased (wide upper : Bool) (c : Char) : Char :=
  match wide, upper with
  | true, true => Text.Alphabet.upper c
  | true, false => Text.Alphabet.lower c
  | false, true => c.toUpper
  | false, false => c.toLower

def Casing.apply (wide : Bool) (casing : Casing) : List Char → List Char × Casing
  | [] => ([], casing)
  | c :: rest =>
    let changed := fun d : Char => match casing.all with
      | some upper => cased wide upper d
      | none => d
    let first := match casing.next with
      | some upper => cased wide upper c
      | none => changed c
    (first :: rest.map changed, { casing with next := none })

def between (subject : Regex.Subject) (start stop : Nat) : List Char := (subject.chars.extract start stop).toList

def replacement (subject : Regex.Subject) (found : Regex.Match) (pieces : List Piece) : List Char :=
  (pieces.foldl (fun (made : List Char × Casing) piece =>
    match piece with
    | .text chars =>
      let (shown, casing) := made.2.apply subject.style.wide chars
      (made.1 ++ shown, casing)
    | .group number =>
      let chars := if number = 0 then between subject found.start found.stop
        else match found.groups.lookup number with
          | some (start, stop) => between subject start stop
          | none => []
      let (shown, casing) := made.2.apply subject.style.wide chars
      (made.1 ++ shown, casing)
    | .change .upper => (made.1, { next := none, all := some true })
    | .change .lower => (made.1, { next := none, all := some false })
    | .change .upperNext => (made.1, { made.2 with next := some true })
    | .change .lowerNext => (made.1, { made.2 with next := some false })
    | .change .stop => (made.1, {})) ([], {})).1

structure Progress where
  start : Nat := 0
  count : Nat := 0
  before : Option Nat := none
  made : List (List Char) := []
  any : Bool := false

namespace Progress

def text (progress : Progress) (subject : Regex.Subject) : List Char :=
  (progress.made.reverse.foldr (· ++ ·) (between subject progress.start subject.chars.size))

def past (progress : Progress) (subject : Regex.Subject) (place : Nat) : Progress :=
  { progress with start := place + 1, before := none, made := between subject place (place + 1) :: progress.made }

/-- Goes on as long as parts are to be replaced; the number bounds the parts. -/
def run (substitution : Substitution) (subject : Regex.Subject) (regex : Regex) : Nat → Progress → Progress
  | 0, progress => progress
  | fuel + 1, progress =>
    match Regex.find? subject regex progress.start with
    | none => progress
    | some found =>
      let kept := { progress with start := found.start, made := between subject progress.start found.start :: progress.made }
      let empty : Bool := found.start = found.stop
      -- Nothing at all does not count right behind a part that did.
      if empty && progress.before = some found.start then
        if subject.chars.size ≤ found.start then kept
        else run substitution subject regex fuel (kept.past subject found.start)
      else
        let number := progress.count + 1
        let replaces := substitution.occurrence ≤ number
        let piece := if replaces then
            replacement subject (Regex.withGroups subject regex found) substitution.pieces
          else between subject found.start found.stop
        let next := { kept with
          start := found.stop, count := number, before := some found.stop, made := piece :: kept.made
          any := kept.any || replaces }
        if replaces && !substitution.everywhere then next
        else if !empty then run substitution subject regex fuel next
        else if subject.chars.size ≤ found.stop then next
        else run substitution subject regex fuel (next.past subject found.stop)

end Progress

def replaced (substitution : Substitution) (subject : Regex.Subject) (regex : Regex) : List Char × Bool :=
  let progress := Progress.run substitution subject regex (subject.chars.size + 2) {}
  (progress.text subject, progress.any)

end Assay.Utility.Edit
