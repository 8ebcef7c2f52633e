import Assay.Text.Format
import Assay.Text.Numeral
import Assay.Utility.Comparing.Lines

/-!
Changes in a form of one's own: a format for each kind of group of lines, and one for each kind of line.
-/

namespace Assay.Utility.Comparing

open Text (Change)

structure Groups where
  old : Option String := none
  new : Option String := none
  same : Option String := none
  changed : Option String := none
  oldLine : Option String := none
  newLine : Option String := none
  sameLine : Option String := none

namespace Groups

def named (name : String) : Groups where
  old := some ("#ifndef " ++ name ++ "\n%<#endif /* ! " ++ name ++ " */\n")
  new := some ("#ifdef " ++ name ++ "\n%>#endif /* " ++ name ++ " */\n")
  same := some "%="
  changed := some ("#ifndef " ++ name ++ "\n%<#else /* " ++ name ++ " */\n%>#endif /* " ++ name ++ " */\n")

def oldForm (groups : Groups) : String := (groups.old.orElse fun _ => groups.changed).getD "%<"

def newForm (groups : Groups) : String := (groups.new.orElse fun _ => groups.changed).getD "%>"

def sameForm (groups : Groups) : String := groups.same.getD "%="

def changedForm (groups : Groups) : String := groups.changed.getD (groups.oldForm ++ groups.newForm)

def lineForm (form : Option String) : String := form.getD "%l\n"

def hidesSame (groups : Groups) : Bool :=
  groups.sameForm = "" || (groups.sameForm = "%=" && lineForm groups.sameLine = "")

structure Part where
  lines : Array (List Char)
  start : Nat
  stop : Nat

def Part.toList (part : Part) : List (List Char) := (part.lines.extract part.start part.stop).toList

def letterValue? (first second : Part) (letter : Char) : Option Nat :=
  let part := if letter.isUpper then second else first
  match letter.toLower with
  | 'e' => some part.start
  | 'f' => some (part.start + 1)
  | 'l' => some part.stop
  | 'm' => some (part.stop + 1)
  | 'n' => some (part.stop - part.start)
  | _ => none

def literal? (text : List Char) : Option (Char × List Char) :=
  match text with
  | '\'' :: '\\' :: rest =>
    let digits := rest.takeWhile (Text.isDigitIn 8)
    match rest.drop digits.length with
    | '\'' :: left =>
      if 1 ≤ digits.length && digits.length ≤ 3 then some (Char.ofNat (Text.valueIn 8 digits % 256), left) else none
    | _ => none
  | '\'' :: '\'' :: _ => none
  | '\'' :: c :: '\'' :: left => some (c, left)
  | _ => none

def conversion? (value? : Char → Option Nat) (text : List Char) : Option (List Char × List Char) :=
  let flags := text.takeWhile fun c => "-'0".toList.contains c
  let afterFlags := text.drop flags.length
  let width := afterFlags.takeWhile Char.isDigit
  let afterWidth := afterFlags.drop width.length
  let (places, rest) := match afterWidth with
    | '.' :: more =>
      let digits := more.takeWhile Char.isDigit
      (some (Text.valueIn 10 digits), more.drop digits.length)
    | _ => (none, afterWidth)
  match rest with
  | 'c' :: quoted => (literal? quoted).map fun (c, left) => ([c], left)
  | letter :: name :: left =>
    if "doxX".toList.contains letter then
      (value? name).map fun value =>
        let layout := (Text.Layout.withFlags flags).withWidth (Text.valueIn 10 width)
        let full := { layout with precision := places }
        (if letter = 'd' then full.integer value else full.natural letter value, left)
    else none
  | _ => none

def lineText (layout : Layout) (number : Nat) (line : List Char) : Nat → List Char → List Char
  | 0, _ => []
  | _, [] => []
  | fuel + 1, '%' :: rest =>
    let further := lineText layout number line fuel
    match rest with
    | '%' :: left => '%' :: further left
    | 'l' :: left => layout.body [] (if line.getLast? = some '\n' then line.dropLast else line) ++ further left
    | 'L' :: left => layout.body [] line ++ further left
    | _ =>
      match conversion? (fun letter => if letter = 'n' then some number else none) rest with
      | some (text, left) => text ++ further left
      | none => '%' :: further rest
  | fuel + 1, c :: rest => c :: lineText layout number line fuel rest

def linesText (layout : Layout) (form : String) (part : Part) : List Char :=
  ((List.range (part.stop - part.start)).zip part.toList).flatMap fun (index, line) =>
    lineText layout (part.start + index + 1) line (form.length + 1) form.toList

def operand? (value? : Char → Option Nat) (mark : Char) (text : List Char) : Option (Nat × List Char) :=
  let digits := text.takeWhile Char.isDigit
  let found : Option (Nat × List Char) :=
    if digits.isEmpty then
      match text with
      | letter :: rest => (value? letter).map fun value => (value, rest)
      | [] => none
    else some (Text.valueIn 10 digits, text.drop digits.length)
  match found with
  | some (value, c :: rest) => if c = mark then some (value, rest) else none
  | _ => none

/-- A group in its format up to a mark, and what follows there; the number bounds the steps. -/
def groupText (groups : Groups) (layout : Layout) (first second : Part) : Nat → Option Char → List Char →
    List Char × List Char
  | 0, _, rest => ([], rest)
  | _, _, [] => ([], [])
  | fuel + 1, stop, c :: rest =>
    if stop = some c then ([], c :: rest)
    else
      let further := fun (front : List Char) (left : List Char) =>
        let (text, after) := groupText groups layout first second fuel stop left
        (front ++ text, after)
      let value? := letterValue? first second
      if c ≠ '%' then further [c] rest
      else
        match rest with
        | '%' :: left => further ['%'] left
        | '<' :: left => further (linesText layout (lineForm groups.oldLine) first) left
        | '=' :: left => further (linesText layout (lineForm groups.sameLine) first) left
        | '>' :: left => further (linesText layout (lineForm groups.newLine) second) left
        | '(' :: condition =>
          match operand? value? '=' condition with
          | some (one, more) =>
            match operand? value? '?' more with
            | some (two, choices) =>
              let (yes, afterYes) := groupText groups layout first second fuel (some ':') choices
              let (no, afterNo) := groupText groups layout first second fuel (some ')') (afterYes.drop 1)
              further (if one = two then yes else no) (afterNo.drop 1)
            | none => further ['%'] rest
          | none => further ['%'] rest
        | _ =>
          match conversion? value? rest with
          | some (text, left) => further text left
          | none => further ['%'] rest

def group (groups : Groups) (layout : Layout) (form : String) (first second : Part) : List Char :=
  (groupText groups layout first second (2 * form.length + 2) none form.toList).1

def texts (groups : Groups) (layout : Layout) (comparison : Comparison) : List Change → Nat → Nat → List Char
  | [], x, y =>
    let (stop, reached) := (comparison.first.size, comparison.second.size)
    if x < stop ∨ y < reached then
      groups.group layout groups.sameForm ⟨comparison.first, x, stop⟩ ⟨comparison.second, y, reached⟩
    else []
  | change :: rest, x, y =>
    let (stop, reached) := (change.start + change.removed, change.place + change.added)
    let before := if x < change.start ∨ y < change.place then
        groups.group layout groups.sameForm ⟨comparison.first, x, change.start⟩ ⟨comparison.second, y, change.place⟩
      else []
    let form := if change.removed = 0 then groups.newForm
      else if change.added = 0 then groups.oldForm
      else groups.changedForm
    before ++ groups.group layout form ⟨comparison.first, change.start, stop⟩ ⟨comparison.second, change.place, reached⟩
      ++ texts groups layout comparison rest stop reached

end Groups

end Assay.Utility.Comparing
