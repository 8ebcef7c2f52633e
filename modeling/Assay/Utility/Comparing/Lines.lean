import Assay.Text.Change
import Assay.Text.Regex

/-!
Two texts line by line: which lines count as the same, which changes make one text the other, and the forms in which
these are written.
-/

namespace Assay.Utility.Comparing

open Text (Change Regex)

inductive Blanks
  | all
  | tabs
  | endings
  | amounts
  | none
deriving DecidableEq

structure LineRule where
  blanks : Blanks := .all
  ignoresCase : Bool := false
  tabSize : Nat := 8
  ignoresEmpty : Bool := false
  ignored : List (Regex × Regex.Style) := []

def isSpace (c : Char) : Bool := c = ' ' || ('\t' ≤ c && c ≤ '\r')

def squeezed : List Char → List Char
  | [] => []
  | c :: rest =>
    if isSpace c then
      if rest.all isSpace then [] else ' ' :: squeezedTail rest
    else c :: squeezed rest
where
  squeezedTail : List Char → List Char
    | [] => []
    | c :: rest => if isSpace c then squeezedTail rest else c :: squeezed rest

def untabbed (size : Nat) : Nat → List Char → List Char
  | _, [] => []
  | column, c :: rest =>
    if c = '\t' then
      let width := size - column % size
      List.replicate width ' ' ++ untabbed size (column + width) rest
    else if c = '\x08' then c :: untabbed size (column - 1) rest
    else if c = '\r' then c :: untabbed size 0 rest
    else c :: untabbed size (column + 1) rest

/-- A line as it is compared. An end that is lacking counts unless white space at the ends of lines does not. -/
def LineRule.key (rule : LineRule) (line : List Char) : List Char :=
  let cased := if rule.ignoresCase then line.map Char.toLower else line
  match rule.blanks with
  | .all => cased
  | .none => cased.filter fun c => !isSpace c
  | .amounts => squeezed cased
  | .tabs => untabbed rule.tabSize 0 cased
  | .endings => (cased.reverse.dropWhile isSpace).reverse

def LineRule.ignores (rule : LineRule) (line : List Char) : Bool :=
  let text := if line.getLast? = some '\n' then line.dropLast else line
  let skips := rule.blanks ≠ .all && rule.blanks ≠ .tabs
  (rule.ignoresEmpty && (if skips then text.all isSpace else text.isEmpty))
    || rule.ignored.any fun (regex, style) => (Regex.find? { chars := text.toArray, style } regex 0).isSome

def linesWithEnds (text : List Char) : List (List Char) :=
  let pieces := text.splitOn '\n'
  let whole := pieces.dropLast.map (· ++ ['\n'])
  match pieces.getLast? with
  | none | some [] => whole
  | some last => whole ++ [last]

def sharedCount : List (List Char) → List (List Char) → Nat
  | a :: first, b :: second => if a = b then sharedCount first second + 1 else 0
  | _, _ => 0

/-- The changes between two texts. What both begin and end with is left alone, but for some lines around changes. -/
def LineRule.changes (rule : LineRule) (spare : Nat) (first second : List (List Char)) : List Change :=
  let front := sharedCount first second - spare
  let (one, two) := (first.drop front, second.drop front)
  let back := sharedCount one.reverse two.reverse - spare
  let keys := fun (lines : List (List Char)) => (lines.take (lines.length - back)).map rule.key
  (Change.between (keys one) (keys two)).map fun change =>
    { change with start := change.start + front, place := change.place + front }

structure Comparison where
  first : Array (List Char)
  second : Array (List Char)
  changes : List Change
  trivial : Change → Bool

namespace Comparison

def removed (comparison : Comparison) (change : Change) : List (List Char) :=
  (comparison.first.extract change.start (change.start + change.removed)).toList

def added (comparison : Comparison) (change : Change) : List (List Char) :=
  (comparison.second.extract change.place (change.place + change.added)).toList

def ofLines (rule : LineRule) (spare : Nat) (first second : List (List Char)) : Comparison :=
  let (one, two) := (first.toArray, second.toArray)
  let plain := !rule.ignoresEmpty && rule.ignored.isEmpty
  { first := one, second := two, changes := rule.changes spare first second
    trivial := fun change => !plain
      && (one.extract change.start (change.start + change.removed)).all rule.ignores
      && (two.extract change.place (change.place + change.added)).all rule.ignores }

def counting (comparison : Comparison) : List Change :=
  comparison.changes.filter fun change => !comparison.trivial change

end Comparison

example : LineRule.key { blanks := .amounts } "a \t b  \n".toList = "a b".toList := by decide

structure Layout where
  context : Nat := 0
  tabbed : Bool := false
  expands : Bool := false
  tabSize : Nat := 8
  bare : Bool := false
  colored : Bool := false
  headings : List (Regex × Regex.Style) := []

inductive Paint
  | header
  | removed
  | added
  | numbers

def Paint.code : Paint → String
  | .header => "1"
  | .removed => "31"
  | .added => "32"
  | .numbers => "36"

namespace Layout

def painted (layout : Layout) (paint : Option Paint) (text : List Char) : List Char :=
  match layout.colored, paint with
  | true, some paint => ("\x1b[" ++ paint.code ++ "m").toList ++ text ++ "\x1b[0m".toList
  | _, _ => text

def expanded (size : Nat) (mark : List Char) : Nat → List Char → List Char
  | _, [] => []
  | column, c :: rest =>
    if c = '\t' then
      let width := size - column % size
      List.replicate width ' ' ++ expanded size mark (column + width) rest
    else if c = '\r' then
      c :: (if rest.isEmpty then [] else mark) ++ expanded size mark 0 rest
    else if c = '\x08' then
      if column = 0 then expanded size mark 0 rest else c :: expanded size mark (column - 1) rest
    else c :: expanded size mark (if ' ' ≤ c && c ≤ '~' then column + 1 else column) rest

def body (layout : Layout) (mark line : List Char) : List Char :=
  if layout.expands then expanded layout.tabSize mark 0 line else line

def marked (layout : Layout) (paint : Option Paint) (mark line : List Char) : List Char :=
  if line.getLast? = some '\n' then layout.painted paint (mark ++ layout.body mark line.dropLast) ++ ['\n']
  else layout.painted paint (mark ++ layout.body mark line) ++ "\n\\ No newline at end of file\n".toList

def flagged (layout : Layout) (paint : Option Paint) (mark line : List Char) : List Char :=
  let front := if layout.bare && line = ['\n'] then (if mark = [' '] then [] else mark)
    else mark ++ [if layout.tabbed then '\t' else ' ']
  layout.marked paint front line

def alone (layout : Layout) (line : List Char) : List Char := layout.body [] line

end Layout

def stretch (separator : String) (start count : Nat) : String :=
  if count ≤ 1 then toString (start + count) else toString (start + 1) ++ separator ++ toString (start + count)

def letterOf (change : Change) : String :=
  if change.removed = 0 then "a" else if change.added = 0 then "d" else "c"

namespace Comparison

variable (comparison : Comparison) (layout : Layout)

def normal (change : Change) : List Char :=
  let head := stretch "," change.start change.removed ++ letterOf change ++ stretch "," change.place change.added
  let removed := (comparison.removed change).flatMap (layout.flagged (some .removed) ['<'])
  let added := (comparison.added change).flatMap (layout.flagged (some .added) ['>'])
  layout.painted (some .numbers) head.toList ++ '\n' :: removed
    ++ (if change.removed = 0 ∨ change.added = 0 then [] else "---\n".toList) ++ added

def typed : Bool → List (List Char) → List Char
  | inserts, [] => if inserts then ".\n".toList else []
  | inserts, line :: rest =>
    let front := if inserts then [] else "a\n".toList
    if line = ['.', '\n'] then front ++ "..\n.\ns/.//\n".toList ++ typed false rest
    else front ++ layout.alone line ++ typed true rest

def edited (change : Change) : List Char :=
  (stretch "," change.start change.removed ++ letterOf change ++ "\n").toList
    ++ if change.added = 0 then [] else typed layout true (comparison.added change)

def forward (change : Change) : List Char :=
  (letterOf change ++ stretch " " change.start change.removed ++ "\n").toList
    ++ if change.added = 0 then [] else (comparison.added change).flatMap layout.alone ++ ".\n".toList

def counted (change : Change) : List Char :=
  let gone := if change.removed = 0 then ""
    else "d" ++ toString (change.start + 1) ++ " " ++ toString change.removed ++ "\n"
  let come := if change.added = 0 then ""
    else "a" ++ toString (change.start + change.removed) ++ " " ++ toString change.added ++ "\n"
  (gone ++ come).toList ++ (comparison.added change).flatMap layout.alone

def grouped : List Change → List (List Change)
  | [] => []
  | change :: rest =>
    match grouped rest with
    | (next :: more) :: others =>
      let near := if comparison.trivial change || comparison.trivial next then layout.context
        else 2 * layout.context + 1
      if next.start - (change.start + change.removed) < near then (change :: next :: more) :: others
      else [change] :: (next :: more) :: others
    | others => [change] :: others

def heading? (place : Nat) : Option (List Char) :=
  let isHeading := fun line : List Char =>
    let text := if line.getLast? = some '\n' then line.dropLast else line
    layout.headings.any fun (regex, style) => (Regex.find? { chars := text.toArray, style } regex 0).isSome
  if layout.headings.isEmpty then none
  else (comparison.first.extract 0 place).toList.reverse.find? isHeading

def headingText (place : Nat) : List Char :=
  match comparison.heading? layout place with
  | none => []
  | some line =>
    let text := ((line.filter (· ≠ '\n')).dropWhile isSpace).take 40
    ' ' :: (text.reverse.dropWhile isSpace).reverse

structure Hunk where
  changes : List Change
  start : Nat
  stop : Nat
  place : Nat
  reached : Nat

def hunk? (group : List Change) : Option Hunk :=
  match group.head?, group.getLast? with
  | some head, some last =>
    if group.all comparison.trivial then none
    else
      some
        { changes := group
          start := head.start - layout.context
          stop := min comparison.first.size (last.start + last.removed + layout.context)
          place := head.place - layout.context
          reached := min comparison.second.size (last.place + last.added + layout.context) }
  | _, _ => none

def hunks : List Hunk := (comparison.grouped layout comparison.changes).filterMap (comparison.hunk? layout)

def sided (lines : Array (List Char)) (paint : Paint) (mark : Char) (part : Change → Nat × Nat × Nat)
    (start stop : Nat) (changes : List Change) : List Char :=
  let same := fun (start stop : Nat) =>
    (lines.extract start stop).toList.flatMap (layout.flagged (some paint) [' '])
  let (body, onwards) := changes.foldl (fun (body, here) change =>
    let (place, count, others) := part change
    let own := if others = 0 then mark else '!'
    let changed := (lines.extract place (place + count)).toList.flatMap (layout.flagged (some paint) [own])
    (body ++ same here place ++ changed, place + count)) (([] : List Char), start)
  body ++ same onwards stop

def doubled (hunk : Hunk) : List Char :=
  let range := fun (start stop : Nat) =>
    if stop ≤ start + 1 then toString stop else toString (start + 1) ++ "," ++ toString stop
  let told := fun (text : String) => layout.painted (some .numbers) text.toList ++ ['\n']
  let gone := hunk.changes.any fun change => change.removed ≠ 0
  let come := hunk.changes.any fun change => change.added ≠ 0
  "***************".toList ++ comparison.headingText layout hunk.start ++ ['\n']
    ++ told ("*** " ++ range hunk.start hunk.stop ++ " ****")
    ++ (if gone then
        sided layout comparison.first .removed '-' (fun change => (change.start, change.removed, change.added))
          hunk.start hunk.stop hunk.changes
      else [])
    ++ told ("--- " ++ range hunk.place hunk.reached ++ " ----")
    ++ (if come then
        sided layout comparison.second .added '+' (fun change => (change.place, change.added, change.removed))
          hunk.place hunk.reached hunk.changes
      else [])

def united (hunk : Hunk) : List Char :=
  let range := fun (start count : Nat) =>
    if count = 1 then toString (start + 1)
    else toString (if count = 0 then start else start + 1) ++ "," ++ toString count
  let empty := fun line : List Char => layout.bare && line = ['\n']
  let mark := fun (c : Char) (line : List Char) => c :: if layout.tabbed && !empty line then ['\t'] else []
  let same := fun (start stop : Nat) => (comparison.first.extract start stop).toList.flatMap fun line =>
    layout.marked none (if empty line then [] else if layout.tabbed then ['\t'] else [' ']) line
  let (body, onwards) := hunk.changes.foldl (fun (body, here) change =>
    let removed := (comparison.removed change).flatMap fun line => layout.marked (some .removed) (mark '-' line) line
    let added := (comparison.added change).flatMap fun line => layout.marked (some .added) (mark '+' line) line
    (body ++ same here change.start ++ removed ++ added, change.start + change.removed))
    (([] : List Char), hunk.start)
  let numbers := "@@ -" ++ range hunk.start (hunk.stop - hunk.start) ++ " +"
    ++ range hunk.place (hunk.reached - hunk.place) ++ " @@"
  layout.painted (some .numbers) numbers.toList ++ comparison.headingText layout hunk.start ++ '\n' :: body
    ++ same onwards hunk.stop

end Comparison

end Assay.Utility.Comparing
