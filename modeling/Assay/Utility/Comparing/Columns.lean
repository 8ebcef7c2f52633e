import Assay.Text.CharClass
import Assay.Text.Octets
import Assay.Utility.Comparing.Lines

/-!
Two texts side by side, with marks between the lines that differ.
-/

namespace Assay.Utility.Comparing

open Text (Change)

structure Columns where
  half : Nat
  offset : Nat
  expands : Bool := false
  tabSize : Nat := 8
  wide : Bool := false
  leftOnly : Bool := false
  changesOnly : Bool := false
  counts : Bool := false
  layout : Layout := {}

namespace Columns

def gutter : Nat := 3

/-- Halves as wide as fits into a line. Where tabs stay, the second half begins at a stop. -/
def ofWidth (width : Nat) (expands : Bool) (tabSize : Nat) : Columns :=
  let unit := if expands then 1 else tabSize
  let both := unit + gutter
  let middle := width / 2 + both / 2 + (width % 2) * (both % 2)
  let offset := middle - middle % unit
  let half := min (offset - gutter) (width - offset)
  { half, offset := if half = 0 then width else offset, expands, tabSize }

variable (columns : Columns)

def fill (start stop : Nat) : List Char :=
  if columns.expands then List.replicate (stop - start) ' '
  else
    let first := (start / columns.tabSize + 1) * columns.tabSize
    if stop < first then List.replicate (stop - start) ' '
    else
      let tabs := (stop - first) / columns.tabSize + 1
      List.replicate tabs '\t' ++ List.replicate (stop % columns.tabSize) ' '

structure Cursor where
  column : Nat := 0
  shown : Nat := 0

def halfLine (indent : Nat) : Cursor → List Char → List Char × Nat
  | cursor, [] => ([], cursor.shown)
  | cursor, c :: rest =>
    let further := fun (front : List Char) (after : Cursor) =>
      let (text, stop) := halfLine indent after rest
      (front ++ text, stop)
    let bound := columns.half
    let spelled := fun c : Char => if columns.wide then Text.Characters.spread [c] else [c]
    match c with
    | '\n' => ([], cursor.shown)
    | '\t' =>
      let width := columns.tabSize - cursor.column % columns.tabSize
      let after := { cursor with column := cursor.column + width }
      if cursor.column = cursor.shown then
        let stop := cursor.shown + width
        if columns.expands then
          let stop := min bound stop
          further (List.replicate (stop - cursor.shown) ' ') { after with shown := max stop cursor.shown }
        else if stop < bound then further ['\t'] { after with shown := stop }
        else further [] after
      else further [] after
    | '\r' => further ('\r' :: columns.fill 0 indent) {}
    | '\x08' =>
      if cursor.column = 0 then further [] cursor
      else
        let column := cursor.column - 1
        if column < bound then
          if cursor.shown ≤ column then
            further (List.replicate (column - cursor.shown) ' ') { column, shown := column }
          else further ['\x08'] { column, shown := column }
        else further [] { cursor with column }
    | _ =>
      let width : Option Nat := if c = '\x0c' || c = '\x0b' then none
        else if c < ' ' || c = '\x7f' then some 0
        else if c ≤ '~' then some 1
        else if columns.wide && !Text.Characters.isStray c then some (Text.Alphabet.columns c)
        else none
      match width with
      | some width =>
        let column := cursor.column + width
        if column ≤ bound then further (spelled c) { column, shown := column }
        else further [] { cursor with column }
      | none => if cursor.column < bound then further (spelled c) cursor else further [] cursor

def cutLine (indent : Nat) (line : List Char) : List Char × Nat :=
  columns.halfLine indent {} (if columns.wide then Text.Characters.gather line else line)

def row (left : Option (List Char)) (mark : Char) (right : Option (List Char)) : List Char :=
  let ended := fun line : Option (List Char) => line.any fun line => decide (line.getLast? = some '\n')
  let (first, column) := match left with
    | some line => columns.cutLine 0 line
    | none => ([], 0)
  let shown := if mark = '|' && ended left != ended right then (if ended left then '/' else '\\') else mark
  let middle := (columns.half + columns.offset - 1) / 2
  let (sign, column) := if mark = ' ' then ([], column)
    else (columns.fill column middle ++ [shown], max column middle + 1)
  let second := match right with
    | some line =>
      if line.head? = some '\n' then []
      else columns.fill column columns.offset ++ (columns.cutLine columns.offset line).1
    | none => []
  let text := first ++ sign ++ second ++ if ended left || ended right then ['\n'] else []
  columns.layout.painted (if mark = '<' then some .removed else if mark = '>' then some .added else none) text

def common (first second : List (List Char)) : List Char :=
  if columns.changesOnly || (first.isEmpty && second.isEmpty) then []
  else
    let told := if columns.counts then
        ("i" ++ toString first.length ++ "," ++ toString second.length ++ "\n").toList
      else []
    let shared := min first.length second.length
    if columns.leftOnly then told ++ first.flatMap fun line => columns.row (some line) '(' none
    else
      told ++ ((first.zip second).flatMap fun (left, right) => columns.row (some left) ' ' (some right))
        ++ ((second.drop shared).flatMap fun line => columns.row none ')' (some line))
        ++ ((first.drop shared).flatMap fun line => columns.row (some line) '(' none)

def changed (removed added : List (List Char)) : List Char :=
  let told := if columns.counts then
      ("c" ++ toString removed.length ++ "," ++ toString added.length ++ "\n").toList
    else []
  let shared := min removed.length added.length
  told ++ ((removed.zip added).flatMap fun (left, right) => columns.row (some left) '|' (some right))
    ++ ((added.drop shared).flatMap fun line => columns.row none '>' (some line))
    ++ ((removed.drop shared).flatMap fun line => columns.row (some line) '<' none)

def texts (comparison : Comparison) : List Change → Nat → Nat → List Char
  | [], x, y =>
    columns.common (comparison.first.extract x comparison.first.size).toList
      (comparison.second.extract y comparison.second.size).toList
  | change :: rest, x, y =>
    columns.common (comparison.first.extract x change.start).toList
        (comparison.second.extract y change.place).toList
      ++ columns.changed (comparison.removed change) (comparison.added change)
      ++ texts comparison rest (change.start + change.removed) (change.place + change.added)

end Columns

end Assay.Utility.Comparing
