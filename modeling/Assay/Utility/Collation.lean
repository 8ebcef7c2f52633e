import Assay.Utility.Basic
import Assay.Text.Measure
import Assay.Text.Version

/-!
How lines are ordered: by numbers, months, names of versions or characters, and by parts of the lines that keys mean.
-/

namespace Assay.Utility

structure Collation where
  numeric : Bool := false
  general : Bool := false
  human : Bool := false
  version : Bool := false
  month : Bool := false
  random : Bool := false
  foldsCase : Bool := false
  dictionary : Bool := false
  printable : Bool := false
  reversed : Bool := false
deriving DecidableEq

def isBlank (c : Char) : Bool := c = ' ' || c = '\t'

/-- A decimal number at the front of a text: its sign, digits before and behind the point. -/
def leadingDecimal (text : List Char) : Bool × List Char × List Char × List Char :=
  let (negative, body) : Bool × List Char := match text.dropWhile isBlank with
    | '-' :: rest => (true, rest)
    | rest => (false, rest)
  let whole := body.takeWhile Char.isDigit
  match body.drop whole.length with
  | '.' :: rest =>
    let places := rest.takeWhile Char.isDigit
    (negative, whole, places, rest.drop places.length)
  | rest => (negative, whole, [], rest)

def compareDigits (a b : List Char × List Char) : Ordering :=
  let strip := fun digits : List Char => digits.dropWhile (· = '0')
  let trim := fun digits : List Char => (digits.reverse.dropWhile (· = '0')).reverse
  (compare (strip a.1).length (strip b.1).length).then
    ((compareOfLessAndEq (strip a.1) (strip b.1)).then (compareOfLessAndEq (trim a.2) (trim b.2)))

def compareNumbers (a b : List Char) : Ordering :=
  let (signA, wholeA, placesA, _) := leadingDecimal a
  let (signB, wholeB, placesB, _) := leadingDecimal b
  let isZero := fun (digits : List Char) => digits.all (· = '0')
  let negativeA := signA && !(isZero wholeA && isZero placesA)
  let negativeB := signB && !(isZero wholeB && isZero placesB)
  match negativeA, negativeB with
  | true, false => .lt
  | false, true => .gt
  | false, false => compareDigits (wholeA, placesA) (wholeB, placesB)
  | true, true => compareDigits (wholeB, placesB) (wholeA, placesA)

def unitOrder (c : Char) : Nat :=
  (['K', 'M', 'G', 'T', 'P', 'E', 'Z', 'Y'].findIdx? (· = if c = 'k' then 'K' else c)).elim 0 (· + 1)

def unitRank (text : List Char) : Int :=
  let (negative, whole, places, rest) := leadingDecimal text
  if (whole ++ places).all (· = '0') then 0
  else
    let rank : Int := (rest.head?.map unitOrder).getD 0
    if negative then -rank else rank

/-- Numbers in any notation: what is none comes first, then what is not a number, then the rest by size. -/
def compareGeneral (a b : List Char) : Ordering :=
  let read := fun text : List Char => (Text.scanNumber? (text.dropWhile Text.isSpaceByte)).map Prod.fst
  match read a, read b with
  | none, none => .eq
  | none, some _ => .lt
  | some _, none => .gt
  | some x, some y =>
    if x < y then .lt
    else if x > y then .gt
    else if x == y then .eq
    else compare y.isNaN x.isNaN

def monthRank (text : List Char) : Nat :=
  let name := String.ofList ((text.dropWhile isBlank).take 3 |>.map Char.toUpper)
  match (["JAN", "FEB", "MAR", "APR", "MAY", "JUN", "JUL", "AUG", "SEP", "OCT", "NOV", "DEC"]).findIdx? (· = name) with
  | some place => place + 1
  | none => 0

namespace Collation

def with? (collation : Collation) (letter : Char) : Option Collation :=
  match letter with
  | 'n' => some { collation with numeric := true }
  | 'g' => some { collation with general := true }
  | 'h' => some { collation with human := true }
  | 'V' => some { collation with version := true }
  | 'M' => some { collation with month := true }
  | 'R' => some { collation with random := true }
  | 'f' => some { collation with foldsCase := true }
  | 'd' => some { collation with dictionary := true }
  | 'i' => some { collation with printable := true }
  | 'r' => some { collation with reversed := true }
  | _ => none

def letters (collation : Collation) : List Char :=
  [('d', collation.dictionary), ('f', collation.foldsCase), ('g', collation.general), ('h', collation.human),
   ('i', collation.printable && !collation.dictionary), ('M', collation.month), ('n', collation.numeric),
   ('R', collation.random), ('r', collation.reversed), ('V', collation.version)].filterMap fun (letter, chosen) =>
     if chosen then some letter else none

def isNumeric (collation : Collation) : Bool := collation.numeric || collation.general || collation.human

def clashes (collation : Collation) : Bool :=
  let others := collation.version || collation.random || collation.dictionary || collation.printable
  1 < [collation.numeric, collation.general, collation.human, collation.month, others].countP fun chosen => chosen

def compare (collation : Collation) (a b : List Char) : Ordering :=
  let kept := fun c : Char =>
    if collation.dictionary then c.isAlphanum || isBlank c || c = '\n'
    else !collation.printable || Text.isGraphic c || c = ' '
  let shown := fun text : List Char =>
    let chosen := text.filter kept
    if collation.foldsCase then chosen.map Char.toUpper else chosen
  let order :=
    if collation.human then
      (Ord.compare (unitRank a) (unitRank b)).then (compareNumbers a b)
    else if collation.numeric then compareNumbers a b
    else if collation.general then compareGeneral a b
    else if collation.month then Ord.compare (monthRank a) (monthRank b)
    else if collation.version then Text.Version.compare (shown a) (shown b)
    else compareOfLessAndEq (shown a) (shown b)
  if collation.reversed then order.swap else order

end Collation

/-- A place in a line: behind so many fields and characters, and perhaps behind the blanks that come first. -/
structure FieldPlace where
  fields : Nat := 0
  chars : Nat := 0
  skipsBlanks : Bool := false
deriving DecidableEq

/-- What follows some fields of a line. Without a separator the blanks before a field belong to it. -/
def behindFields (separator : Option Char) : Nat → List Char → List Char
  | 0, line => line
  | count + 1, line =>
    match separator with
    | some mark => behindFields separator count ((line.dropWhile (· ≠ mark)).drop 1)
    | none => behindFields separator count ((line.dropWhile isBlank).dropWhile fun c => !isBlank c)

/-- A part of a line that counts: from a place to another one, or to the end. A last place without characters is the
end of its last field. -/
structure SortKey where
  first : FieldPlace := {}
  last : Option FieldPlace := none
  collation : Collation := {}
  old : Bool := false

namespace SortKey

def isPlain (key : SortKey) : Bool :=
  { key.collation with reversed := false } = ({} : Collation) && !key.first.skipsBlanks
    && !((key.last.map FieldPlace.skipsBlanks).getD false)

def start (separator : Option Char) (key : SortKey) (line : List Char) : Nat :=
  let rest := behindFields separator key.first.fields line
  let body := if key.first.skipsBlanks then rest.dropWhile isBlank else rest
  min line.length (line.length - body.length + key.first.chars)

def stop (separator : Option Char) (key : SortKey) (line : List Char) : Nat :=
  match key.last with
  | none => line.length
  | some place =>
    let rest := behindFields separator place.fields line
    if place.chars = 0 then
      let own := match separator with
        | some mark => rest.takeWhile (· ≠ mark)
        | none => rest.takeWhile isBlank ++ (rest.dropWhile isBlank).takeWhile fun c => !isBlank c
      line.length - rest.length + own.length
    else
      let body := if place.skipsBlanks then rest.dropWhile isBlank else rest
      min line.length (line.length - body.length + place.chars)

def part (separator : Option Char) (key : SortKey) (line : List Char) : List Char :=
  let start := key.start separator line
  (line.drop start).take (key.stop separator line - start)

def number? (text : List Char) : Option (Nat × List Char) :=
  let digits := text.takeWhile Char.isDigit
  if digits.isEmpty then none else some (Text.valueIn 10 digits, text.drop digits.length)

def number (what : String) (text : List Char) : Except String (Nat × List Char) :=
  match number? text with
  | some found => .ok found
  | none => .error (what ++ ": invalid count at start of " ++ cited (String.ofList text))

/-- Takes the letters at the front of a text into a key. The blanks meant are those before the first place or those
before the last one. -/
def withLetters (key : SortKey) (atFirst : Bool) : List Char → SortKey × List Char
  | [] => (key, [])
  | c :: rest =>
    if c = 'b' then
      withLetters
        (if atFirst then { key with first := { key.first with skipsBlanks := true } }
         else { key with last := key.last.map fun last => { last with skipsBlanks := true } })
        atFirst rest
    else
      match key.collation.with? c with
      | some collation => withLetters { key with collation } atFirst rest
      | none => (key, c :: rest)

def charsBehind (text : List Char) : Except String (Option Nat × List Char) :=
  match text with
  | '.' :: more => do
    let (chars, rest) ← number "invalid number after '.'" more
    return (some chars, rest)
  | rest => .ok (none, rest)

def read (text : String) : Except String SortKey := do
  let invalid := fun message : String => message ++ ": invalid field specification " ++ cited text
  let (field, afterField) ← number "invalid number at field start" text.toList
  if field = 0 then throw (invalid "field number is zero")
  let (char, afterChar) ← charsBehind afterField
  if char = some 0 then throw (invalid "character offset is zero")
  let plain : SortKey := { first := { fields := field - 1, chars := (char.getD 1) - 1 } }
  let (key, rest) := plain.withLetters true afterChar
  match rest with
  | ',' :: more =>
    let (field, afterField) ← number "invalid number after ','" more
    if field = 0 then throw (invalid "field number is zero")
    let (char, afterChar) ← charsBehind afterField
    let (key, rest) :=
      { key with last := some { fields := field - 1, chars := char.getD 0 } }.withLetters false afterChar
    if rest ≠ [] then throw (invalid "stray character in field spec")
    return key
  | [] => return key
  | _ => throw (invalid "stray character in field spec")

def readOld? (text : List Char) : Option SortKey := do
  let (fields, rest) ← number? text
  let (chars, rest) ← match rest with
    | '.' :: more => number? more
    | rest => some (0, rest)
  let (key, rest) := ({ first := { fields, chars }, old := true } : SortKey).withLetters true rest
  if rest = [] then some key else none

def withOldEnd (key : SortKey) (text : String) : Except String SortKey := do
  let (fields, rest) ← number "invalid number after '-'" (text.toList.drop 1)
  let (chars, rest) ← charsBehind rest
  let last : FieldPlace := match chars.getD 0 with
    | 0 => { fields := fields - 1 }
    | chars => { fields, chars }
  let (key, rest) := { key with last := some last }.withLetters false rest
  if rest ≠ [] then throw ("stray character in field spec: invalid field specification " ++ cited text)
  return key

end SortKey

structure Sorting where
  separator : Option Char := none
  keys : List SortKey := []
  reversed : Bool := false
  stable : Bool := false
  unique : Bool := false

namespace Sorting

abbrev Parted := List Char × List (List Char)

def parted (sorting : Sorting) (line : List Char) : Parted :=
  (line, sorting.keys.map fun key => key.part sorting.separator line)

def compareKeys : List SortKey → List (List Char) → List (List Char) → Ordering
  | key :: keys, a :: as, b :: bs => (key.collation.compare a b).then (compareKeys keys as bs)
  | _, _, _ => .eq

/-- Compares two lines; those that are alike by their keys are compared as a whole. -/
def compare (sorting : Sorting) (a b : Parted) : Ordering :=
  let order := compareKeys sorting.keys a.2 b.2
  if !sorting.keys.isEmpty && (sorting.stable || sorting.unique) then order
  else
    order.then
      (let whole := compareOfLessAndEq a.1 b.1
       if sorting.reversed then whole.swap else whole)

def distinct (sorting : Sorting) : List Parted → List Parted
  | a :: b :: rest =>
    if sorting.compare a b = .eq then distinct sorting (a :: rest) else a :: distinct sorting (b :: rest)
  | lines => lines
termination_by lines => lines.length

def sorted (sorting : Sorting) (lines : List (List Char)) : List (List Char) :=
  let ordered := (lines.map sorting.parted).mergeSort fun a b => sorting.compare a b ≠ .gt
  (if sorting.unique then sorting.distinct ordered else ordered).map Prod.fst

def united (sorting : Sorting) (inputs : List (List (List Char))) : List (List Char) :=
  let whole := inputs.foldl (fun all lines =>
    List.merge all (lines.map sorting.parted) fun a b => sorting.compare a b ≠ .gt) []
  (if sorting.unique then sorting.distinct whole else whole).map Prod.fst

def disorder? (sorting : Sorting) : Nat → List (List Char) → Option (Nat × List Char)
  | number, a :: b :: rest =>
    let order := sorting.compare (sorting.parted a) (sorting.parted b)
    if order = .gt || (sorting.unique && order = .eq) then some (number + 1, b)
    else disorder? sorting (number + 1) (b :: rest)
  | _, _ => none

end Sorting

end Assay.Utility
