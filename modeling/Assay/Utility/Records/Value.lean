import Std.Data.HashMap
import Assay.Text.Measure

/-!
Values of a language that works on records: texts and numbers, and texts from outside that may count as numbers.
-/

namespace Assay.Utility.Records

open Text (scanNumber? floatOfInt floatOfNat)

def exactOf (x : Float) : Binary64 :=
  let bits := x.toBits.toNat
  let unit := 4503599627370496
  let exponent := bits / unit % 2048
  let fraction := bits % unit
  { negative := 9223372036854775808 ≤ bits
    mantissa := if exponent = 0 then fraction else fraction + unit
    exponent := if exponent = 0 then -1074 else (exponent : Int) - 1075 }

def wholePart (x : Float) : Nat :=
  let exact := exactOf x
  exact.ratio.1 / exact.ratio.2

def truncated (least most : Int) (x : Float) : Int :=
  if x.isNaN then least
  else if x.isInf then (if x < 0 then least else most)
  else
    let size : Int := wholePart x
    max least (min most (if x < 0 then -size else size))

def greatest : Int := 9223372036854775807

def greatestUnsigned : Int := 18446744073709551615

def whole? (x : Float) : Option Int :=
  if x.isNaN || x.isInf then none
  else
    let exact := exactOf x
    if exact.ratio.1 % exact.ratio.2 ≠ 0 then none
    else
      let size : Int := exact.ratio.1 / exact.ratio.2
      if x < 0 then (if size ≤ greatest + 1 then some (-size) else none)
      else if size ≤ greatestUnsigned + 1 then some (min size greatestUnsigned) else none

def numberIn (text : List Char) : Float :=
  ((scanNumber? (text.dropWhile Text.isSpaceByte)).map Prod.fst).getD 0

def inputNumber? (text : List Char) : Option Float :=
  match text.dropWhile Text.isSpaceByte with
  | [] => none
  | c :: rest =>
    if c.isDigit || c = '.' || c = '+' || c = '-' then
      match scanNumber? (c :: rest) with
      | some (x, after) => if after.all Text.isSpaceByte then some x else none
      | none => none
    else none

inductive Value
  | blank
  | number (x : Float)
  | text (content : String)
  | input (content : String) (x : Float)
deriving Inhabited

namespace Value

def ofNat (value : Nat) : Value := .number (floatOfNat value)

def ofBool (answer : Bool) : Value := .number (if answer then 1 else 0)

def ofInput (content : String) : Value :=
  match inputNumber? content.toList with
  | some x => .input content x
  | none => .text content

def toFloat : Value → Float
  | blank => 0
  | number x => x
  | text content => numberIn content.toList
  | input _ x => x

def isTrue : Value → Bool
  | blank => false
  | number x => x != 0
  | text content => content ≠ ""
  | input _ x => x != 0

end Value

inductive Misformat
  | tooFew
  | improper (number : Nat)

def Misformat.message (format : String) : Misformat → String
  | tooFew => "not enough arguments passed to printf(\"" ++ format ++ "\")"
  | improper number => "improper conversion(number " ++ toString number ++ ") in printf(\"" ++ format ++ "\")"

structure Formatting where
  output : List Char := []
  values : List Value
  count : Nat := 0

abbrev Writing (α : Type) := ExceptT Misformat (StateM Formatting) α

namespace Writing

def put (text : List Char) : Writing Unit :=
  modify fun state => { state with output := text.reverse ++ state.output }

def next : Writing Value := do
  match (← get).values with
  | [] => throw .tooFew
  | first :: rest =>
    modify fun state => { state with values := rest }
    return first

def size (text : List Char) : Writing (Option Int × List Char) := do
  match text with
  | '*' :: rest => return (some (truncated (-greatest) greatest (← next).toFloat), rest)
  | _ =>
    let digits := text.takeWhile Char.isDigit
    return (if digits.isEmpty then none else some (Text.valueIn 10 digits : Nat), text.drop digits.length)

def oddNumber (layout : Text.Layout) (x : Float) : List Char :=
  let word := if x.isNaN then "-nan" else if x < 0 then "-inf" else if layout.plus then "+inf" else "inf"
  { layout with zero := false, precision := none }.text word.toList

def real (layout : Text.Layout) (letter : Char) (x : Float) : List Char :=
  if x.isNaN || x.isInf then oddNumber layout x else layout.real letter (Quantity.ofBinary (exactOf x))

def conversion (shown : Value → String) (layout : Text.Layout) (letter : Char) (value : Value) :
    Option (List Char) :=
  let x := value.toFloat
  match letter with
  | 's' => some (layout.text (shown value).toList)
  | 'c' =>
    let character := fun (y : Float) => Char.ofNat ((truncated (-greatest) greatest y % 256).toNat)
    let c := match value with
      | .number y | .input _ y => character y
      | .text content => (content.toList.head?).getD '\x00'
      | .blank => '\x00'
    some ({ layout with precision := none }.text [c])
  | 'd' | 'i' =>
    let most := if floatOfInt greatest ≤ x then greatestUnsigned else greatest
    some (layout.integer (truncated (-greatest) most x))
  | 'o' | 'x' | 'X' | 'u' =>
    let number := truncated (-greatest) greatestUnsigned x
    some (layout.natural letter (number % (greatestUnsigned + 1)).toNat)
  | 'e' | 'E' | 'f' | 'F' | 'g' | 'G' => some (real layout letter x)
  | _ => none

def format (shown : Value → String) : Nat → List Char → Writing Unit
  | 0, _ => return
  | _, [] => return
  | fuel + 1, '%' :: '%' :: rest => do
    put ['%']
    format shown fuel rest
  | fuel + 1, '%' :: rest => do
    let flags := rest.takeWhile fun c => "#-+ 0".toList.contains c
    modify fun state => { state with count := state.count + 1 }
    let (width, behind) ← size (rest.drop flags.length)
    let base := (Text.Layout.withFlags flags).withWidth (width.getD 0)
    let (layout, after) ← match behind with
      | '.' :: more => do
        let (precision, left) ← size more
        let places := precision.getD 0
        pure ({ base with precision := if places < 0 then none else some places.toNat }, left)
      | more => pure (base, more)
    match after.dropWhile fun c => c = 'h' || c = 'l' with
    | [] => throw (.improper (← get).count)
    | letter :: left =>
      if !"sciduoxXeEfFgG".toList.contains letter then throw (.improper (← get).count)
      match conversion shown layout letter (← next) with
      | some text => put text
      | none => throw (.improper (← get).count)
      format shown fuel left
  | fuel + 1, c :: rest => do
    put [c]
    format shown fuel rest

end Writing

def plainLimit : Nat := 2147483648

/-- The texts of numbers: whole ones that are not too large have all their digits, others the form that a
format gives them. -/
def numberText (form : String) (x : Float) : String :=
  match (whole? x).filter fun value => value.natAbs < plainLimit with
  | some value => toString value
  | none =>
    if form = "%.6g" then String.ofList (Writing.real { precision := some 6 } 'g' x)
    else
      let (_, state) := ((Writing.format (fun _ => "") (form.length + 1) form.toList).run.run { values := [.number x] })
      String.ofList state.output.reverse

def Value.toText (form : String) : Value → String
  | blank => ""
  | number x => numberText form x
  | text content => content
  | input content _ => content

def formatted (shown : Value → String) (form : String) (values : List Value) : List Char × Option Misformat :=
  let (result, state) := (Writing.format shown (form.length + 1) form.toList).run.run { values }
  let text := state.output.reverse
  match result with
  | .ok () => (text, none)
  | .error fault => (text, some fault)

end Assay.Utility.Records

namespace Assay.Utility.Records

structure Table where
  items : Std.HashMap String (Value × Nat) := {}
  stamps : Nat := 0

namespace Table

def size (table : Table) : Nat := table.items.size

def contains (table : Table) (index : String) : Bool := table.items.contains index

def get (table : Table) (index : String) : Value × Table :=
  match table.items[index]? with
  | some (value, _) =>
    (value, { items := table.items.insert index (value, table.stamps), stamps := table.stamps + 1 })
  | none =>
    (.blank, { items := table.items.insert index (.blank, table.stamps), stamps := table.stamps + 1 })

def put (table : Table) (index : String) (value : Value) : Table :=
  { items := table.items.insert index (value, table.stamps), stamps := table.stamps + 1 }

def erase (table : Table) (index : String) : Table := { table with items := table.items.erase index }

def scatter (text : String) : Nat :=
  text.toList.foldl (fun hash c => (Nat.xor hash c.toNat * 16777619) % 4294967296) 2166136261

def lists (size : Nat) : Nat → Nat → Nat
  | 0, count => count
  | fuel + 1, count => if 12 * count < size then lists size fuel (2 * count) else count

/-- The indices in the order of their lists; in a list those come first that were looked for last. -/
def indices (table : Table) : List String :=
  let count := lists table.size 40 64
  let keyed := table.items.toList.map fun (index, _, stamp) => (scatter index % count, stamp, index)
  (keyed.mergeSort fun a b => a.1 < b.1 || (a.1 = b.1 && b.2.1 ≤ a.2.1)).map fun item => item.2.2

def ofList (values : List Value) : Table :=
  ((List.range values.length).zip values).foldl (fun table (place, value) => table.put (toString (place + 1)) value) {}

end Table

end Assay.Utility.Records
