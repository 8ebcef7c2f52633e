import Assay.Text.Format
import Assay.Utility.Copying

/-!
Numbers in a row, from a first one to a last one. They are reckoned with the mantissas of extended precision and written
with as many places as the first number and the step have.
-/

namespace Assay.Utility

namespace Sequence

structure Term where
  value : Option Quantity
  negative : Bool := false
  width : Int := 0
  places : Option Nat := none

def hexadecimal? (negative : Bool) (text : List Char) : Option Quantity :=
  let whole := text.takeWhile (Text.isDigitIn 16)
  let (fraction, after) : List Char × List Char := match text.drop whole.length with
    | '.' :: rest => (rest.takeWhile (Text.isDigitIn 16), rest.dropWhile (Text.isDigitIn 16))
    | rest => ([], rest)
  if whole = [] ∧ fraction = [] then none
  else
    let power? : Option Int := match after with
      | [] => some 0
      | mark :: rest =>
        if mark = 'p' ∨ mark = 'P' then
          let scanned := Text.scanInteger true rest
          if scanned.found ∧ scanned.rest = [] then some scanned.value else none
        else none
    power?.map fun power =>
      let shift : Int := max (-20000) (min 20000 (power - 4 * (fraction.length : Int)))
      Quantity.extended negative (Text.valueIn 16 (whole ++ fraction) * Nat.pow 2 shift.toNat) (Nat.pow 2 (-shift).toNat)

def shapeOf (text : List Char) : Option Nat × Int :=
  let size : Int := text.length
  let front := text.takeWhile (· ≠ '.')
  let hasPoint : Bool := front.length < text.length
  let fraction := ((text.drop (front.length + 1)).takeWhile fun c => c ≠ 'e' && c ≠ 'E').length
  let afterDigit := front.getLast?.any Char.isDigit
  let (places, width) : Nat × Int :=
    if hasPoint then (fraction, size + (if fraction = 0 then -1 else if afterDigit then 0 else 1)) else (0, size)
  let before := text.takeWhile fun c => c ≠ 'e' && c ≠ 'E'
  if before.length = text.length then (some places, width)
  else
    let exponent := (Text.scanInteger true (text.drop (before.length + 1))).value
    let digits := if exponent < 0 then places + exponent.natAbs else places - min places exponent.toNat
    let bare : Int := width - (text.length - before.length : Nat)
    let shifted := if exponent < 0 ∧ (!hasPoint ∨ before.getLast? = some '.') then bare + 1 else bare
    (some digits, shifted + exponent.natAbs)

/-- Reads a number. Nothing comes of a text that is none, and an empty term of what is no number by its own word. -/
def term? (text : List Char) : Option (Option Term) :=
  let body := text.dropWhile Text.isSpaceByte
  let (negative, digits) : Bool × List Char := match body with
    | '-' :: rest => (true, rest)
    | '+' :: rest => (false, rest)
    | rest => (false, rest)
  let shown := body.dropWhile fun c => c = '+' || Text.isSpaceByte c
  let word := String.ofList (digits.map Char.toLower)
  if word = "inf" ∨ word = "infinity" then some (some { value := none, negative, places := some 0 })
  else if word = "nan" then some none
  else
    match digits with
    | '0' :: mark :: rest =>
      if mark = 'x' ∨ mark = 'X' then
        (hexadecimal? negative rest).map fun value =>
          some { value := some value, negative
                 places := if digits.contains '.' ∨ digits.contains 'p' then none else some 0 }
      else decimal negative digits shown
    | _ => decimal negative digits shown
where
  decimal (negative : Bool) (digits shown : List Char) : Option (Option Term) :=
    match Text.scanDecimal digits with
    | some (_, number, exponent, []) =>
      if digits.head? = some '-' ∨ digits.head? = some '+' then none
      else
        let (places, width) := shapeOf shown
        some (some { value := some (Text.binaryOf true negative number exponent), negative, width, places })
    | _ => none

structure Form where
  before : List Char := []
  layout : Text.Layout := {}
  letter : Char := 'g'
  after : List Char := []

def Form.number (form : Form) (x : Quantity) : List Char := form.layout.real form.letter x

def Form.shown (form : Form) (x : Quantity) : List Char := form.before ++ form.number x ++ form.after

/-- A text of a format up to its directive; the number bounds the characters. -/
def plainText : List Char → List Char × List Char
  | '%' :: '%' :: rest =>
    let (text, behind) := plainText rest
    ('%' :: text, behind)
  | '%' :: rest => ([], '%' :: rest)
  | c :: rest =>
    let (text, behind) := plainText rest
    (c :: text, behind)
  | [] => ([], [])

def Form.read (format : String) : Except String Form := do
  let about := fun what : String => "format " ++ cited format ++ " " ++ what
  let (before, rest) := plainText format.toList
  match rest with
  | [] => throw (about "has no % directive")
  | _ :: directive =>
    let flags := directive.takeWhile fun c => "-+#0 '".toList.contains c
    let behind := directive.drop flags.length
    let width := behind.takeWhile Char.isDigit
    let (precision, tail) : Option (List Char) × List Char := match behind.drop width.length with
      | '.' :: more => (some (more.takeWhile Char.isDigit), more.dropWhile Char.isDigit)
      | more => (none, more)
    let body := if tail.head? = some 'L' then tail.drop 1 else tail
    match body with
    | [] => throw (about "ends in %")
    | letter :: rest =>
      if !("efgaEFGA".toList.contains letter) then
        throw (about ("has unknown %" ++ String.ofList [letter] ++ " directive"))
      let (after, more) := plainText rest
      if more ≠ [] then throw (about "has too many % directives")
      let layout : Text.Layout := Text.Layout.withWidth (Text.Layout.withFlags flags) (Text.valueIn 10 width)
      return { before, letter, after, layout := { layout with precision := precision.map (Text.valueIn 10) } }

def Form.standard (equal : Bool) (first step last : Term) : Form :=
  match first.places, step.places, last.places with
  | some one, some two, some three =>
    let places := max one two
    let layout : Text.Layout := { precision := some places }
    let firstWidth := first.width + (places - one : Nat) + (if one = 0 ∧ places ≠ 0 then 1 else 0)
    let lastWidth := last.width + (places : Int) - three + (if three ≠ 0 ∧ places = 0 then -1 else 0)
      + (if three = 0 ∧ places ≠ 0 then 1 else 0)
    { letter := 'f'
      layout := if equal then { layout with zero := true, width := (max firstWidth lastWidth).toNat } else layout }
  | _, _, _ => {}

def countedOut (shown : Int → List Char) (between : List Char) (step : Int) (last : Option Int) : Nat → Int → Utility Unit
  | 0, _ => return
  | fuel + 1, value => do
    emit (shown value)
    let next := value + step
    if last.any fun last => if 0 < step then last < next else next < last then emit ['\n']
    else
      emit between
      countedOut shown between step last fuel next

def valueAt (first step : Quantity) (place : Nat) : Quantity :=
  if place = 0 then first else first.add ((Quantity.ofInt place).mul step)

/-- Numbers from one on. One that is just beyond the last is written too, if it is written like the last one. -/
def rowOn (form : Form) (between : List Char) (first step last : Quantity) : Nat → Nat → Utility Unit
  | 0, _ => return
  | fuel + 1, place => do
    let here := valueAt first step place
    let next := valueAt first step (place + 1)
    emit (form.shown here)
    let beyond := if step.negative then next.less last else last.less next
    if !beyond then
      emit between
      rowOn form between first step last fuel (place + 1)
    else
      let readBack := (term? (form.number next)).join.bind Term.value
      let alike := readBack.any fun value => !(value.less last) && !(last.less value)
      if alike && form.shown here ≠ form.shown next then emit (between ++ form.shown next)
      emit ['\n']

/-- The arguments before the first number below zero, which is no option. -/
def front : List String → List String × List String
  | [] => ([], [])
  | word :: rest =>
    match word.toList with
    | '-' :: c :: _ =>
      if c.isDigit ∨ c = '.' then ([], word :: rest)
      else if ["-s", "-f", "-ws", "-wf", "--separator", "--format"].contains word then
        match rest with
        | value :: more =>
          let (options, others) := front more
          (word :: value :: options, others)
        | [] => ([word], [])
      else
        let (options, others) := front rest
        (word :: options, others)
    | _ => ([], word :: rest)

end Sequence

open Sequence in
def seq : Program := program do
  let (options, others) := front (← arguments)
  let found ← scanArguments
    { flags := "w", valued := "sf", inOrder := true,
      words := [("equal-width", "w", false), ("separator", "s", true), ("format", "f", true)] }
    (options.length + 1) options
  let operands := found.operands ++ others
  if operands.isEmpty then misuse "missing operand"
  if operands.length > 3 then misuse ("extra operand " ++ cited (operands.getD 3 ""))
  let form ← match found.value? "f" with
    | none => pure none
    | some format =>
      match Form.read format with
      | .ok form => pure (some form)
      | .error message => fail message
  if form.isSome && found.has "w" then
    misuse "format string may not be specified when printing equal width strings"
  let number := fun text : String => do
    match term? text.toList with
    | some (some term) => pure term
    | some none => misuse ("invalid " ++ cited "not-a-number" ++ " argument: " ++ cited text)
    | none => misuse ("invalid floating point argument: " ++ cited text)
  let terms ← operands.mapM number
  let one : Term := { value := some (Quantity.ofInt 1), width := 1, places := some 0 }
  let (first, step, last) : Term × Term × Term := match terms with
    | [last] => (one, one, last)
    | [first, last] => (first, one, last)
    | [first, step, last] => (first, step, last)
    | _ => (one, one, one)
  if step.value.any Quantity.isZero then misuse ("invalid Zero increment value: " ++ cited (operands.getD 1 ""))
  let between := ((found.value? "s").getD "\n").toList
  let naturals := operands.filterMap natural?
  if naturals.length = operands.length && form.isNone && !found.has "w" && between.length = 1 then
    let (start, stride, stop) : Nat × Nat × Nat := match naturals with
      | [stop] => (1, 1, stop)
      | [start, stop] => (start, 1, stop)
      | [start, stride, stop] => (start, stride, stop)
      | _ => (1, 1, 0)
    if stride ≤ 200 then
      if start ≤ stop then
        countedOut (fun value => digitsOf value.toNat) between stride (some (stop : Int)) Process.manySteps start
      return
  let shape := form.getD (Form.standard (found.has "w") first step last)
  match first.value, step.value with
  | some start, some stride =>
    let whole := form.isNone && ([first, step, last].all fun term => term.places = some 0)
      && !(start.isZero && start.negative)
    let out := match last.value with
      | some stop => if stride.negative then start.less stop else stop.less start
      | none => last.negative != stride.negative
    if out then return
    else if whole && shape.letter = 'f' then
      let width := shape.layout.width
      let shown := fun value : Int =>
        let digits := Nat.toDigits 10 value.natAbs
        let sign := if value < 0 then ['-'] else []
        sign ++ List.replicate (width - sign.length - digits.length) '0' ++ digits
      countedOut shown between stride.floor (last.value.map Quantity.floor) Process.manySteps start.floor
    else
      match last.value with
      | some stop => rowOn shape between start stride stop Process.manySteps 0
      | none =>
        let bound := Quantity.extended stride.negative (Nat.pow 2 16000) 1
        rowOn shape between start stride bound Process.manySteps 0
  | _, _ => return

end Assay.Utility
