import Assay.Decimal.Quantity

/-!
Conversions of formats: numbers and texts brought to a width and a precision.
-/

namespace Assay.Text

structure Layout where
  left : Bool := false
  plus : Bool := false
  space : Bool := false
  alternate : Bool := false
  zero : Bool := false
  width : Nat := 0
  precision : Option Nat := none

namespace Layout

def withFlags (flags : List Char) : Layout where
  left := flags.contains '-'
  plus := flags.contains '+'
  space := flags.contains ' '
  alternate := flags.contains '#'
  zero := flags.contains '0'

/-- A width that is given as an argument; a negative one puts the text to the left. -/
def withWidth (layout : Layout) (width : Int) : Layout :=
  if width < 0 then { layout with left := true, width := width.natAbs }
  else { layout with width := width.toNat }

def pad (layout : Layout) (text : List Char) : List Char :=
  let missing := List.replicate (layout.width - text.length) ' '
  if layout.left then text ++ missing else missing ++ text

/-- A sign or a mark in front, then zeros up to the width if they are asked for, then the digits. -/
def padNumber (layout : Layout) (mark digits : List Char) (zeros : Bool) : List Char :=
  if zeros && !layout.left then
    mark ++ List.replicate (layout.width - mark.length - digits.length) '0' ++ digits
  else layout.pad (mark ++ digits)

def signOf (layout : Layout) (negative : Bool) : List Char :=
  if negative then ['-'] else if layout.plus then ['+'] else if layout.space then [' '] else []

/-- Digits, at least as many as the precision asks for; zero has none at precision zero. -/
def digitsOf (layout : Layout) (base value : Nat) (upper : Bool) : List Char :=
  let digits := if value = 0 ∧ layout.precision = some 0 then [] else Nat.toDigits base value
  let cased := if upper then digits.map Char.toUpper else digits
  List.replicate ((layout.precision.getD 0) - cased.length) '0' ++ cased

def integer (layout : Layout) (value : Int) : List Char :=
  layout.padNumber (layout.signOf (value < 0)) (layout.digitsOf 10 value.natAbs false)
    (layout.zero && layout.precision.isNone)

def natural (layout : Layout) (letter : Char) (value : Nat) : List Char :=
  let base := match letter with
    | 'o' => 8
    | 'x' | 'X' => 16
    | _ => 10
  let digits := layout.digitsOf base value (letter = 'X')
  let zeros : Bool := layout.zero && layout.precision.isNone
  if layout.alternate then
    match letter with
    | 'o' => layout.padNumber [] (if digits.head? = some '0' then digits else '0' :: digits) zeros
    | 'x' | 'X' => layout.padNumber (if value = 0 then [] else ['0', letter]) digits zeros
    | _ => layout.padNumber [] digits zeros
  else layout.padNumber [] digits zeros

def text (layout : Layout) (content : List Char) : List Char :=
  layout.pad (match layout.precision with
    | some size => content.take size
    | none => content)

def fixedDigits (places : Nat) (point : Bool) (x : Quantity) : List Char :=
  let unit := Nat.pow 10 places
  let scaled := roundQuotient (x.ratio.1 * unit) x.ratio.2
  let fraction := Nat.toDigits 10 (scaled % unit)
  let tail := List.replicate (places - fraction.length) '0' ++ fraction
  Nat.toDigits 10 (scaled / unit) ++ (if places = 0 then (if point then ['.'] else []) else '.' :: tail)

def floorLogTen (numerator denominator : Nat) : Int :=
  let guess : Int := (Nat.toDigits 10 numerator).length - (Nat.toDigits 10 denominator).length
  let (scaled, unit) := rescale 10 numerator denominator guess
  if unit ≤ scaled then guess else guess - 1

def leadingDigits (count : Nat) (x : Quantity) : List Char × Int :=
  if x.isZero then (List.replicate count '0', 0)
  else
    let exponent := floorLogTen x.ratio.1 x.ratio.2
    let (scaled, unit) := rescale 10 x.ratio.1 x.ratio.2 (exponent - (count - 1))
    let digits := Nat.toDigits 10 (roundQuotient scaled unit)
    if digits.length > count then (digits.take count, exponent + 1) else (digits, exponent)

def exponentText (letter : Char) (exponent : Int) : List Char :=
  let digits := Nat.toDigits 10 exponent.natAbs
  [letter, if exponent < 0 then '-' else '+'] ++ List.replicate (2 - digits.length) '0' ++ digits

def pointed (point : Bool) : List Char → List Char
  | [] => []
  | [only] => if point then [only, '.'] else [only]
  | first :: rest => first :: '.' :: rest

def withoutZeros (text : List Char) : List Char :=
  if text.contains '.' then
    let kept := text.reverse.dropWhile (· = '0')
    (if kept.head? = some '.' then kept.drop 1 else kept).reverse
  else text

/-- The magnitude in the style of a letter: fixed places, a power of ten, or the shorter one. -/
def magnitude (layout : Layout) (letter : Char) (x : Quantity) : List Char :=
  let places := layout.precision.getD 6
  let mark := if letter.isUpper then 'E' else 'e'
  match letter.toLower with
  | 'f' => fixedDigits places layout.alternate x
  | 'e' =>
    let (digits, exponent) := leadingDigits (places + 1) x
    pointed layout.alternate digits ++ exponentText mark exponent
  | _ =>
    let count := max places 1
    let (digits, exponent) := leadingDigits count x
    let trim := fun text : List Char => if layout.alternate then text else withoutZeros text
    if exponent < -4 ∨ (count : Int) ≤ exponent then
      trim (pointed layout.alternate digits) ++ exponentText mark exponent
    else
      trim (fixedDigits ((count : Int) - 1 - exponent).toNat layout.alternate x)

/-- The magnitude in hexadecimal digits and a power of two. The first digit holds one bit in double precision, and
four bits in extended precision. -/
def hexadecimal (layout : Layout) (upper : Bool) (x : Quantity) : List Char :=
  let places : Nat := if x.bits = 53 then 13 else 15
  let (digits, exponent) : Nat × Int := if x.isZero then (0, 0) else (x.mantissa, x.exponent + 4 * (places : Int))
  let (whole, fraction, power) : Nat × List Char × Int :=
    match layout.precision with
    | none =>
      let all := Nat.toDigits 16 (digits % Nat.pow 16 places)
      let full := List.replicate (places - all.length) '0' ++ all
      (digits / Nat.pow 16 places, (full.reverse.dropWhile (· = '0')).reverse, exponent)
    | some count =>
      let kept := min count places
      let rounded := roundQuotient digits (Nat.pow 16 (places - kept))
      let first := rounded / Nat.pow 16 kept
      let all := Nat.toDigits 16 (rounded % Nat.pow 16 kept)
      let shown := if kept = 0 then [] else List.replicate (kept - all.length) '0' ++ all
      (if 16 ≤ first then 1 else first, shown ++ List.replicate (count - kept) '0',
        if 16 ≤ first then exponent + 4 else exponent)
  let sign := if power < 0 then '-' else '+'
  let text := Nat.toDigits 16 whole
    ++ (if fraction = [] then (if layout.alternate then ['.'] else []) else '.' :: fraction)
    ++ 'p' :: sign :: Nat.toDigits 10 power.natAbs
  if upper then text.map Char.toUpper else text

def real (layout : Layout) (letter : Char) (x : Quantity) : List Char :=
  let sign := layout.signOf x.negative
  if letter = 'a' ∨ letter = 'A' then
    layout.padNumber (sign ++ ['0', if letter = 'a' then 'x' else 'X']) (layout.hexadecimal (letter = 'A') x) layout.zero
  else layout.padNumber sign (layout.magnitude letter x) layout.zero

end Layout

/-- A decimal number at the front of a text and what follows it: the sign, the digits of the
mantissa, and the power of ten. -/
def scanDecimal (text : List Char) : Option (Bool × Nat × Int × List Char) :=
  let (negative, body) : Bool × List Char :=
    match text with
    | '-' :: rest => (true, rest)
    | '+' :: rest => (false, rest)
    | rest => (false, rest)
  let whole := body.takeWhile Char.isDigit
  let behind := body.drop whole.length
  let (fraction, after) : List Char × List Char :=
    match behind with
    | '.' :: rest =>
      let digits := rest.takeWhile Char.isDigit
      if whole = [] ∧ digits = [] then ([], behind) else (digits, rest.drop digits.length)
    | _ => ([], behind)
  if whole = [] ∧ fraction = [] then none
  else
    let value := (whole ++ fraction).foldl (fun n digit => 10 * n + (digit.toNat - '0'.toNat)) 0
    let (exponent, left) : Int × List Char :=
      match after with
      | mark :: rest =>
        if mark = 'e' ∨ mark = 'E' then
          let (sign, digits) : Int × List Char :=
            match rest with
            | '-' :: more => (-1, more)
            | '+' :: more => (1, more)
            | more => (1, more)
          let number := digits.takeWhile Char.isDigit
          if number = [] then (0, after)
          else
            (sign * (number.foldl (fun n digit => 10 * n + (digit.toNat - '0'.toNat)) 0 : Nat),
              digits.drop number.length)
        else (0, after)
      | [] => (0, [])
    some (negative, value, exponent - fraction.length, left)

/-- The binary number nearest to a decimal one, of double or of extended precision; exponents beyond all bounds are
cut. -/
def binaryOf (extended negative : Bool) (digits : Nat) (exponent : Int) : Quantity :=
  let bounded := max (-5000) (min 5000 exponent)
  let numerator := digits * Nat.pow 10 bounded.toNat
  let denominator := Nat.pow 10 (-bounded).toNat
  if extended then Quantity.extended negative numerator denominator
  else Quantity.ofBinary (Binary64.ofRatio negative numerator denominator)

end Assay.Text
