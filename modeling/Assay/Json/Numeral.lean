import Assay.Decimal.Binary64

/-!
Numerals of JSON and the numbers they stand for. A number prints as the shortest decimal that reads
back. Reading is cheaper than exact: the digits are gathered in 64 bits and the result is scaled by
one power of ten, so a long numeral may read as a neighbour of the nearest number.
-/

namespace Assay

structure Numeral where
  negative : Bool := false
  whole : List Char
  fraction : Option (List Char) := none
  exponent : Option Int := none
deriving DecidableEq, Repr

inductive Number
  | natural (n : UInt64)
  | negative (i : Int64)
  | real (x : Binary64)
deriving DecidableEq, Repr

namespace Numeral

def renderExponent (exponent : Int) : List Char :=
  'e' :: (if exponent < 0 then '-' else '+') :: Nat.toDigits 10 exponent.natAbs

def render (numeral : Numeral) : List Char :=
  (if numeral.negative then ['-'] else []) ++ numeral.whole
    ++ (match numeral.fraction with | some digits => '.' :: digits | none => [])
    ++ (match numeral.exponent with | some exponent => renderExponent exponent | none => [])

def ofNat (n : Nat) : Numeral := { whole := Nat.toDigits 10 n }

def ofInt (i : Int) : Numeral := { negative := i < 0, whole := Nat.toDigits 10 i.natAbs }

def positionalPlaces : Int × Int := (-4, 16)

/-- The shortest numeral of a number: positional for sizes from 1e-5 to 1e16, with `.0` when whole. -/
def ofBinary (x : Binary64) : Numeral :=
  let decimal := Decimal.shortest x
  let digits := Nat.toDigits 10 decimal.digits
  let point : Int := digits.length + decimal.exponent
  if point < positionalPlaces.1 ∨ positionalPlaces.2 < point then
    { negative := x.negative, whole := digits.take 1,
      fraction := if digits.length = 1 then none else some (digits.drop 1),
      exponent := some (point - 1) }
  else if 0 ≤ decimal.exponent then
    { negative := x.negative, whole := digits ++ List.replicate decimal.exponent.toNat '0',
      fraction := some ['0'] }
  else if 0 < point then
    { negative := x.negative, whole := digits.take point.toNat,
      fraction := some (digits.drop point.toNat) }
  else
    { negative := x.negative, whole := ['0'],
      fraction := some (List.replicate (-point).toNat '0' ++ digits) }

/-- Digits gathered in 64 bits. Once the next digit does not fit, no further one is taken. -/
structure Gathered where
  significand : Nat := 0
  taken : Nat := 0
  full : Bool := false

def gather (start : Nat) (digits : List Char) : Gathered :=
  digits.foldl (fun state digit =>
    let next := 10 * state.significand + (digit.toNat - '0'.toNat)
    if state.full then state
    else if next < UInt64.size then { state with significand := next, taken := state.taken + 1 }
    else { state with full := true }) { significand := start }

def topPower : Nat := 308

def scaleDown (x : Binary64) : Nat → Nat → Binary64
  | 0, _ => x
  | steps + 1, exponent =>
    if exponent ≤ topPower then x.div (Binary64.powerOfTen exponent)
    else if x.isZero then x
    else scaleDown (x.div (Binary64.powerOfTen topPower)) steps (exponent - topPower)

def scale? (significand : Nat) (exponent : Int) : Option Binary64 :=
  let x := Binary64.ofNat significand
  if 0 ≤ exponent then
    if exponent ≤ topPower then
      let scaled := x.mul (Binary64.powerOfTen exponent.toNat)
      if scaled.isFinite then some scaled else none
    else if x.isZero then some x else none
  else some (scaleDown x (exponent.natAbs / topPower + 1) exponent.natAbs)

/-- The largest exponent that is read; a larger one stands for zero or for no number. -/
def exponentLimit : Int := 2147483647

/-- The number a numeral stands for, unless it is out of range. A zero with a sign and a whole
number that does not fit into 64 bits are reals. -/
def number? (numeral : Numeral) : Option Number :=
  let whole := gather 0 numeral.whole
  let fraction := gather whole.significand (numeral.fraction.getD [])
  let shift : Int := numeral.whole.length - whole.taken - fraction.taken
  let signed := fun x : Binary64 => Number.real (if numeral.negative then x.neg else x)
  match numeral.fraction, numeral.exponent with
  | none, none =>
    if whole.full then (scale? whole.significand shift).map signed
    else if numeral.negative then
      if 0 < whole.significand ∧ whole.significand ≤ 9223372036854775808 then
        some (.negative (Int64.ofInt (-whole.significand)))
      else some (signed (Binary64.ofNat whole.significand))
    else some (.natural (UInt64.ofNat whole.significand))
  | _, some exponent =>
    if exponentLimit < exponent.natAbs then
      if fraction.significand ≠ 0 ∧ 0 < exponent then none else some (signed (Binary64.ofNat 0))
    else (scale? fraction.significand (shift + exponent)).map signed
  | some _, none => (scale? fraction.significand shift).map signed

end Numeral

end Assay
