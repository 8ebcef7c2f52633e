/-!
Binary numbers of double precision, held exactly: a sign, a mantissa below 2^53 and a power of
two. Every operation computes the exact result and rounds it once, to the nearest number and at a
tie to the even mantissa. A result too large for the format keeps its exponent, and `isFinite`
tells it apart.
-/

namespace Assay

/-- The quotient rounded to the nearest whole number, a tie to the even one. -/
def roundQuotient (numerator denominator : Nat) : Nat :=
  let quotient := numerator / denominator
  let rest := numerator % denominator
  if 2 * rest < denominator then quotient
  else if denominator < 2 * rest then quotient + 1
  else quotient + quotient % 2

def rescale (base numerator denominator : Nat) (exponent : Int) : Nat × Nat :=
  (numerator * Nat.pow base (-exponent).toNat, denominator * Nat.pow base exponent.toNat)

structure Binary64 where
  negative : Bool
  mantissa : Nat
  exponent : Int
deriving DecidableEq, Repr

namespace Binary64

/-- The largest `k` with `2^k` at most the quotient of two positive numbers. -/
def floorLog (numerator denominator : Nat) : Int :=
  let guess : Int := numerator.log2 - denominator.log2
  let (scaled, unit) := rescale 2 numerator denominator guess
  if unit ≤ scaled then guess else guess - 1

def ofRatio (negative : Bool) (numerator denominator : Nat) : Binary64 :=
  if numerator = 0 then ⟨negative, 0, -1074⟩
  else
    let exponent := max (floorLog numerator denominator - 52) (-1074)
    let (scaled, unit) := rescale 2 numerator denominator exponent
    let mantissa := roundQuotient scaled unit
    if mantissa = Nat.pow 2 53 then ⟨negative, Nat.pow 2 52, exponent + 1⟩
    else ⟨negative, mantissa, exponent⟩

def ofNat (n : Nat) : Binary64 := ofRatio false n 1

def ratio (x : Binary64) : Nat × Nat := rescale 2 x.mantissa 1 (-x.exponent)

def isFinite (x : Binary64) : Bool := x.exponent ≤ 971

def isZero (x : Binary64) : Bool := x.mantissa = 0

def neg (x : Binary64) : Binary64 := { x with negative := !x.negative }

def mul (x y : Binary64) : Binary64 :=
  ofRatio (x.negative != y.negative) (x.ratio.1 * y.ratio.1) (x.ratio.2 * y.ratio.2)

def div (x y : Binary64) : Binary64 :=
  ofRatio (x.negative != y.negative) (x.ratio.1 * y.ratio.2) (x.ratio.2 * y.ratio.1)

def add (x y : Binary64) : Binary64 :=
  ofRatio false (x.ratio.1 * y.ratio.2 + y.ratio.1 * x.ratio.2) (x.ratio.2 * y.ratio.2)

def powerOfTen (exponent : Nat) : Binary64 := ofNat (Nat.pow 10 exponent)

end Binary64

/-!
The shortest decimal that reads back. Among all decimals that round to a given number it has the
fewest digits, and among those it is the nearest.
-/

structure Decimal where
  digits : Nat
  exponent : Int
deriving DecidableEq, Repr

namespace Decimal

def width (n : Nat) : Nat := (Nat.toDigits 10 n).length

def floorLog (numerator denominator : Nat) : Int :=
  let guess : Int := width numerator - width denominator
  let (scaled, unit) := rescale 10 numerator denominator guess
  if unit ≤ scaled then guess else guess - 1

def toBinary (d : Decimal) : Binary64 :=
  let (numerator, denominator) := rescale 10 d.digits 1 (-d.exponent)
  Binary64.ofRatio false numerator denominator

/-- The decimal of this many digits that is nearest to a quotient and rounds as it does. -/
def nearest? (numerator denominator : Nat) (count : Nat) : Option Decimal :=
  let exponent := floorLog numerator denominator + 1 - count
  let (scaled, unit) := rescale 10 numerator denominator exponent
  let target := Binary64.ofRatio false numerator denominator
  let below : Decimal := ⟨scaled / unit, exponent⟩
  let above : Decimal := ⟨scaled / unit + 1, exponent⟩
  let nearer := if roundQuotient scaled unit = scaled / unit then [below, above] else [above, below]
  nearer.find? fun candidate => candidate.toBinary = target

def strip (digits : Nat) (exponent : Int) : Nat → Decimal
  | 0 => ⟨digits, exponent⟩
  | steps + 1 => if digits % 10 = 0 then strip (digits / 10) (exponent + 1) steps else ⟨digits, exponent⟩

/-- The shortest decimal that reads back as the magnitude of a number. -/
def shortest (x : Binary64) : Decimal :=
  if x.mantissa = 0 then ⟨0, 0⟩
  else
    let (numerator, denominator) := x.ratio
    match (List.range 17).findSome? fun count => nearest? numerator denominator (count + 1) with
    | some found => strip found.digits found.exponent 17
    | none => ⟨0, 0⟩

end Decimal

end Assay

namespace Assay.Decimal

def withPlaces (places : Nat) (x : Binary64) : String :=
  let unit := Nat.pow 10 places
  let scaled := roundQuotient (x.ratio.1 * unit) x.ratio.2
  let fraction := Nat.toDigits 10 (scaled % unit)
  let zeros := List.replicate (places - fraction.length) '0'
  toString (scaled / unit) ++ "." ++ String.ofList (zeros ++ fraction)

end Assay.Decimal
