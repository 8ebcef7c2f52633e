import Assay.Decimal.Binary64

/-!
Binary numbers of double and of extended precision, as they are written: a mantissa of 53 or of 64 bits and a power
of two.
-/

namespace Assay

structure Quantity where
  negative : Bool
  mantissa : Nat
  exponent : Int
  bits : Nat
deriving DecidableEq, Repr

namespace Quantity

def ofBinary (x : Binary64) : Quantity :=
  { negative := x.negative, mantissa := x.mantissa, exponent := x.exponent, bits := 53 }

def leastExponent : Int := -16445

def extended (negative : Bool) (numerator denominator : Nat) : Quantity :=
  let made := fun (mantissa : Nat) (exponent : Int) => { negative, mantissa, exponent, bits := 64 : Quantity }
  if numerator = 0 then made 0 leastExponent
  else
    let exponent := max (Binary64.floorLog numerator denominator - 63) leastExponent
    let (scaled, unit) := rescale 2 numerator denominator exponent
    let mantissa := roundQuotient scaled unit
    if mantissa = Nat.pow 2 64 then made (Nat.pow 2 63) (exponent + 1) else made mantissa exponent

def ratio (x : Quantity) : Nat × Nat := rescale 2 x.mantissa 1 (-x.exponent)

def isZero (x : Quantity) : Bool := x.mantissa = 0

def quotient (x : Quantity) : Int × Nat :=
  let (numerator, denominator) := x.ratio
  (if x.negative then -(numerator : Int) else numerator, denominator)

def nearest (numerator : Int) (denominator : Nat) : Quantity :=
  extended (numerator < 0) numerator.natAbs denominator

def ofInt (n : Int) : Quantity := nearest n 1

def add (x y : Quantity) : Quantity :=
  let (a, b) := x.quotient
  let (c, d) := y.quotient
  nearest (a * d + c * b) (b * d)

def mul (x y : Quantity) : Quantity :=
  let (a, b) := x.quotient
  let (c, d) := y.quotient
  nearest (a * c) (b * d)

def div (x y : Quantity) : Quantity :=
  let (a, b) := x.quotient
  let (c, d) := y.quotient
  nearest (if c < 0 then -(a * d) else a * d) (b * c.natAbs)

def abs (x : Quantity) : Quantity := { x with negative := false }

def less (x y : Quantity) : Bool :=
  let (a, b) := x.quotient
  let (c, d) := y.quotient
  a * d < c * b

def floor (x : Quantity) : Int :=
  let (a, b) := x.quotient
  a.fdiv b

end Quantity

end Assay
