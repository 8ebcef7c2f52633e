import Assay.Text.CharClass

/-!
Whole numbers as they are written: the base is told by how the digits begin.
-/

namespace Assay.Text

def digitValue (c : Char) : Nat :=
  if c.isDigit then c.toNat - '0'.toNat
  else if c.isLower then c.toNat - 'a'.toNat + 10
  else c.toNat - 'A'.toNat + 10

def isDigitIn (base : Nat) (c : Char) : Bool := c.isAlphanum && digitValue c < base

def valueIn (base : Nat) (digits : List Char) : Nat :=
  digits.foldl (fun value digit => base * value + digitValue digit) 0

def numeral (text : List Char) : Nat × List Char :=
  let digits := fun (base : Nat) (body : List Char) =>
    (valueIn base (body.takeWhile (isDigitIn base)), body.dropWhile (isDigitIn base))
  match text with
  | '0' :: x :: c :: rest =>
    if (x = 'x' ∨ x = 'X') ∧ isDigitIn 16 c then digits 16 (c :: rest)
    else digits 8 text
  | '0' :: _ => digits 8 text
  | _ => digits 10 text

structure Scanned where
  value : Int
  rest : List Char
  found : Bool

def scanInteger (decimal : Bool) (text : List Char) : Scanned :=
  let body := text.dropWhile isSpaceByte
  let (negative, digits) : Bool × List Char :=
    match body with
    | '-' :: rest => (true, rest)
    | '+' :: rest => (false, rest)
    | rest => (false, rest)
  if (digits.head?.map Char.isDigit).getD false then
    let (value, rest) :=
      if decimal then (valueIn 10 (digits.takeWhile Char.isDigit), digits.dropWhile Char.isDigit)
      else numeral digits
    { value := if negative then -(value : Int) else value, rest, found := true }
  else { value := 0, rest := text, found := false }

def leastInteger : Int := -9223372036854775808
def greatestInteger : Int := 9223372036854775807
def greatestNatural : Int := 18446744073709551615

end Assay.Text
