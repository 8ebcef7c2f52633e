import Assay.Text.Format
import Assay.Text.Numeral

/-!
Numbers in floating point as texts give them: decimal, hexadecimal, and the words for what is no finite
number.
-/

namespace Assay.Text

def floatOfNat (value : Nat) : Float := Float.ofScientific value false 0

def floatOfInt (value : Int) : Float :=
  if value < 0 then -(floatOfNat value.natAbs) else floatOfNat value.natAbs

def notANumber : Float := 0.0 / 0.0

def infinite : Float := 1.0 / 0.0

def scaled (x : Float) (power : Int) : Float :=
  Nat.rec x (fun _ y => if power < 0 then y / 2 else y * 2) (min power.natAbs 3000)

def scanHexadecimal? (text : List Char) : Option (Float × List Char) :=
  let whole := text.takeWhile (isDigitIn 16)
  let behind := text.drop whole.length
  let (fraction, after) : List Char × List Char := match behind with
    | '.' :: rest => (rest.takeWhile (isDigitIn 16), rest.dropWhile (isDigitIn 16))
    | _ => ([], behind)
  if whole = [] ∧ fraction = [] then none
  else
    let (power, left) : Int × List Char := match after with
      | mark :: rest =>
        if mark = 'p' ∨ mark = 'P' then
          let scanned := scanInteger true rest
          if scanned.found && (rest.head?.map fun c => !isSpaceByte c).getD false then (scanned.value, scanned.rest)
          else (0, after)
        else (0, after)
      | [] => (0, after)
    some (scaled (floatOfNat (valueIn 16 (whole ++ fraction))) (power - 4 * fraction.length), left)

def scanNumber? (text : List Char) : Option (Float × List Char) :=
  let (negative, body) : Bool × List Char := match text with
    | '-' :: rest => (true, rest)
    | '+' :: rest => (false, rest)
    | rest => (false, rest)
  let signed := fun (x : Float) => if negative then -x else x
  let lower := (body.take 8).map Char.toLower
  match [("infinity", infinite), ("inf", infinite), ("nan", notANumber)].find? fun item =>
      item.1.toList.isPrefixOf lower with
  | some (word, x) => some (signed x, body.drop word.length)
  | none =>
    let hexadecimal := match body with
      | '0' :: mark :: rest => if mark = 'x' ∨ mark = 'X' then scanHexadecimal? rest else none
      | _ => none
    match hexadecimal with
    | some (x, rest) => some (signed x, rest)
    | none =>
      (scanDecimal text).map fun (below, digits, exponent, rest) =>
        let bounded := max (-2000) (min 2000 exponent)
        let x := Float.ofScientific digits (bounded < 0) bounded.natAbs
        (if below then -x else x, rest)

end Assay.Text
