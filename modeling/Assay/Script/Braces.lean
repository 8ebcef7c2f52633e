import Assay.Script.Grammar
import Assay.Text.Numeral

/-!
Braces in words: a list or a range between them makes several words out of one.
-/

namespace Assay.Script.Braces

inductive Piece
  | char (c : Char)
  | part (part : Part)

def Piece.is (c : Char) : Piece → Bool
  | char d => c = d
  | part _ => false

def piecesOf (word : Word) : List Piece :=
  word.flatMap fun part =>
    match part with
    | .text content false => content.map Piece.char
    | other => [.part other]

def wordOf (pieces : List Piece) : Word :=
  pieces.foldr (fun piece word =>
    match piece with
    | .char c => Part.addText [c] false word
    | .part part => part :: word) []

/-- The pieces up to the brace that closes, and those behind it. The number counts the braces that are open. -/
def closing? : Nat → List Piece → Option (List Piece × List Piece)
  | _, [] => none
  | depth, piece :: rest =>
    let adding := fun depth => (closing? depth rest).map fun (inside, after) => (piece :: inside, after)
    if piece.is '\x7b' then adding (depth + 1)
    else if piece.is '\x7d' then
      match depth with
      | 0 => some ([], rest)
      | depth + 1 => adding depth
    else adding depth

def alternatives : Nat → List Piece → List (List Piece)
  | _, [] => [[]]
  | depth, piece :: rest =>
    if piece.is ',' && depth = 0 then [] :: alternatives 0 rest
    else
      let inner := if piece.is '\x7b' then depth + 1 else if piece.is '\x7d' then depth - 1 else depth
      match alternatives inner rest with
      | first :: others => (piece :: first) :: others
      | [] => [[piece]]

def textOf? (pieces : List Piece) : Option (List Char) :=
  pieces.mapM fun piece =>
    match piece with
    | .char c => some c
    | .part _ => none

def bound? (text : List Char) : Option (Int × Nat × Bool) :=
  let digits := match text with
    | '-' :: rest => rest
    | '+' :: rest => rest
    | rest => rest
  if digits ≠ [] ∧ digits.all Char.isDigit then
    let size : Int := Text.valueIn 10 digits
    some (if text.head? = some '-' then -size else size, text.length,
      digits.head? = some '0' && digits.length > 1)
  else none

def countFrom (start stop : Int) (step : Nat) : List Int :=
  let distance := (stop - start).natAbs / step
  (List.range (distance + 1)).map fun index : Nat =>
    let moved := Int.ofNat (step * index)
    if start ≤ stop then start + moved else start - moved

def padded (width : Nat) (value : Int) : List Char :=
  let digits := (toString value.natAbs).toList
  let sign := if value < 0 then ['-'] else []
  sign ++ List.replicate (width - sign.length - digits.length) '0' ++ digits

def dotted : List Char → List (List Char)
  | '.' :: '.' :: rest => [] :: dotted rest
  | c :: rest =>
    match dotted rest with
    | first :: others => (c :: first) :: others
    | [] => [[c]]
  | [] => [[]]

def range? (text : List Char) : Option (List (List Char)) :=
  let between := fun (first last : List Char) (step : Nat) =>
    match bound? first, bound? last with
    | some (start, firstWidth, firstFilled), some (stop, lastWidth, lastFilled) =>
      let width := if firstFilled || lastFilled then max firstWidth lastWidth else 0
      some ((countFrom start stop step).map (padded width))
    | _, _ =>
      match first, last with
      | [a], [b] =>
        if a.isAlpha && b.isAlpha then
          some ((countFrom a.toNat b.toNat step).map fun code : Int => [Char.ofNat code.toNat])
        else none
      | _, _ => none
  match dotted text with
  | [first, last] => between first last 1
  | [first, last, step] => (bound? step).bind fun (size, _) => between first last (max 1 size.natAbs)
  | _ => none

/-- The words that come of some pieces; the number bounds the steps. -/
def expanded : Nat → List Piece → List (List Piece)
  | 0, pieces => [pieces]
  | _, [] => [[]]
  | fuel + 1, piece :: rest =>
    let plain := fun (_ : Unit) => (expanded fuel rest).map (piece :: ·)
    if piece.is '\x7b' then
      match closing? 0 rest with
      | none => plain ()
      | some (inside, after) =>
        let choices := alternatives 0 inside
        let made : Option (List (List Piece)) :=
          if choices.length > 1 then some (choices.flatMap (expanded fuel))
          else ((textOf? inside).bind range?).map fun values => values.map fun value => value.map Piece.char
        match made with
        | none => plain ()
        | some fronts =>
          let backs := expanded fuel after
          fronts.flatMap fun front => backs.map (front ++ ·)
    else plain ()

def expand (word : Word) : List Word :=
  let pieces := piecesOf word
  if pieces.any (Piece.is '\x7b') then (expanded (pieces.length + 1) pieces).map wordOf else [word]

end Assay.Script.Braces
