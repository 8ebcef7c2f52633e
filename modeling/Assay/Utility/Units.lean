import Assay.Text.Format
import Assay.Utility.Columns

/-!
Numbers with the letters of their units, and without them.
-/

namespace Assay.Utility

/-- What letters behind a number mean: nothing, thousands, or powers of 1024 with or without a mark. -/
inductive UnitScale
  | none | automatic | thousands | binary | marked
deriving DecidableEq

inductive RoundingRule
  | up | down | fromZero | towardsZero | nearest
deriving DecidableEq

inductive OnInvalid
  | abort | refuse | tell | ignore
deriving DecidableEq

structure UnitForm where
  source : UnitScale := .none
  target : UnitScale := .none
  sourceSize : Nat := 1
  targetSize : Nat := 1
  rounding : RoundingRule := .fromZero
  invalid : OnInvalid := .abort
  padding : Int := 0
  zeros : Nat := 0
  precision : Option Nat := none
  before : List Char := []
  after : List Char := []
  suffix : List Char := []
  delimiter : Option Char := none
  fields : Nat → Bool := (· = 1)
  mark : Char := '\n'

namespace UnitForm

def letters : List Char := ['K', 'M', 'G', 'T', 'P', 'E', 'Z', 'Y']

def baseOf : UnitScale → Nat
  | .binary | .marked => 1024
  | _ => 1000

def powerOf (base count : Nat) : Quantity :=
  Nat.rec (Quantity.ofInt 1) (fun _ power => power.mul (Quantity.ofInt base)) count

def decimal? (text : List Char) : Option (Quantity × Nat × List Char) :=
  let (negative, body) : Bool × List Char := match text with
    | '-' :: rest => (true, rest)
    | rest => (false, rest)
  let whole := body.takeWhile Char.isDigit
  let rest := body.drop whole.length
  let (fraction, after) : List Char × List Char := match rest with
    | '.' :: more => (more.takeWhile Char.isDigit, more.dropWhile Char.isDigit)
    | _ => ([], rest)
  if whole = [] ∧ fraction = [] then none
  else
    some (Quantity.extended negative (Text.valueIn 10 (whole ++ fraction)) (Nat.pow 10 fraction.length),
      fraction.length, after)

def read (form : UnitForm) (text : List Char) : Except String (Quantity × Nat) := do
  let shown := cited (String.ofList text)
  match decimal? text with
  | none => throw ("invalid number: " ++ shown)
  | some (value, places, after) =>
    let (factor, places, rest) ← match after with
      | [] => pure (Quantity.ofInt 1, places, [])
      | _ =>
        match after.dropWhile isBlankSign with
        | [] => throw ("invalid suffix in input: " ++ shown)
        | c :: rest =>
          match letters.findIdx? (· = c) with
          | none => throw ("invalid suffix in input: " ++ shown)
          | some place =>
            if form.source = .none then
              throw ("rejecting suffix in input: " ++ shown ++ " (consider using --from)")
            let (base, rest) : Nat × List Char :=
              if form.source = .automatic ∧ rest.head? = some 'i' then (1024, rest.drop 1) else (baseOf form.source, rest)
            pure (powerOf base (place + 1), 0, rest)
    let rest ← if form.source = .marked then
        match rest with
        | 'i' :: more => pure more
        | _ => throw ("missing 'i' suffix in input: " ++ shown ++ " (e.g Ki/Mi/Gi)")
      else pure rest
    if rest ≠ [] then
      throw ("invalid suffix in input " ++ shown ++ ": " ++ cited (String.ofList rest))
    return (value.mul factor, places)
where
  isBlankSign (c : Char) : Bool := c = ' ' || c = '\t'

def rounded (rule : RoundingRule) (value : Quantity) : Int :=
  let (numerator, denominator) := value.quotient
  let below := numerator.fdiv denominator
  let above := -((-numerator).fdiv denominator)
  match rule with
  | .up => above
  | .down => below
  | .fromZero => if numerator < 0 then below else above
  | .towardsZero => if numerator < 0 then above else below
  | .nearest =>
    let half := (2 * numerator.natAbs + denominator) / (2 * denominator)
    if numerator < 0 then -(half : Int) else half

def roundedTo (rule : RoundingRule) (places : Nat) (value : Quantity) : Quantity :=
  let unit := powerOf 10 places
  (Quantity.ofInt (rounded rule (value.mul unit))).div unit

/-- Divides by a base as long as the magnitude is not below it; the number bounds how often. -/
def scaledDown (base : Quantity) : Nat → Quantity → Quantity × Nat
  | 0, value => (value, 0)
  | fuel + 1, value =>
    if value.abs.less base then (value, 0)
    else
      let (rest, power) := scaledDown base fuel (value.div base)
      (rest, power + 1)

def shown (form : UnitForm) (value : Quantity) (places : Nat) : List Char :=
  let layout := fun (precision : Nat) =>
    ({ precision := some precision, zero := form.zeros ≠ 0, width := form.zeros } : Text.Layout)
  if form.target = .none then
    (layout places).real 'f' (roundedTo form.rounding places value)
  else
    let base := Quantity.ofInt (baseOf form.target)
    let (small, power) := scaledDown base 60 value
    let ten := Quantity.ofInt 10
    let kept := match form.precision with
      | some precision => min (power * 3) precision
      | none => if small.abs.less ten then 1 else 0
    let near := roundedTo form.rounding kept small
    let (final, power) := if near.abs.less base then (near, power) else (near.div base, power + 1)
    let digits := form.precision.getD (if !final.isZero ∧ final.abs.less ten ∧ 0 < power then 1 else 0)
    (layout digits).real 'f' final
      ++ (if power = 0 then [] else [letters.getD (power - 1) '?'])
      ++ (if form.target = .marked ∧ 0 < power then ['i'] else [])

def padded (width : Int) (text : List Char) : List Char :=
  if width < 0 then leftAligned width.natAbs text else rightAligned width.natAbs text

def field (form : UnitForm) (number : Nat) (text : List Char) : Utility (List Char × Bool) := do
  if !form.fields number then return (text, true)
  let suffix := form.suffix
  let bare := if suffix ≠ [] ∧ suffix.length < text.length ∧ suffix.isSuffixOf text then
    text.take (text.length - suffix.length) else text
  let body := bare.dropWhile fun c => c = ' ' || c = '\t'
  let width : Int := if form.padding = 0 ∧ form.delimiter.isNone ∧ (body.length < bare.length ∨ 1 < number) then
    bare.length else form.padding
  let refuse := fun (message : String) => do
    match form.invalid with
    | .ignore => pure ()
    | .abort => fail message 2
    | .refuse | .tell => warn message
    return (text, false)
  match form.read body with
  | .error message => refuse message
  | .ok (value, places) =>
    let scaled := if form.sourceSize = 1 ∧ form.targetSize = 1 then value
      else (value.mul (Quantity.ofInt form.sourceSize)).div (Quantity.ofInt form.targetSize)
    let used := form.precision.getD places
    let (_, digits) := scaledDown (Quantity.ofInt 10) 60 scaled
    let about := String.ofList (({} : Text.Layout).real 'g' scaled)
    if form.target = .none ∧ 18 < digits + used then
      refuse (if used = 0 then "value too large to be printed: '" ++ about ++ "' (consider using --to)"
        else "value/precision too large to be printed: '" ++ about ++ "/" ++ toString used ++ "' (consider using --to)")
    else if 26 < digits then
      refuse ("value too large to be printed: '" ++ about ++ "' (cannot handle values > 999Y)")
    else return (form.before ++ padded width (form.shown scaled used ++ suffix) ++ form.after, true)

def fieldsOf (form : UnitForm) (line : List Char) : List (List Char) :=
  match form.delimiter with
  | some mark => line.splitOn mark
  | none =>
    let isGap := fun c : Char => c = ' ' || c = '\t' || c = '\n'
    let groups := line.splitBy fun a b => isGap a || !isGap b
    -- the first blank behind a field parts it from the next one
    match groups with
    | [] => [[]]
    | first :: rest => first :: (rest.map (List.drop 1))
      ++ (if !(first.any isGap) ∨ line = [] then [] else [])

def line (form : UnitForm) (text : List Char) : Utility (List Char × Bool) := do
  let mut found := []
  let mut fine := true
  let pieces := form.fieldsOf text
  for (piece, place) in pieces.zip (List.range pieces.length) do
    let (shown, good) ← form.field (place + 1) piece
    found := found ++ [shown]
    fine := fine && good
  return ([form.delimiter.getD ' '].intercalate found, fine)

def withFormat (form : UnitForm) (format : String) : Except String UnitForm := do
  let about := fun what : String => "format " ++ cited format ++ " " ++ what
  let (before, rest) := plain format.toList
  match rest with
  | [] => throw (about "has no % directive")
  | _ :: directive =>
    let flags := directive.takeWhile fun c => c = ' ' || c = '\'' || c = '0'
    let behind := directive.drop flags.length
    let (negative, body) : Bool × List Char := match behind with
      | '-' :: more => (true, more)
      | more => (false, more)
    let digits := body.takeWhile Char.isDigit
    let width := Text.valueIn 10 digits
    let zero := flags.contains '0'
    let after := if negative ∧ digits = [] then behind else body.drop digits.length
    if after = [] then throw (about "ends in %")
    let (precision, tail) : Option Nat × List Char ← match after with
      | '.' :: more =>
        if more.head?.any fun c => c = '-' || c = '+' || c = ' ' then
          throw ("invalid precision in format " ++ cited format)
        else pure (some (Text.valueIn 10 (more.takeWhile Char.isDigit)), more.dropWhile Char.isDigit)
      | more => pure (form.precision, more)
    match tail with
    | 'f' :: rest =>
      let (text, more) := plain rest
      if more ≠ [] then throw (about "has too many % directives")
      return { form with
        before, after := text, precision
        padding := if width = 0 then form.padding else if negative then -(width : Int) else if zero then form.padding else width
        zeros := if zero ∧ !negative then width else 0 }
    | _ => throw ("invalid format " ++ cited format ++ ", directive must be %[0]['][-][N][.][N]f")
where
  plain : List Char → List Char × List Char
    | '%' :: '%' :: rest =>
      let (text, behind) := plain rest
      ('%' :: text, behind)
    | '%' :: rest => ([], '%' :: rest)
    | c :: rest =>
      let (text, behind) := plain rest
      (c :: text, behind)
    | [] => ([], [])

end UnitForm

def unitSize (text : String) : Utility Nat := do
  let digits := text.toList.takeWhile Char.isDigit
  let number := if digits = [] then 1 else Text.valueIn 10 digits
  let factor? : Option Nat := match text.toList.drop digits.length with
    | [] => some 1
    | [c] => (UnitForm.letters.findIdx? (· = c)).map fun place => Nat.pow 1000 (place + 1)
    | [c, 'i'] => (UnitForm.letters.findIdx? (· = c)).map fun place => Nat.pow 1024 (place + 1)
    | _ => none
  match factor? with
  | some factor => if number * factor = 0 ∨ text = "" then fail ("invalid unit size: " ++ cited text) else return number * factor
  | none => fail ("invalid unit size: " ++ cited text)

def numfmt : Program := program do
  let found ← options
    { flags := "z", valued := "d", lenient := ["header"],
      words := ["from", "to", "from-unit", "to-unit", "padding", "field", "round", "suffix", "format", "invalid"].map
        (fun word => (word, word, true)) ++
        [("delimiter", "d", true), ("grouping", "grouping", false), ("debug", "debug", false),
         ("header", "header", false), ("zero-terminated", "z", false)] }
  let scales : List (List String × UnitScale) :=
    [(["none"], .none), (["auto"], .automatic), (["si"], .thousands), (["iec"], .binary), (["iec-i"], .marked)]
  let mut form : UnitForm := { mark := if found.has "z" then '\x00' else '\n' }
  let mut format : Option String := none
  let mut header := 0
  for (key, value) in found.options do
    match key with
    | "from" => form := { form with source := ← choice "--from" scales value }
    | "to" => form := { form with target := ← choice "--to" (scales.filter (·.2 ≠ .automatic)) value }
    | "from-unit" => form := { form with sourceSize := ← unitSize value }
    | "to-unit" => form := { form with targetSize := ← unitSize value }
    | "padding" =>
      let scanned := Text.scanInteger true value.toList
      if !scanned.found || scanned.rest ≠ [] || scanned.value = 0 then fail ("invalid padding value " ++ cited value)
      form := { form with padding := scanned.value }
    | "field" =>
      match spansOf true value with
      | .ok spans => form := { form with fields := fun number => value = "-" || spans.any fun span => span.holds number }
      | .error message => if value = "-" then form := { form with fields := fun _ => true } else misuse message
    | "round" =>
      form := { form with
        rounding := ← choice "--round" [(["up"], RoundingRule.up), (["down"], .down), (["from-zero"], .fromZero),
          (["towards-zero"], .towardsZero), (["nearest"], .nearest)] value }
    | "suffix" => form := { form with suffix := value.toList }
    | "format" => format := some value
    | "invalid" =>
      form := { form with
        invalid := ← choice "--invalid" [(["abort"], OnInvalid.abort), (["fail"], .refuse), (["warn"], .tell),
          (["ignore"], .ignore)] value }
    | "d" =>
      match value.toList with
      | [c] => form := { form with delimiter := some c }
      | [] => form := { form with delimiter := some '\x00' }
      | _ => fail "the delimiter must be a single character"
    | "header" =>
      if value = "" then header := 1
      else
        match natural? value with
        | none | some 0 => fail ("invalid header value " ++ cited value)
        | some count => header := count
    | _ => pure ()
  if found.has "grouping" && format.isSome then fail "grouping cannot be combined with --format"
  match format with
  | none => pure ()
  | some text =>
    match form.withFormat text with
    | .ok next => form := next
    | .error message => fail message
  if found.has "grouping" && form.target ≠ .none then fail "grouping cannot be combined with --to"
  let final := form
  let mut fine := true
  if !found.operands.isEmpty then
    for text in found.operands do
      let (shown, good) ← final.line text.toList
      emit (ended shown final.mark)
      fine := fine && good
  else
    match ← lift (Process.readAll 0) with
    | .error fault => fail ("error reading input: " ++ fault.message)
    | .ok content =>
      let text := Octets.chars content
      let pieces := text.splitOn final.mark
      let complete := pieces.getLast? = some []
      let lines := if complete then pieces.dropLast else pieces
      for (line, place) in lines.zip (List.range lines.length) do
        let (shown, good) ← if place < header then pure (line, true) else final.line line
        emit (if complete || place + 1 < lines.length then ended shown final.mark else shown)
        fine := fine && good
  if !fine && form.invalid ≠ .tell && form.invalid ≠ .ignore then throw 2

end Assay.Utility
