import Assay.Text.Octets
import Assay.Text.Regex
import Assay.Utility.Basic

/-!
Expressions given as arguments: sums, comparisons, choices, and texts that fit patterns.
-/

namespace Assay.Utility

namespace Reckoning

inductive Value
  | number (value : Int)
  | text (chars : List Char)

namespace Value

def chars : Value → List Char
  | number value => (toString value).toList
  | text chars => chars

def spelled? (chars : List Char) : Option Int :=
  let digits := if chars.head? = some '-' then chars.drop 1 else chars
  if digits ≠ [] ∧ digits.all Char.isDigit then
    let size : Int := Text.valueIn 10 digits
    some (if chars.head? = some '-' then -size else size)
  else none

def number? : Value → Option Int
  | number value => some value
  | text chars => spelled? chars

def isNull : Value → Bool
  | number value => value = 0
  | text chars =>
    chars = [] || (let digits := if chars.head? = some '-' then chars.drop 1 else chars
      digits ≠ [] && digits.all (· = '0'))

def ofBool (holds : Bool) : Value := number (if holds then 1 else 0)

end Value

/-- What is left of the arguments, behind the one that was taken last. -/
structure Rest where
  left : List String
  before : String := ""
  wide : Bool := false

abbrev Reading (α : Type) := StateT Rest Utility α

def refuse {α : Type} (message : String) : Reading α := fail message 2

def characters (value : Value) : Reading (List Char) := do
  return if (← get).wide then Text.Characters.gather value.chars else value.chars

def accept (word : String) : Reading Bool := do
  match (← get).left with
  | first :: rest =>
    if first = word then
      modify fun state => { state with left := rest, before := first }
      return true
    else return false
  | [] => return false

def next : Reading String := do
  let state ← get
  match state.left with
  | first :: rest =>
    modify fun state => { state with left := rest, before := first }
    return first
  | [] => refuse ("syntax error: missing argument after " ++ cited state.before)

def chain (operators : List String) (operand : Bool → Reading Value) (needed : Value → Bool)
    (join : String → Value → Value → Reading Value) (counts : Bool) : Nat → Value → Reading Value
  | 0, left => return left
  | size + 1, left => do
    match (← get).left with
    | operator :: _ =>
      if operators.contains operator then
        let _ ← next
        let right ← operand (counts && needed left)
        let value ← if counts then join operator left right else pure left
        chain operators operand needed join counts size value
      else return left
    | [] => return left

def hasGroup : Text.Regex → Bool
  | .group .. => true
  | .sequence first second | .either first second => hasGroup first || hasGroup second
  | .times _ _ inner => hasGroup inner
  | _ => false

def fitted (text pattern : Value) : Reading Value := do
  let chars ← characters text
  match Text.Regex.read { wide := (← get).wide } (← characters pattern) with
  | .error fault => refuse fault.message
  | .ok (regex, _) =>
    let subject : Text.Regex.Subject := { chars := chars.toArray, style := { wide := (← get).wide } }
    let grouped := hasGroup regex
    match Text.Regex.longestAt subject regex 0 with
    | none => return if grouped then .text [] else .number 0
    | some found =>
      if grouped then
        match (Text.Regex.withGroups subject regex found).groups.lookup 1 with
        | some (start, stop) => return .text (Text.Characters.spread ((chars.take stop).drop start))
        | none => return .text []
      else return .number found.stop

def part (text place size : Value) : Reading Value := do
  let chars ← characters text
  match place.number?, size.number? with
  | some first, some count =>
    return .text (if first ≤ 0 ∨ count ≤ 0 then []
      else Text.Characters.spread ((chars.drop (first.toNat - 1)).take count.toNat))
  | _, _ => return .text []

def placeOf (text wanted : Value) : Reading Value := do
  let chars ← characters text
  let others ← characters wanted
  let before := (chars.takeWhile fun c => !others.contains c).length
  return .number (if before = chars.length then 0 else before + 1)

def single (whole : Bool → Reading Value) : Nat → Bool → Reading Value
  | 0, _ => return .text []
  | depth + 1, counts => do
    let inner := single whole depth counts
    if ← accept "+" then return .text (← next).toList
    else if ← accept "length" then return .number (← characters (← inner)).length
    else if ← accept "match" then
      let text ← inner
      let pattern ← inner
      if counts then fitted text pattern else return text
    else if ← accept "index" then
      let text ← inner
      placeOf text (← inner)
    else if ← accept "substr" then
      let text ← inner
      let place ← inner
      part text place (← inner)
    else if ← accept "(" then
      let value ← whole counts
      match (← get).left with
      | [] => refuse ("syntax error: expecting ')' after " ++ cited (← get).before)
      | closing :: _ =>
        if ← accept ")" then return value
        else refuse ("syntax error: expecting ')' instead of " ++ cited closing)
    else if ← accept ")" then refuse "syntax error: unexpected ')'"
    else return .text (← next).toList

def numbers (left right : Value) : Reading (Int × Int) := do
  match left.number?, right.number? with
  | some first, some second => return (first, second)
  | _, _ => refuse "non-integer argument"

def product (operator : String) (left right : Value) : Reading Value := do
  let (first, second) ← numbers left right
  if operator = "*" then return .number (first * second)
  else if second = 0 then refuse "division by zero"
  else return .number (if operator = "/" then first.tdiv second else first.tmod second)

def sum (operator : String) (left right : Value) : Reading Value := do
  let (first, second) ← numbers left right
  return .number (if operator = "+" then first + second else first - second)

def comparison (operator : String) (left right : Value) : Value :=
  let order := match left.number?, right.number? with
    | some first, some second => compare first second
    | _, _ => compare left.chars right.chars
  .ofBool <| match operator with
    | "<" => order.isLT
    | "<=" => order.isLE
    | "=" | "==" => order.isEq
    | "!=" => order.isNe
    | ">=" => order.isGE
    | _ => order.isGT

/-- An expression; the first number bounds how deep brackets stand in one another. -/
def whole : Nat → Bool → Reading Value
  | 0, _ => return .text []
  | depth + 1, counts =>
    let always := fun _ : Value => true
    let rank := fun (operators : List String) (needed : Value → Bool)
        (join : String → Value → Value → Reading Value) (operand : Bool → Reading Value) (matters : Bool) => do
      let first ← operand matters
      chain operators operand needed join matters ((← get).left.length + 1) first
    let texts := rank [":"] always (fun _ => fitted) (single (whole depth) 100000)
    let products := rank ["*", "/", "%"] always product texts
    let sums := rank ["+", "-"] always sum products
    let comparisons := rank ["<", "<=", "=", "==", "!=", ">=", ">"] always
      (fun operator left right => return comparison operator left right) sums
    let both := rank ["&"] (fun left => !left.isNull)
      (fun _ left right => return if left.isNull || right.isNull then .number 0 else left) comparisons
    rank ["|"] Value.isNull
      (fun _ left right => return if !left.isNull then left else if right.isNull then .number 0 else right)
      both counts

end Reckoning

def expr : Program := program do
  losing (Loss.usual 3)
  let given := match ← arguments with
    | "--" :: rest => rest
    | all => all
  if given.isEmpty then misuse "missing operand" 2
  else
    let (value, rest) ← (Reckoning.whole (given.length + 1) true).run { left := given, wide := ← spellsWide }
    match rest.left with
    | extra :: _ => fail ("syntax error: unexpected argument " ++ cited extra) 2
    | [] =>
      emit (value.chars ++ ['\n'])
      modify fun console => { console with status := if value.isNull then 1 else 0 }

end Assay.Utility
