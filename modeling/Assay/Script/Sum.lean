import Assay.Script.Source
import Assay.Text.Numeral

/-!
Sums: expressions on whole numbers of 64 bits, with variables that may be given new values.
-/

namespace Assay.Script.Sum

open Text (numeral isDigitIn valueIn)

inductive Token
  | number (n : Int64)
  | name (text : String)
  | operator (text : String)
  | unknown (message : String)
deriving DecidableEq

structure Placed where
  token : Token
  text : List Char

inductive Fault
  | expectingPrimary
  | expectingEnd
  | expectingColon
  | expectingBracket
  | byZero
  | overflow
  | negativeExponent
  | nothingToChoose
  | noVariable
  | unreadable (message : String)
  | noNumber (text : String)
deriving DecidableEq

def Fault.reason : Fault → String
  | expectingPrimary => "expecting primary"
  | expectingEnd => "expecting EOF"
  | expectingColon => "expecting ':'"
  | expectingBracket => "expecting ')'"
  | byZero => "division by zero"
  | overflow => "quotient too large"
  | noNumber text => "Illegal number: " ++ text
  | unreadable message => message
  | negativeExponent => "exponent less than 0"
  | nothingToChoose => "expression expected"
  | noVariable => "attempted assignment to non-variable"

def Fault.richReason : Fault → String
  | expectingPrimary => "syntax error: operand expected"
  | expectingEnd => "syntax error in expression"
  | expectingColon => "\x60:' expected for conditional expression"
  | expectingBracket => "missing \x60)'"
  | byZero => "division by 0"
  | other => other.reason

structure Failure where
  fault : Fault
  place : List Char := []
  source : Option (List Char) := none

def mostPositive : Nat := 9223372036854775807

/-- A number of 64 bits; what is too large becomes the largest one. -/
def saturated (n : Nat) : Int64 := Int64.ofInt (min n mostPositive)

def spelled? (text : String) : Option Int :=
  let scanned := Text.scanInteger false text.toList
  if scanned.found && scanned.rest.all Text.isSpaceByte then some scanned.value else none

def operators (rich : Bool) : List String :=
  (if rich then ["**", "++", "--"] else [])
    ++ ["<<=", ">>=", "<<", ">>", "<=", ">=", "==", "!=", "&&", "||", "+=", "-=", "*=", "/=", "%=",
        "&=", "^=", "|=", "+", "-", "*", "/", "%", "<", ">", "=", "!", "~", "&", "^", "|", "?", ":", "(",
        ")"] ++ (if rich then [",", "[", "]"] else [])

/-- The value of a digit; from a base on, small and large letters differ. -/
def richDigit (base : Nat) (c : Char) : Nat :=
  if c.isDigit then c.toNat - '0'.toNat
  else if c.isLower then c.toNat - 'a'.toNat + 10
  else if c.isUpper then c.toNat - 'A'.toNat + (if base ≤ 36 then 10 else 36)
  else if c = '@' then 62
  else 63

/-- A number whose base is told by how it begins, or stands before a mark. It wraps around. -/
def richNumber (text : List Char) : Token :=
  let inBase := fun (base : Nat) (digits : List Char) =>
    if digits.contains '#' then .unknown "invalid number"
    else if digits.any fun digit => base ≤ richDigit base digit then .unknown "value too great for base"
    else .number (Int64.ofInt (digits.foldl (fun value digit => base * value + richDigit base digit) 0))
  match text with
  | '0' :: x :: digits =>
    if x = 'x' ∨ x = 'X' then inBase 16 digits
    else if text.contains '#' then .unknown "invalid number"
    else inBase 8 (x :: digits)
  | _ =>
    let front := text.takeWhile Char.isDigit
    match text.drop front.length with
    | '#' :: digits =>
      let base := valueIn 10 front
      if base < 2 ∨ 64 < base then .unknown "invalid arithmetic base"
      else if digits = [] then .unknown "invalid integer constant"
      else inBase base digits
    | _ => inBase 10 text

def isRichNumberChar (c : Char) : Bool := c.isAlphanum || "#@_".toList.contains c

/-- The tokens of a sum; the first argument bounds their number. The flag tells that the last token asks for an
operand. -/
def tokens (rich : Bool) : Nat → Bool → List Char → List Placed
  | 0, _, _ => []
  | _, _, [] => []
  | fuel + 1, asks, c :: rest =>
    let text := c :: rest
    if c = ' ' ∨ c = '\t' ∨ c = '\n' then tokens rich fuel asks rest
    else if c.isDigit then
      if rich then
        let word := text.takeWhile isRichNumberChar
        match richNumber word with
        | .unknown message => [{ token := .unknown message, text := word }]
        | number => { token := number, text } :: tokens rich fuel false (text.drop word.length)
      else
        let (value, after) := numeral text
        { token := .number (saturated value), text } :: tokens rich fuel false after
    else if isNameStart c then
      { token := .name (String.ofList (text.takeWhile isNameChar)), text }
        :: tokens rich fuel false (text.dropWhile isNameChar)
    else
      match (operators rich).find? fun operator => operator.toList.isPrefixOf text with
      | some operator =>
        { token := .operator operator, text }
          :: tokens rich fuel (operator ≠ ")" && operator ≠ "]" && operator ≠ "++" && operator ≠ "--")
            (text.drop operator.length)
      | none =>
        let message := if asks then "syntax error: operand expected"
          else "syntax error: invalid arithmetic operator"
        { token := .unknown message, text } :: tokens rich fuel false rest

def strength? (operator : String) : Option Nat :=
  [("||", 1), ("&&", 2), ("|", 3), ("^", 4), ("&", 5), ("==", 6), ("!=", 6), ("<", 7), (">", 7),
   ("<=", 7), (">=", 7), ("<<", 8), (">>", 8), ("+", 9), ("-", 9), ("*", 10), ("/", 10), ("%", 10),
   ("**", 11)].lookup operator

def ofBool (holds : Bool) : Int64 := if holds then 1 else 0

def power (base : Int64) : Nat → Int64
  | 0 => 1
  | n + 1 => base * power base n

/-- Division goes toward zero; there is none by zero. In the rich dialect a quotient that is too large wraps
around. -/
def apply (rich : Bool) (operator : String) (x y : Int64) : Except Fault Int64 :=
  match operator with
  | "+" => .ok (x + y)
  | "-" => .ok (x - y)
  | "*" => .ok (x * y)
  | "/" => if y = 0 then .error .byZero else if overflows x y then .error .overflow else .ok (x / y)
  | "%" => if y = 0 then .error .byZero else if overflows x y then .error .overflow else .ok (x % y)
  | "<<" => .ok (x <<< y)
  | ">>" => .ok (x >>> y)
  | "&" => .ok (x &&& y)
  | "|" => .ok (x ||| y)
  | "^" => .ok (x ^^^ y)
  | "<" => .ok (ofBool (x < y))
  | ">" => .ok (ofBool (x > y))
  | "<=" => .ok (ofBool (x ≤ y))
  | ">=" => .ok (ofBool (x ≥ y))
  | "==" => .ok (ofBool (x = y))
  | "!=" => .ok (ofBool (x ≠ y))
  | "&&" => .ok (ofBool (x ≠ 0 ∧ y ≠ 0))
  | "||" => .ok (ofBool (x ≠ 0 ∨ y ≠ 0))
  | "**" => .ok (power x y.toInt.toNat)
  | _ => .ok y
where
  overflows (x y : Int64) : Bool := !rich && y = -1 && x.toInt = Text.leastInteger

structure Reckoning where
  rich : Bool := false
  rest : List Placed
  place : List Char := []
  valueOf : Nat → String → Option String
  isDrawn : String → Bool := fun _ => false
  draws : Nat := 0
  isTable : String → Bool := fun _ => false
  changes : List (String × Int64) := []

abbrev Calculation (α : Type) := StateT Reckoning (Except Failure) α

def fail {α : Type} (fault : Fault) : Calculation α := do
  throw { fault, place := (← get).place }

def failAhead {α : Type} (fault : Fault) : Calculation α := do
  let state ← get
  match state.rest with
  | { token := .unknown message, text } :: _ =>
    throw { fault := if state.rich then .unreadable message else fault, place := text }
  | { text, .. } :: _ => throw { fault, place := text }
  | [] => throw { fault, place := state.place }

def next : Calculation (Option Token) := do
  let state ← get
  match state.rest with
  | [] => return none
  | { token, text } :: rest =>
    set { state with rest, place := text }
    return some token

def accept (operator : String) : Calculation Bool := do
  let state ← get
  match state.rest with
  | { token := .operator found, text } :: rest =>
    if found = operator then
      set { state with rest, place := text }
      return true
    else return false
  | _ => return false

def change (name : String) (value : Int64) : Calculation Unit :=
  modify fun state => { state with changes := (name, value) :: state.changes }

def assigning? (operator : String) : Option String :=
  if operator = "=" then some "="
  else if ["<<=", ">>=", "+=", "-=", "*=", "/=", "%=", "&=", "^=", "|="].contains operator then
    some (String.ofList operator.toList.dropLast)
  else none

section

variable (self : Nat → Bool → Calculation Int64)

def valueOf (name : String) : Calculation Int64 := do
  let state ← get
  match state.changes.lookup name with
  | some value => return value
  | none =>
    let text := (state.valueOf state.draws name).getD ""
    if state.isDrawn name then set { state with draws := state.draws + 1 }
    match spelled? text with
    | some value =>
      return Int64.ofInt (max Text.leastInteger (min Text.greatestInteger value))
    | none =>
      if text.all fun c : Char => c = ' ' then return 0
      else if state.rich then
        set { state with rest := tokens true (text.length + 1) true text.toList, place := [] }
        let value ← nested text.toList
        modify fun after => { after with rest := state.rest, place := state.place }
        return value
      else throw { fault := .noNumber text }
where
  nested (text : List Char) : Calculation Int64 := fun state =>
    let whole : Calculation Int64 := do
      let value ← self 0 true
      if (← get).rest.isEmpty then return value else failAhead .expectingEnd
    match whole state with
    | .ok result => .ok result
    | .error failure =>
      .error (if failure.source.isSome then failure else { failure with source := some text })

/-- The text up to the bracket that closes, and what follows it. The number counts the brackets that are open. -/
def untilBracket : Nat → List Char → List Char × List Char
  | _, [] => ([], [])
  | depth, c :: rest =>
    if c = ']' ∧ depth = 0 then ([], rest)
    else
      let inner := if c = '[' then depth + 1 else if c = ']' then depth - 1 else depth
      let (inside, after) := untilBracket inner rest
      (c :: inside, after)

def indexed (name : String) : Calculation String := do
  let state ← get
  match state.isTable name, state.rest with
  | true, { token := .operator "[", text } :: rest =>
    let (key, after) := untilBracket 0 (text.drop 1)
    set { state with rest := rest.dropWhile fun placed => after.length < placed.text.length }
    return name ++ "[" ++ String.ofList key ++ "]"
  | _, _ => numbered
where
  numbered : Calculation String := do
    if ← accept "[" then
      let index ← self 0 true
      let _ ← accept "]"
      return name ++ "[" ++ toString index.toInt ++ "]"
    else return name

def primary : Nat → Bool → Calculation Int64
  | 0, _ => fail .expectingPrimary
  | fuel + 1, counts => do
    match ← next with
    | some (.number n) => return n
    | some (.name plain) =>
      let name ← indexed self plain
      let value ← if counts then valueOf self name else pure 0
      if ← accept "++" then
        if counts then change name (value + 1)
        return value
      else if ← accept "--" then
        if counts then change name (value - 1)
        return value
      else return value
    | some (.operator "(") =>
      let value ← self 0 counts
      if ← accept ")" then return value else failAhead .expectingBracket
    | some (.operator "+") => primary fuel counts
    | some (.operator "-") => return -(← primary fuel counts)
    | some (.operator "!") => return ofBool ((← primary fuel counts) = 0)
    | some (.operator "~") => return ~~~(← primary fuel counts)
    | some (.operator "++") => step fuel counts 1
    | some (.operator "--") => step fuel counts (-1)
    | some (.unknown message) =>
      if (← get).rich then fail (.unreadable message) else fail .expectingPrimary
    | _ => fail .expectingPrimary
where
  step (_ : Nat) (counts : Bool) (amount : Int64) : Calculation Int64 := do
    match ← next with
    | some (.name plain) =>
      let name ← indexed self plain
      let value := (← if counts then valueOf self name else pure 0) + amount
      if counts then change name value
      return value
    | _ => fail .expectingPrimary

/-- Operators that bind at least as tightly as asked. The flag tells whether values count: the side
of a choice that is not taken is only read. -/
def further : Nat → Nat → Bool → Int64 → Calculation Int64
  | 0, _, _, value => return value
  | fuel + 1, least, counts, value => do
    let state ← get
    match state.rest with
    | { token := .operator operator, text } :: rest =>
      match strength? operator with
      | none => return value
      | some strength =>
        if strength < least then return value
        else
          set { state with rest, place := text }
          let behind := (text.drop operator.length).dropWhile fun c => c = ' ' || c = '\t'
          let needed : Bool := match operator with
            | "&&" => counts && value ≠ 0
            | "||" => counts && value = 0
            | _ => counts
          let first ← primary self rest.length needed
          let tighter := if operator = "**" then strength else strength + 1
          let right ← further fuel tighter needed first
          let result ← if counts then
              match operator with
              | "&&" => pure (ofBool (value ≠ 0 && right ≠ 0))
              | "||" => pure (ofBool (value ≠ 0 || right ≠ 0))
              | "**" =>
                if state.rich && right < 0 then failAhead .negativeExponent
                else liftExcept behind (apply (← get).rich operator value right)
              | _ => liftExcept behind (apply (← get).rich operator value right)
            else pure 0
          further fuel least counts result
    | _ => return value
where
  liftExcept (place : List Char) (result : Except Fault Int64) : Calculation Int64 :=
    match result with
    | .ok value => return value
    | .error fault => throw { fault, place }

def chosen (counts : Bool) : Calculation Int64 := do
  let size := (← get).rest.length + 1
  let first ← further self size 1 counts (← primary self size counts)
  if ← accept "?" then
    if ← nothingAhead then failAhead .nothingToChoose
    let yes ← self 1 (counts && first ≠ 0)
    if ← accept ":" then
      if ← nothingAhead then failAhead .nothingToChoose
      let no ← self 2 (counts && first = 0)
      return if first ≠ 0 then yes else no
    else failAhead .expectingColon
  else return first
where
  nothingAhead : Calculation Bool := do
    let state ← get
    match state.rest with
    | [] => return state.rich
    | { token := .operator ":", .. } :: _ => return state.rich
    | _ => return false

def assignment (counts : Bool) : Calculation Int64 := do
  let state ← get
  match state.rest with
  | { token := .name plain, text } :: rest =>
    set { state with rest, place := text }
    let name ← indexed self plain
    let behind ← get
    match behind.rest with
    | { token := .operator operator, text := written } :: after =>
      match assigning? operator with
      | some kind =>
        set { behind with rest := after, place := written }
        let right ← self 1 counts
        if counts then
          let value ← if kind = "=" then pure right else do
            match apply (← get).rich kind (← valueOf self name) right with
            | .ok value => pure value
            | .error fault =>
              throw { fault, place := (written.drop operator.length).dropWhile fun c => c = ' ' || c = '\t' }
          change name value
          return value
        else return right
      | none =>
        set state
        chosen self counts
    | _ =>
      set state
      chosen self counts
  | _ => chosen self counts

def level : Nat → Bool → Calculation Int64
  | 0, counts => do
    let first ← assignment self counts
    if (← get).rich then
      if ← accept "," then self 0 counts else return first
    else return first
  | 1, counts => assignment self counts
  | _, counts => chosen self counts

end

/-- Reads at a level; the first number bounds how deep sums stand in others. -/
def read : Nat → Nat → Bool → Calculation Int64
  | 0, _, _ => fail .expectingPrimary
  | depth + 1, wanted, counts => level (read depth) wanted counts

structure Outcome where
  value : Int64
  changes : List (String × Int64)
  draws : Nat := 0

def value (surroundings : Reckoning) (source : List Char) : Except Failure Outcome := do
  let rich := surroundings.rich
  let all := tokens rich (source.length + 1) true source
  if rich ∧ all.isEmpty then return { value := 0, changes := [] }
  let calculation : Calculation Int64 := do
    let result ← read 10000 0 true
    let final ← get
    match final.rest with
    | [] => return result
    | { token := .operator operator, .. } :: _ =>
      if final.rich ∧ (assigning? operator).isSome then failAhead .noVariable else failAhead .expectingEnd
    | _ => failAhead .expectingEnd
  let (result, final) ← calculation.run { surroundings with rest := all }
  return { value := result, changes := final.changes.reverse, draws := final.draws }

end Assay.Script.Sum
