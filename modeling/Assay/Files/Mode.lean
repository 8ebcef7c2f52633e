import Assay.Text.Numeral

/-!
Modes of files: what their owner, their group and others may do with them. A mode has nine bits for that and three
more; it is written with digits or with letters, and a text tells how a mode is to be changed.
-/

namespace Assay.Mode

def all : Nat := 4095

def asOwner : Nat := 2048

def asGroup : Nat := 1024

def sticky : Nat := 512

def reading : Nat := 292

def writing : Nat := 146

def running : Nat := 73

def has (mode bits : Nat) : Bool := mode &&& bits ≠ 0

def without (mode bits : Nat) : Nat := mode - (mode &&& bits)

def runs (mode : Nat) : Bool := has mode running

/-- The nine letters of a mode, with those of the other three bits in the places of the letter for running. -/
def letters (mode : Nat) : List Char :=
  let group := fun (shift special : Nat) (mark : Char) =>
    let bits := mode / shift % 8
    let last := if has mode special then (if bits % 2 = 1 then mark else mark.toUpper)
      else if bits % 2 = 1 then 'x' else '-'
    [if bits / 4 = 1 then 'r' else '-', if bits / 2 % 2 = 1 then 'w' else '-', last]
  group 64 asOwner 's' ++ group 8 asGroup 's' ++ group 1 sticky 't'

def digits (width mode : Nat) : List Char :=
  let shown := Nat.toDigits 8 mode
  List.replicate (width - shown.length) '0' ++ shown

inductive Amount
  | bits (value : Nat)
  | runnable (value : Nat)
  | copies (value : Nat)
deriving DecidableEq, Repr

structure Step where
  sign : Char
  amount : Amount
  affected : Nat := 0
  /-- The bits that were mentioned; those of folders that were not stay as they are. -/
  mentioned : Nat := 0
deriving DecidableEq, Repr

def bitsOf : Char → Nat
  | 'u' => 2496
  | 'g' => 1080
  | 'o' => 519
  | _ => all

def isOctal (c : Char) : Bool := '0' ≤ c && c ≤ '7'

/-- The bits of letters, and whether one of them asks for those for running under a condition. -/
def bitsNamed (text : List Char) : Nat × Bool :=
  text.foldl (fun (bits, runnable) c =>
    match c with
    | 'r' => (bits ||| reading, runnable)
    | 'w' => (bits ||| writing, runnable)
    | 'x' => (bits ||| running, runnable)
    | 's' => (bits ||| asOwner ||| asGroup, runnable)
    | 't' => (bits ||| sticky, runnable)
    | _ => (bits, true)) (0, false)

/-- The steps for those who were named, and what follows them; the number bounds how many there are. -/
def stepsFor? (affected : Nat) : Nat → List Char → Option (List Step × List Char)
  | 0, _ => none
  | fuel + 1, sign :: rest =>
    if !("=+-".toList.contains sign) then none
    else
      let further := fun (step : Step) (after : List Char) =>
        if after.head?.any "=+-".toList.contains then
          (stepsFor? affected fuel after).map fun (steps, left) => (step :: steps, left)
        else some ([step], after)
      let mentioned := fun value : Nat => if affected = 0 then value else affected &&& value
      match rest with
      | c :: more =>
        if isOctal c then
          let digits := rest.takeWhile isOctal
          let value := Text.valueIn 8 digits
          let after := rest.drop digits.length
          if all < value ∨ affected ≠ 0 ∨ after.head?.any (· ≠ ',') then none
          else further { sign, amount := .bits value, affected := all, mentioned := all } after
        else if "ugo".toList.contains c then
          let value := bitsOf c &&& 511
          further { sign, amount := .copies value, affected, mentioned := mentioned value } more
        else
          let named := rest.takeWhile fun d => "rwxXst".toList.contains d
          let (value, runnable) := bitsNamed named
          further
            { sign, amount := if runnable then .runnable value else .bits value, affected, mentioned := mentioned value }
            (rest.drop named.length)
      | [] => further { sign, amount := .bits 0, affected, mentioned := mentioned 0 } []
  | _, [] => none

/-- The steps of clauses between commas; the number bounds how many there are. -/
def clauses? : Nat → List Char → Option (List Step)
  | 0, _ => none
  | fuel + 1, text => do
    let whom := text.takeWhile fun c => "ugoa".toList.contains c
    let affected := whom.foldl (fun bits c => bits ||| bitsOf c) 0
    let (steps, after) ← stepsFor? affected (text.length + 1) (text.drop whom.length)
    match after with
    | [] => some steps
    | ',' :: rest => (clauses? fuel rest).map (steps ++ ·)
    | _ => none

def change? (text : String) : Option (List Step) :=
  let letters := text.toList
  if letters.head?.any isOctal then
    let value := Text.valueIn 8 letters
    if letters.all isOctal ∧ value ≤ all then
      let mentioned := if letters.length < 5 then (value &&& (asOwner ||| asGroup ||| sticky)) ||| 511 else all
      some [{ sign := '=', amount := .bits value, affected := all, mentioned }]
    else none
  else clauses? (letters.length + 1) letters

def stepped (isFolder : Bool) (mask mode : Nat) (step : Step) : Nat :=
  let kept := if isFolder then without (asOwner ||| asGroup) step.mentioned else 0
  let asked := match step.amount with
    | .bits value => value
    | .runnable value => if isFolder || runs mode then value ||| running else value
    | .copies value =>
      let found := value &&& mode
      found ||| (if has found reading then reading else 0) ||| (if has found writing then writing else 0)
        ||| (if has found running then running else 0)
  let fitting := asked &&& (if step.affected = 0 then without all mask else step.affected)
  let value := without fitting kept
  match step.sign with
  | '+' => mode ||| value
  | '-' => without mode value
  | _ =>
    let preserved := (if step.affected = 0 then 0 else without all step.affected) ||| kept
    (mode &&& preserved) ||| value

def changed (steps : List Step) (isFolder : Bool) (mask mode : Nat) : Nat :=
  steps.foldl (stepped isFolder mask) mode

example : (change? "u-w,g+x").map (fun steps => changed steps false 18 0o640) = some 0o450 := by decide

end Assay.Mode
