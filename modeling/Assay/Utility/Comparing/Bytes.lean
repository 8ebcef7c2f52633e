import Assay.Utility.Counting
import Assay.Utility.Dump
import Assay.Utility.Plain

/-!
Comparing two files byte by byte: where they differ first, or everywhere.
-/

namespace Assay.Utility

namespace Comparing

inductive Difference
  | at (place line : Nat) (first second : Char)
  /-- One text ends behind so many bytes, on a line, perhaps at the beginning of one. -/
  | ends (firstEnds : Bool) (place line : Nat) (fresh : Bool)
  | none

def differenceOf : Nat → Nat → Bool → List Char → List Char → Difference
  | _, _, _, [], [] => .none
  | place, line, fresh, [], _ => .ends true place line fresh
  | place, line, fresh, _, [] => .ends false place line fresh
  | place, line, _, a :: first, b :: second =>
    if a = b then differenceOf (place + 1) (if a = '\n' then line + 1 else line) (a = '\n') first second
    else .at (place + 1) line a b

def differences : Nat → List Char → List Char → List (Nat × Char × Char)
  | place, a :: first, b :: second =>
    let others := differences (place + 1) first second
    if a = b then others else (place + 1, a, b) :: others
  | _, _, _ => []

def octalOf (c : Char) : List Char := rightAligned 3 (Nat.toDigits 8 c.toNat)

def cmpOptions : Options :=
  { flags := "bcls", valued := "in", failure := 2, signed := true,
    words := [("print-bytes", "b", false), ("verbose", "l", false), ("quiet", "s", false), ("silent", "s", false),
              ("ignore-initial", "i", true), ("bytes", "n", true), ("version", "version", false)] }

def skipOf (text : String) : Utility Nat := do
  match amountOf? text with
  | some amount => return amount
  | none => cmpOptions.misused ("invalid --ignore-initial value '" ++ text ++ "'")

def skipsOf (text : String) : Utility (Nat × Nat) := do
  match text.splitOn ":" with
  | [first, second] => return (← skipOf first, ← skipOf second)
  | _ =>
    let both ← skipOf text
    return (both, both)

/-- The size of what is compared of a file, unless it cannot be known before it is read. -/
def sizeKnown? (file : String) (text : List Char) : Utility (Option Nat) := do
  let known ← if file = "-" then do
      pure (← ask (.standing 0)).isSome
    else do
      match (← tree).locate (← folder) true (path file) with
      | .ok (.present _ (.file ..)) => pure true
      | _ => pure false
  return if known then some text.length else none

def greatestSize : Nat := 9223372036854775807

end Comparing

open Comparing

def cmp : Program := program do
  losing fun fault => ("standard output: " ++ fault.message, 2)
  let given ← arguments
  let found ← options cmpOptions
  if found.has "version" then
    emitText "cmp\n"
    throw 0
  let silent := found.has "s"
  let all := found.has "l"
  if all && silent then cmpOptions.misused "options -l and -s are incompatible"
  let asked ← (found.values "i").foldlM (fun (most : Nat × Nat) text => do
    let (one, two) ← skipsOf text
    return (max most.1 one, max most.2 two)) (0, 0)
  let limit ← match found.value? "n" with
    | none => pure none
    | some text =>
      match amountOf? text with
      | some amount => pure (some amount)
      | none => cmpOptions.misused ("invalid --bytes value '" ++ text ++ "'")
  let (first, others) ← match found.operands with
    | [] => cmpOptions.misused ("missing operand after '" ++ (given.getLast?).getD "cmp" ++ "'")
    | first :: others => pure (first, others)
  let second := others.headD "-"
  let operandSkip := fun (index : Nat) => match others[index]? with
    | none => pure 0
    | some text => skipOf text
  let skips := (max asked.1 (← operandSkip 1), max asked.2 (← operandSkip 2))
  match others.drop 3 with
  | [] => pure ()
  | extra :: _ => cmpOptions.misused ("extra operand '" ++ extra ++ "'")
  let load := fun (file : String) => do
    match ← contentOf file with
    | .ok content => return Octets.chars content
    | .error fault =>
      if silent && fault ≠ .isAFolder then throw 2
      fail (file ++ ": " ++ fault.message) 2
  let same := skips.1 = skips.2 && first = second
  let backwards := second = "-"
  let early ← if backwards && !same then load second else load first
  if same then throw 0
  let late ← if backwards then load first else load second
  let (left, right) := if backwards then (late, early) else (early, late)
  let cut := fun (amount : Nat) (text : List Char) =>
    let rest := text.drop amount
    (limit.map rest.take).getD rest
  let one := cut skips.1 left
  let two := cut skips.2 right
  let unseen := (← ask .ends).any fun item => item.1 = 1 && match item.2 with
    | .device .null => true
    | _ => false
  match differenceOf 0 1 true one two with
  | .none => return
  | difference =>
    if all then
      let sizes : List (Option Nat) := [← sizeKnown? first one, ← sizeKnown? second two, limit]
      let width := (digitsOf (sizes.foldl (fun least size => min least (size.getD least)) greatestSize)).length
      for (place, a, b) in differences 0 one two do
        let shown := fun c : Char => octalOf c ++ if found.has "b" || found.has "c" then ' ' :: leftAligned 4 (caret c) else []
        let row := rightAligned width (digitsOf place) ++ ' ' :: shown a ++ ' ' :: octalOf b
          ++ if found.has "b" || found.has "c" then ' ' :: caret b else []
        emit (row ++ ['\n'])
    else
      match difference with
      | .at place line a b =>
        if !silent then
          let spells := found.has "b" || found.has "c"
          emitText (first ++ " " ++ second ++ " differ: " ++ (if spells then "byte " else "char ")
            ++ toString place ++ ", line " ++ toString line)
          if spells then
            emit (" is ".toList ++ octalOf a ++ ' ' :: caret a ++ ' ' :: octalOf b ++ ' ' :: caret b)
          emitText "\n"
      | _ => pure ()
    match difference with
    | .ends firstEnds place line fresh =>
      if !silent then
        flush
        say ("cmp: EOF on " ++ (if firstEnds then first else second) ++
          (if place = 0 then " which is empty"
            else if all || unseen then " after byte " ++ toString place
            else if fresh then " after byte " ++ toString place ++ ", line " ++ toString (line - 1)
            else " after byte " ++ toString place ++ ", in line " ++ toString line) ++ "\n")
    | .at .. =>
      if all && !unseen && one.length ≠ two.length then
        flush
        say ("cmp: EOF on " ++ (if one.length < two.length then first else second) ++ " after byte "
          ++ toString (min one.length two.length) ++ "\n")
    | .none => pure ()
    throw 1

end Assay.Utility
