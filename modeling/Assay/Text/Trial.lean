import Assay.Text.CharClass
import Assay.Text.Octets

/-!
Expressions that are tried from left to right: of some alternatives the first one that leads to a fit counts, not the
longest one. They can look around, forget how they came to a fit, and call themselves.
-/

namespace Assay.Text

inductive Eagerness
  | often
  | seldom
  | always
deriving DecidableEq

inductive Trial
  | empty
  | never
  | one (test : Char → Bool)
  | edge (holds : Option Char → Option Char → Bool)
  | sequence (first second : Trial)
  | either (first second : Trial)
  | times (least : Nat) (most : Option Nat) (eagerness : Eagerness) (inner : Trial)
  | capture (number : Nat) (inner : Trial)
  | back (ignoresCase : Bool) (number : Nat)
  | once (inner : Trial)
  | ahead (wanted : Bool) (inner : Trial)
  | behind (wanted : Bool) (size : Nat) (inner : Trial)
  | origin
  | keep
  | call (number : Nat)
  | choose (number : Nat) (yes no : Trial)

namespace Trial

structure Field where
  chars : Array Char
  wide : Bool := false
  groups : List (Nat × Trial) := []
  origin : Nat := 0

structure Spot where
  place : Nat
  groups : List (Nat × Nat × Nat) := []
  kept : Option Nat := none

namespace Field

def at? (field : Field) (place : Nat) : Option Char := field.chars[place]?

def before? (field : Field) (place : Nat) : Option Char := if place = 0 then none else field.chars[place - 1]?

def passes (field : Field) (test : Char → Bool) (place : Nat) : Bool :=
  match field.at? place with
  | some c => test c && !(field.wide && Characters.isStray c)
  | none => false

def run (field : Field) (test : Char → Bool) : Nat → Nat → Nat
  | 0, _ => 0
  | most + 1, place => if field.passes test place then field.run test most (place + 1) + 1 else 0

def same (ignoresCase wide : Bool) (wanted found : Char) : Bool :=
  wanted = found || (ignoresCase &&
    if wide then Alphabet.lower wanted = Alphabet.lower found else wanted.toLower = found.toLower)

def repeats (field : Field) (ignoresCase : Bool) (start stop place : Nat) : Bool :=
  (List.range (stop - start)).all fun offset =>
    match field.at? (start + offset), field.at? (place + offset) with
    | some wanted, some found => same ignoresCase field.wide wanted found
    | _, _ => false

end Field

/-- Tries to fit an expression at a spot, such that what follows fits, too. The number bounds how deep trials stand in
one another. -/
def attempt (field : Field) : Nat → Trial → Spot → (Spot → Option Spot) → Option Spot
  | 0, _, _, _ => none
  | fuel + 1, trial, spot, next =>
    match trial with
    | .empty => next spot
    | .never => none
    | .one test => if field.passes test spot.place then next { spot with place := spot.place + 1 } else none
    | .edge holds => if holds (field.before? spot.place) (field.at? spot.place) then next spot else none
    | .sequence first second =>
      attempt field fuel first spot fun after => attempt field fuel second after next
    | .either first second =>
      (attempt field fuel first spot next).orElse fun _ => attempt field fuel second spot next
    | .capture number inner =>
      attempt field fuel inner spot fun after =>
        next { after with groups := (number, spot.place, after.place) :: after.groups.filter (·.1 ≠ number) }
    | .back ignoresCase number =>
      match spot.groups.lookup number with
      | none => none
      | some (start, stop) =>
        if field.repeats ignoresCase start stop spot.place then next { spot with place := spot.place + (stop - start) }
        else none
    | .once inner =>
      match attempt field fuel inner spot some with
      | some after => next after
      | none => none
    | .ahead wanted inner =>
      match attempt field fuel inner spot some with
      | some after => if wanted then next { after with place := spot.place } else none
      | none => if wanted then none else next spot
    | .behind wanted size inner =>
      let found := if size ≤ spot.place then
          attempt field fuel inner { spot with place := spot.place - size } fun after =>
            if after.place = spot.place then some after else none
        else none
      match found with
      | some after => if wanted then next after else none
      | none => if wanted then none else next spot
    | .origin => if spot.place = field.origin then next spot else none
    | .keep => next { spot with kept := some spot.place }
    | .call number =>
      match field.groups.lookup number with
      | none => none
      | some inner =>
        attempt field fuel inner spot fun after => next { after with groups := spot.groups }
    | .choose number yes no =>
      attempt field fuel (if (spot.groups.lookup number).isSome then yes else no) spot next
    | .times least most eagerness (.one test) =>
      let length := field.run test (most.getD field.chars.size) spot.place
      if length < least then none
      else
        let goOn := fun size : Nat => next { spot with place := spot.place + size }
        match eagerness with
        | .often => (List.range (length - least + 1)).findSome? fun missing => goOn (length - missing)
        | .seldom => (List.range (length - least + 1)).findSome? fun more => goOn (least + more)
        | .always => goOn length
    | .times least most .always inner =>
      match attempt field fuel (.times least most .often inner) spot some with
      | some after => next after
      | none => none
    | .times least most eagerness inner =>
      let again := fun _ : Unit =>
        if most = some 0 then none
        else
          attempt field fuel inner spot fun after =>
            if after.place = spot.place then next after
            else attempt field fuel (.times (least - 1) (most.map (· - 1)) eagerness inner) after next
      if 0 < least then again ()
      else if eagerness = .seldom then (next spot).orElse again
      else (again ()).orElse fun _ => next spot

/-- The first part that fits from a place on; the number bounds the places. -/
def partFrom? (field : Field) (trial : Trial) : Nat → Nat → Option (Nat × Nat)
  | 0, _ => none
  | fuel + 1, start =>
    if field.chars.size < start then none
    else
      match attempt field (5000 + 4 * field.chars.size) trial { place := start } some with
      | some spot => some (spot.kept.getD start, spot.place)
      | none => partFrom? field trial fuel (start + 1)

def part? (field : Field) (trial : Trial) (start : Nat) : Option (Nat × Nat) :=
  partFrom? { field with origin := start } trial (field.chars.size + 2) start

def size? : Trial → Option Nat
  | .empty | .never | .edge _ | .ahead .. | .behind .. | .origin | .keep => some 0
  | .one _ => some 1
  | .sequence first second => do return (← size? first) + (← size? second)
  | .either first second | .choose _ first second => do
    let size ← size? first
    if (← size? second) = size then return size else none
  | .times least most _ inner => if most = some least then (size? inner).map (least * ·) else none
  | .capture _ inner | .once inner => size? inner
  | .back .. | .call _ => none

def alternatives : Trial → List Trial
  | .either first second => first :: alternatives second
  | trial => [trial]

def asBehind? (wanted : Bool) (trial : Trial) : Option Trial := do
  let parts ← (alternatives trial).mapM fun part => do return .behind wanted (← size? part) part
  match parts.reverse with
  | [] => none
  | last :: others => return others.foldl (fun made part => if wanted then .either part made else .sequence part made) last

end Trial

end Assay.Text
