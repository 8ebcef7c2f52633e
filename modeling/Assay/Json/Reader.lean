import Assay.Json.Outline
import Assay.Json.Fault
import Assay.OrderedMap
import Assay.Duration
import Assay.Path

/-!
Reading values of a given shape. A reader walks an outline in text order and stops at the first
fault. A structure reads from an object, or from a list of its fields in order.
-/

namespace Assay.Json

/-- Reads a value; the number counts the containers already open around it. -/
abbrev Reader (α : Type) := Nat → Outline → Except Fault α

namespace Reader

def found : Outline → Except Fault Found
  | .null => .ok .null
  | .bool value => .ok (.bool value)
  | .number numeral =>
    match numeral.number? with
    | some what => .ok (.number what)
    | none => .error .malformed
  | .text (some content) => .ok (.text content)
  | .text none => .error .malformed
  | .list .. => .ok .list
  | .object .. => .ok .object
  | .broken => .error .malformed

def mismatch {α : Type} (expected : String) (outline : Outline) : Except Fault α :=
  match found outline with
  | .ok what => .error (.wrongType what expected)
  | .error fault => .error fault

def bool : Reader Bool := fun _ outline =>
  match outline with
  | .bool value => .ok value
  | other => mismatch "a boolean" other

def text : Reader String := fun _ outline =>
  match outline with
  | .text (some content) => .ok content
  | other => mismatch "a string" other

def path : Reader Path := fun _ outline =>
  match outline with
  | .text (some content) => .ok ⟨content⟩
  | other => mismatch "path string" other

def whole (least most : Int) (expected : String) : Reader Int := fun _ outline =>
  match outline with
  | .number numeral =>
    match numeral.number? with
    | none => .error .malformed
    | some (.natural n) =>
      if (n.toNat : Int) ≤ most then .ok n.toNat else .error (.wrongValue (.number (.natural n)) expected)
    | some (.negative i) =>
      if least ≤ i.toInt then .ok i.toInt else .error (.wrongValue (.number (.negative i)) expected)
    | some (.real x) => .error (.wrongType (.number (.real x)) expected)
  | other => mismatch expected other

def uint32 : Reader UInt32 := fun depth outline =>
  (whole 0 4294967295 "u32" depth outline).map fun n => UInt32.ofNat n.toNat

def int32 : Reader Int32 := fun depth outline =>
  (whole (-2147483648) 2147483647 "i32" depth outline).map Int32.ofInt

def uint64 (expected : String) : Reader UInt64 := fun depth outline =>
  (whole 0 18446744073709551615 expected depth outline).map fun n => UInt64.ofNat n.toNat

def count : Reader Nat := fun depth outline =>
  (uint64 "usize" depth outline).map UInt64.toNat

def real : Reader Binary64 := fun _ outline =>
  match outline with
  | .number numeral =>
    match numeral.number? with
    | none => .error .malformed
    | some (.natural n) => .ok (Binary64.ofNat n.toNat)
    | some (.negative i) => .ok (Binary64.ofNat i.toInt.natAbs).neg
    | some (.real x) => .ok x
  | other => mismatch "f64" other

/-- A span of time written in seconds, to the nearest nanosecond. -/
def seconds : Reader Duration := fun depth outline => do
  let x ← real depth outline
  if x.negative ∧ ¬ x.isZero then throw .negativeTime
  match Duration.ofNanos? (roundQuotient (x.ratio.1 * nanosPerSecond) x.ratio.2) with
  | some span => return span
  | none => throw .timeTooLarge

def optional {α : Type} (reader : Reader α) : Reader (Option α) := fun depth outline =>
  match outline with
  | .null => .ok none
  | other => (reader depth other).map some

def enter (depth : Nat) : Except Fault Nat :=
  if depth < Outline.depthLimit then .ok (depth + 1) else .error .malformed

def finish {α : Type} (closed : Bool) (value : α) : Except Fault α :=
  if closed then .ok value else .error .malformed

def listOf {α : Type} (reader : Reader α) : Reader (List α) := fun depth outline =>
  match outline with
  | .list items closed => do
    let inside ← enter depth
    let values ← items.mapM (reader inside)
    finish closed values
  | other => mismatch "a sequence" other

def name : Outline → Except Fault String
  | .text (some content) => .ok content
  | _ => .error .malformed

def mapEntries {κ α : Type} [Ord κ] [Std.TransOrd κ] [Std.LawfulEqOrd κ]
    (key : String → Except Fault κ) (reader : Reader α) (depth : Nat) :
    List (Outline × Outline) → OrderedMap κ α → Except Fault (OrderedMap κ α)
  | [], map => .ok map
  | (nameOutline, content) :: rest, map => do
    let asked ← key (← name nameOutline)
    let value ← reader depth content
    mapEntries key reader depth rest (map.insert asked value)

def mapOf {κ α : Type} [Ord κ] [Std.TransOrd κ] [Std.LawfulEqOrd κ]
    (key : String → Except Fault κ) (reader : Reader α) : Reader (OrderedMap κ α) :=
  fun depth outline =>
    match outline with
    | .object fields closed => do
      let inside ← enter depth
      let map ← mapEntries key reader inside fields OrderedMap.empty
      finish closed map
    | other => mismatch "a map" other

def choose {α : Type} (known : List (String × α)) (asked : String) : Except Fault α :=
  match known.lookup asked with
  | some value => .ok value
  | none => .error (.unknownVariant asked (known.map Prod.fst))

def variantName : Outline → Except Fault String
  | .text (some content) => .ok content
  | other => mismatch "variant identifier" other

/-- One of several names, alone or as the only field of an object that holds null. -/
def oneOf {α : Type} (known : List (String × α)) : Reader α := fun depth outline =>
  match outline with
  | .text (some asked) => choose known asked
  | .object [] _ => .error .malformed
  | .object ((nameOutline, content) :: rest) closed => do
    let _ ← enter depth
    let value ← choose known (← name nameOutline)
    match content with
    | .null => finish (closed && rest.isEmpty) value
    | other => mismatch "unit" other
  | _ => .error .malformed

structure Field (δ : Type) where
  name : String
  read : δ → Reader δ

/-- How a structure is read: its fields, what is there before any of them, and what is made of
the parts. A strict one knows no other fields; one with defaults may be cut short as a list. -/
structure Record (δ α : Type) where
  name : String
  fields : List (Field δ)
  start : δ
  make : δ → Except Fault α
  strict : Bool := false
  defaults : Bool := false

namespace Record

variable {δ α : Type}

def title (record : Record δ α) : String := "struct " ++ record.name

def fieldNames (record : Record δ α) : List String := record.fields.map Field.name

def readFields (record : Record δ α) (depth : Nat) :
    List String → δ → List (Outline × Outline) → Except Fault δ
  | _, draft, [] => .ok draft
  | seen, draft, (nameOutline, content) :: rest => do
    let asked ← Reader.name nameOutline
    match record.fields.find? (·.name = asked) with
    | some field =>
      if asked ∈ seen then throw (.duplicateField asked)
      let extended ← field.read draft depth content
      readFields record depth (asked :: seen) extended rest
    | none =>
      if record.strict then throw (.unknownField asked record.fieldNames)
      if content.complete then readFields record depth seen draft rest else throw .malformed

def readItems (record : Record δ α) (depth : Nat) (closed : Bool) :
    List (Field δ) → Nat → δ → List Outline → Except Fault δ
  | [], _, draft, [] => finish closed draft
  | [], _, _, _ :: _ => .error .malformed
  | field :: fields, taken, draft, item :: rest => do
    let extended ← field.read draft depth item
    readItems record depth closed fields (taken + 1) extended rest
  | _ :: _, taken, draft, [] => do
    finish closed ()
    if record.defaults then return draft
    throw (.wrongLength taken s!"{record.title} with {record.fields.length} elements")

def reader (record : Record δ α) : Reader α := fun depth outline =>
  match outline with
  | .object fields closed => do
    let inside ← enter depth
    let draft ← record.readFields inside [] record.start fields
    finish closed ()
    record.make draft
  | .list items closed => do
    let inside ← enter depth
    let draft ← record.readItems inside closed record.fields 0 record.start items
    record.make draft
  | other => mismatch record.title other

end Record

def required {α : Type} (name : String) : Option α → Except Fault α
  | some value => .ok value
  | none => .error (.missingField name)

def parse {α : Type} (reader : Reader α) (content : String) : Except Fault α := do
  let (outline, ended) := Outline.ofText content.toList
  let value ← reader 0 outline
  if ended then return value else throw .malformed

end Reader

end Assay.Json
