import Mathlib.Data.List.Nodup
import Assay.Proofs.Action
import Assay.Proofs.Json.Outline
import Assay.Proofs.OrderedMap

/-!
Readers on what is written and on what is not. A record gives its value back when every one of its
fields does, in whatever order they are written. What else a reader accepts is told by the shape of
the outline, and a strict record is told by its slots: what stands under their names is all it takes.
-/

namespace Assay.Json.Reader

open Outline (ofJson ofFields)

variable {α δ : Type}

/-! Single values. -/

theorem whole_ofInt {least most i : Int} (expected : String) (depth : Nat)
    (fits : least ≤ i ∧ i ≤ most) (first : -9223372036854775808 ≤ i)
    (last : i < 18446744073709551616) :
    whole least most expected depth (ofJson (.ofInt i)) = .ok i := by
  rcases lt_or_ge i 0 with negative | natural
  · have number := Numeral.number?_ofInt_of_neg negative first
    have back : (Int64.ofInt i).toInt = i := Int64.toInt_ofInt_of_le first (by omega)
    simp only [whole, Json.ofInt, ofJson, number, back, if_pos fits.1]
  · obtain ⟨n, rfl⟩ := Int.eq_ofNat_of_zero_le natural
    have small : n < 18446744073709551616 := by omega
    have number : (Numeral.ofInt n).number? = some (.natural (UInt64.ofNat n)) :=
      Numeral.number?_ofNat small
    have back : (UInt64.ofNat n).toNat = n := UInt64.toNat_ofNat_of_lt' small
    simp only [whole, Json.ofInt, ofJson, number, back, if_pos fits.2]

theorem whole_ofNat {most : Int} {n : Nat} (expected : String) (depth : Nat) (fits : n ≤ most)
    (last : n < 18446744073709551616) : whole 0 most expected depth (ofJson (.ofNat n)) = .ok n :=
  whole_ofInt expected depth ⟨by omega, fits⟩ (by omega) (by omega)

theorem uint64_ofJson (expected : String) (depth : Nat) (n : UInt64) :
    uint64 expected depth (ofJson (.ofNat n.toNat)) = .ok n := by
  have bound := n.toNat_lt
  rw [uint64, whole_ofNat _ _ (by omega) bound]
  simp [Except.map]

theorem uint32_ofJson (depth : Nat) (n : UInt32) :
    uint32 depth (ofJson (.ofNat n.toNat)) = .ok n := by
  have bound := n.toNat_lt
  rw [uint32, whole_ofNat _ _ (by omega) (by omega)]
  simp [Except.map]

theorem int32_ofJson (depth : Nat) (i : Int32) : int32 depth (ofJson (.ofInt i.toInt)) = .ok i := by
  have most := i.toInt_lt
  have least := i.le_toInt
  rw [int32, whole_ofInt _ _ ⟨by omega, by omega⟩ (by omega) (by omega)]
  simp [Except.map]

theorem count_ofJson (depth : Nat) {n : Nat} (fits : n < UInt64.size) :
    count depth (ofJson (.ofNat n)) = .ok n := by
  have read := uint64_ofJson "usize" depth (UInt64.ofNat n)
  rw [UInt64.toNat_ofNat_of_lt' fits] at read
  rw [count, read, Except.map, UInt64.toNat_ofNat_of_lt' fits]

theorem optional_ofJson {reader : Reader α} {depth : Nat} {json : Json} {value : α}
    (present : json ≠ .null) (read : reader depth (ofJson json) = .ok value) :
    optional reader depth (ofJson json) = .ok (some value) := by
  unfold optional
  split
  · next absent =>
      cases json with
      | null => exact absurd rfl present
      | _ => simp [ofJson] at absent
  · rw [read]
    rfl

/-! Containers. -/

theorem enter_of_lt {depth : Nat} (room : depth < Outline.depthLimit) :
    enter depth = .ok (depth + 1) := if_pos room

theorem listOf_ofJson_iff {reader : Reader α} {depth : Nat} (room : depth < Outline.depthLimit)
    {toJson : α → Json} {values : List α} :
    listOf reader depth (ofJson (.list (values.map toJson))) = .ok values ↔
      ∀ value ∈ values, reader (depth + 1) (ofJson (toJson value)) = .ok value := by
  rw [← Outcome.mapM_eq_self_iff, ofJson, Outline.ofItems_eq, List.map_map]
  simp only [listOf, enter_of_lt room, Outcome.ok_bind, List.mapM_map, Function.comp_def]
  cases values.mapM fun value => reader (depth + 1) (ofJson (toJson value)) <;> rfl

section

variable {κ : Type} [Ord κ] [Std.TransOrd κ] [Std.LawfulEqOrd κ]

theorem mapEntries_ofFields {key : String → Except Fault κ} {name : κ → String}
    (named : ∀ asked, key (name asked) = .ok asked) (reader : Reader α) (depth : Nat)
    (toJson : α → Json) (entries : List (κ × α)) (map : OrderedMap κ α) :
    mapEntries key reader depth
        (ofFields (entries.map fun entry => (name entry.1, toJson entry.2))) map =
      (entries.mapM fun entry => (reader depth (ofJson (toJson entry.2))).map (entry.1, ·)).map
        map.insertAll := by
  induction entries generalizing map with
  | nil => rfl
  | cons entry rest ih =>
      rw [List.map_cons, ofFields, mapEntries, List.mapM_cons]
      simp only [Reader.name, Outcome.ok_bind, named]
      cases reader depth (ofJson (toJson entry.2)) with
      | error fault => rfl
      | ok value =>
          rw [Outcome.ok_bind, ih]
          cases rest.mapM fun entry => (reader depth (ofJson (toJson entry.2))).map (entry.1, ·) with
          | error fault => rfl
          | ok others => rfl

theorem mapOf_ofJson_iff {key : String → Except Fault κ} {name : κ → String}
    (named : ∀ asked, key (name asked) = .ok asked) {reader : Reader α} {depth : Nat}
    (room : depth < Outline.depthLimit) {toJson : α → Json} {map : OrderedMap κ α} :
    mapOf key reader depth
        (ofJson (.object (map.entries.map fun entry => (name entry.1, toJson entry.2)))) =
      .ok map ↔
    ∀ entry ∈ map.entries, reader (depth + 1) (ofJson (toJson entry.2)) = .ok entry.2 := by
  have entries := mapEntries_ofFields named reader (depth + 1) toJson map.entries .empty
  have each (entry : κ × α) :
      (reader (depth + 1) (ofJson (toJson entry.2))).map (entry.1, ·) = .ok entry ↔
        reader (depth + 1) (ofJson (toJson entry.2)) = .ok entry.2 :=
    Outcome.map_eq_ok_iff Prod.snd (fun _ => rfl) rfl
  simp only [mapOf, ofJson, enter_of_lt room, Outcome.ok_bind, entries, ← each]
  rw [← Outcome.mapM_eq_self_iff]
  cases read : map.entries.mapM fun entry =>
      (reader (depth + 1) (ofJson (toJson entry.2))).map (entry.1, ·) with
  | error fault => simp [Except.map, bind, Except.bind]
  | ok values =>
      have keys : values.map Prod.fst = map.keys := Outcome.keys_of_mapM_ok read
      change Except.ok (OrderedMap.ofList values) = .ok map ↔ Except.ok values = .ok map.entries
      rw [Except.ok.injEq, Except.ok.injEq, OrderedMap.ofList_eq_iff keys]

end

/-! Records. -/

namespace Record

variable {record : Record δ α}

theorem readFields_cons {depth : Nat} {seen : List String} {draft : δ} {field : Field δ}
    {content : Outline} {rest : List (Outline × Outline)}
    (known : record.fields.find? (·.name = field.name) = some field) (new : field.name ∉ seen) :
    record.readFields depth seen draft ((.text (some field.name), content) :: rest) =
      field.read draft depth content >>= fun extended =>
        record.readFields depth (field.name :: seen) extended rest := by
  simp only [readFields, Reader.name, Outcome.ok_bind, known, if_neg new]

theorem readFields_ofFields (depth : Nat) (draft : δ) {parts : List (Field δ × Json)}
    {seen : List String}
    (known : ∀ part ∈ parts, record.fields.find? (·.name = part.1.name) = some part.1)
    (distinct : (parts.map fun part => part.1.name).Nodup)
    (new : ∀ part ∈ parts, part.1.name ∉ seen) :
    record.readFields depth seen draft
        (ofFields (parts.map fun part => (part.1.name, part.2))) =
      parts.foldlM (fun draft part => part.1.read draft depth (ofJson part.2)) draft := by
  induction parts generalizing seen draft with
  | nil => rfl
  | cons part rest ih =>
      obtain ⟨field, content⟩ := part
      rw [List.forall_mem_cons] at known new
      rw [List.map_cons, List.nodup_cons] at distinct
      have others : ∀ part ∈ rest, part.1.name ∉ field.name :: seen := by
        intro part member
        rw [List.mem_cons, not_or]
        exact ⟨fun same => distinct.1 (same ▸ List.mem_map_of_mem member), new.2 part member⟩
      rw [List.map_cons, ofFields, readFields_cons known.1 new.1, List.foldlM_cons]
      exact congrArg (field.read draft depth (ofJson content) >>= ·)
        (funext fun extended => ih extended known.2 distinct.2 others)

theorem find?_of_distinct {fields : List (Field δ)} (distinct : (fields.map Field.name).Nodup)
    {field : Field δ} (member : field ∈ fields) :
    fields.find? (·.name = field.name) = some field := by
  induction fields with
  | nil => simp at member
  | cons first rest ih =>
      rw [List.map_cons, List.nodup_cons] at distinct
      rcases List.mem_cons.mp member with rfl | later
      · simp
      · have other : ¬ first.name = field.name :=
          fun same => distinct.1 (same ▸ List.mem_map_of_mem later)
        rw [List.find?_cons_of_neg (by simpa using other), ih distinct.2 later]

theorem reader_ofJson (distinct : record.fieldNames.Nodup) {depth : Nat}
    (room : depth < Outline.depthLimit) {contents : List Json}
    (whole : record.fields.length = contents.length) :
    record.reader depth (ofJson (.object (record.fieldNames.zip contents))) =
      (record.fields.zip contents).foldlM
        (fun draft part => part.1.read draft (depth + 1) (ofJson part.2)) record.start >>=
          record.make := by
  have parts : record.fieldNames.zip contents =
      (record.fields.zip contents).map fun part => (part.1.name, part.2) := List.zip_map_left
  have names : (record.fields.zip contents).map (fun part => part.1.name) =
      record.fieldNames := by
    have fields := congrArg (List.map Field.name) (List.map_fst_zip (Nat.le_of_eq whole))
    rwa [List.map_map] at fields
  have known : ∀ part ∈ record.fields.zip contents,
      record.fields.find? (·.name = part.1.name) = some part.1 :=
    fun part member => find?_of_distinct distinct (List.of_mem_zip member).1
  have read := readFields_ofFields (depth + 1) record.start known (names ▸ distinct)
    (fun _ _ => List.not_mem_nil)
  rw [ofJson, parts]
  simp only [reader, enter_of_lt room, Outcome.ok_bind, read]
  rfl

end Record

end Assay.Json.Reader

namespace Assay.Json.Outline

variable {β : Type}

/-! Fields by name. -/

def key? : Outline → Option String
  | .text content => content
  | _ => none

theorem key?_eq_some_iff {outline : Outline} {name : String} :
    outline.key? = some name ↔ outline = .text (some name) := by
  cases outline <;> simp [key?]

def contents (name : String) (fields : List (Outline × Outline)) : List Outline :=
  (fields.filter (·.1.key? = some name)).map Prod.snd

@[simp] theorem contents_nil (name : String) : contents name [] = [] := rfl

theorem contents_cons_self {name : String} {field : Outline × Outline}
    (named : field.1.key? = some name) (rest : List (Outline × Outline)) :
    contents name (field :: rest) = field.2 :: contents name rest := by
  simp [contents, named]

theorem contents_cons_of_ne {name : String} {field : Outline × Outline}
    (other : field.1.key? ≠ some name) (rest : List (Outline × Outline)) :
    contents name (field :: rest) = contents name rest := by
  simp [contents, other]

theorem contents_eq_nil_iff {name : String} {fields : List (Outline × Outline)} :
    contents name fields = [] ↔ ∀ field ∈ fields, field.1.key? ≠ some name := by
  simp [contents]

def Distinct (fields : List (Outline × Outline)) : Prop := (fields.map (·.1.key?)).Nodup

def Known (names : List String) (fields : List (Outline × Outline)) : Prop :=
  ∀ field ∈ fields, ∃ name ∈ names, field.1.key? = some name

/-- Every key is one of these names and what stands under it has the shape that goes with the name. -/
def Shaped (shapes : List (String × (Outline → Prop))) (fields : List (Outline × Outline)) : Prop :=
  ∀ field ∈ fields, ∃ shape ∈ shapes, field.1.key? = some shape.1 ∧ shape.2 field.2

/-- The one content there is says what the value is; without one the value is the default. -/
def Given (is : Outline → β → Prop) (default : β) : List Outline → β → Prop
  | [], value => value = default
  | [content], value => is content value
  | _, _ => False

variable {is : Outline → β → Prop} {default value : β}

theorem given_cons_iff {content : Outline} {rest : List Outline} :
    Given is default (content :: rest) value ↔ rest = [] ∧ is content value := by
  cases rest <;> simp [Given]

theorem Given.length_le {contents : List Outline} (given : Given is default contents value) :
    contents.length ≤ 1 := by
  cases contents with
  | nil => exact Nat.zero_le 1
  | cons content rest =>
      obtain ⟨rfl, -⟩ := given_cons_iff.mp given
      exact Nat.le_refl 1

theorem given_none_some_iff {is : Outline → β → Prop} {contents : List Outline} :
    Given (fun content found => ∃ value, is content value ∧ found = some value) none contents
      (some value) ↔ ∃ content, contents = [content] ∧ is content value := by
  cases contents with
  | nil => simp [Given]
  | cons content rest => simp [given_cons_iff, and_comm]

/-! Shapes of values. -/

def IsText (outline : Outline) (content : String) : Prop := outline = .text (some content)

def IsPath (outline : Outline) (path : Path) : Prop := outline = .text (some path.text)

def IsBool (outline : Outline) (value : Bool) : Prop := outline = .bool value

def IsNatural (outline : Outline) (n : UInt64) : Prop :=
  ∃ digits, outline = .number { whole := digits } ∧ Text.digitsValue digits = n.toNat

def IsOptional (is : Outline → β → Prop) (outline : Outline) : Option β → Prop
  | none => outline = .null
  | some value => is outline value

def IsList (is : Outline → β → Prop) (outline : Outline) (values : List β) : Prop :=
  ∃ items, outline = .list items true ∧ List.Forall₂ is items values

def positional (names : List String) (items : List Outline) : List (Outline × Outline) :=
  (names.map fun name => .text (some name)).zip items

/-- The fields that an outline has: those of an object, or those of a list by their places. -/
inductive HasFields (names : List String) (least : Nat) :
    Outline → List (Outline × Outline) → Prop
  | object (fields : List (Outline × Outline)) : HasFields names least (.object fields true) fields
  | list {items : List Outline} (enough : least ≤ items.length)
      (most : items.length ≤ names.length) :
      HasFields names least (.list items true) (positional names items)

theorem hasFields_object_iff {names : List String} {least : Nat} {closed : Bool}
    {fields others : List (Outline × Outline)} :
    HasFields names least (.object fields closed) others ↔ closed = true ∧ others = fields := by
  constructor
  · rintro ⟨⟩
    exact ⟨rfl, rfl⟩
  · rintro ⟨rfl, rfl⟩
    exact .object others

end Assay.Json.Outline

namespace Assay.Json.Reader

open Outline (key? contents Distinct Known Shaped Given IsText IsPath IsBool IsNatural IsOptional
  IsList HasFields positional)

variable {α δ : Type}

theorem mismatch_ne_ok (expected : String) (outline : Outline) (value : α) :
    mismatch expected outline ≠ .ok value := by
  unfold mismatch
  cases found outline <;> simp

theorem name_ok_iff {outline : Outline} {asked : String} :
    Reader.name outline = .ok asked ↔ outline.key? = some asked := by
  rw [Outline.key?_eq_some_iff]
  unfold Reader.name
  split
  · simp
  · next other => exact iff_of_false (by simp) (other _)

theorem text_ok_iff {depth : Nat} {outline : Outline} {content : String} :
    text depth outline = .ok content ↔ IsText outline content := by
  unfold text IsText
  split
  · simp
  · next other => exact iff_of_false (mismatch_ne_ok _ _ _) (other _)

theorem path_ok_iff {depth : Nat} {outline : Outline} {value : Path} :
    path depth outline = .ok value ↔ IsPath outline value := by
  unfold path IsPath
  split
  · next content =>
      obtain ⟨text⟩ := value
      simp
  · next other => exact iff_of_false (mismatch_ne_ok _ _ _) (other _)

theorem bool_ok_iff {depth : Nat} {outline : Outline} {value : Bool} :
    bool depth outline = .ok value ↔ IsBool outline value := by
  unfold bool IsBool
  split
  · simp
  · next other => exact iff_of_false (mismatch_ne_ok _ _ _) (other _)

theorem whole_ok_iff {expected : String} {depth : Nat} {outline : Outline} {i : Int} :
    whole 0 18446744073709551615 expected depth outline = .ok i ↔
      ∃ n : UInt64, IsNatural outline n ∧ i = n.toNat := by
  cases outline with
  | number numeral =>
      have natural (n : UInt64) :
          IsNatural (.number numeral) n ↔ numeral.number? = some (.natural n) := by
        rw [Numeral.number?_eq_natural_iff]
        simp [IsNatural]
      simp only [natural]
      unfold whole
      dsimp only
      split
      · simp_all
      · next n read =>
          have bound := n.toNat_lt
          rw [if_pos (by omega), read]
          simp [eq_comm]
      · next j read =>
          rw [if_neg (by have := Numeral.toInt_neg_of_number? read; omega), read]
          simp
      · simp_all
  | _ =>
      apply iff_of_false
      · unfold whole
        exact mismatch_ne_ok _ _ _
      · rintro ⟨n, ⟨digits, other, -⟩, -⟩
        cases other

theorem uint64_ok_iff {expected : String} {depth : Nat} {outline : Outline} {n : UInt64} :
    uint64 expected depth outline = .ok n ↔ IsNatural outline n := by
  unfold uint64
  rw [Outcome.map_eq_ok_iff_exists]
  simp only [whole_ok_iff]
  constructor
  · rintro ⟨_, ⟨m, said, rfl⟩, rfl⟩
    simpa using said
  · intro said
    exact ⟨n.toNat, ⟨n, said, rfl⟩, by simp⟩

theorem optional_ok_iff {reader : Reader α} {is : Outline → α → Prop} {depth : Nat}
    (reads : ∀ outline value, reader depth outline = .ok value ↔ is outline value)
    (apart : ∀ value, ¬ is .null value) {outline : Outline} {value : Option α} :
    optional reader depth outline = .ok value ↔ IsOptional is outline value := by
  unfold optional
  split
  · cases value with
    | none => simp [IsOptional]
    | some value => simp [IsOptional, apart]
  · next other =>
      rw [Outcome.map_eq_ok_iff_exists]
      cases value with
      | none => simpa [IsOptional] using other
      | some value => simp [IsOptional, reads]

theorem optional_uint64_ok_iff {expected : String} {depth : Nat} {outline : Outline}
    {value : Option UInt64} :
    optional (uint64 expected) depth outline = .ok value ↔ IsOptional IsNatural outline value := by
  apply optional_ok_iff
  · exact fun _ _ => uint64_ok_iff
  · rintro n ⟨digits, other, -⟩
    cases other

theorem listOf_ok_iff {reader : Reader α} {is : Outline → α → Prop} {depth : Nat}
    (room : depth < Outline.depthLimit)
    (reads : ∀ outline value, reader (depth + 1) outline = .ok value ↔ is outline value)
    {outline : Outline} {values : List α} :
    listOf reader depth outline = .ok values ↔ IsList is outline values := by
  unfold listOf IsList
  split
  · next items closed =>
      simp only [enter_of_lt room, Outcome.ok_bind, Outcome.bind_eq_ok_iff,
        Outcome.mapM_eq_ok_iff_forall₂, reads, finish]
      cases closed <;> simp
  · next other =>
      refine iff_of_false (mismatch_ne_ok _ _ _) ?_
      rintro ⟨items, same, -⟩
      exact other _ _ same

theorem listOf_text_ok_iff {depth : Nat} (room : depth < Outline.depthLimit) {outline : Outline}
    {values : List String} :
    listOf text depth outline = .ok values ↔ IsList IsText outline values :=
  listOf_ok_iff room fun _ _ => text_ok_iff

theorem listOf_path_ok_iff {depth : Nat} (room : depth < Outline.depthLimit) {outline : Outline}
    {values : List Path} :
    listOf path depth outline = .ok values ↔ IsList IsPath outline values :=
  listOf_ok_iff room fun _ _ => path_ok_iff

theorem variantName_ok_iff {outline : Outline} {name : String} :
    variantName outline = .ok name ↔ IsText outline name := by
  unfold variantName IsText
  split
  · simp
  · next other => exact iff_of_false (mismatch_ne_ok _ _ _) (other _)

theorem required_ok_iff {name : String} {found : Option α} {value : α} :
    required name found = .ok value ↔ found = some value := by
  cases found <;> simp [required]

/-! Records by their slots. -/

/-- A slot of a structure: the name of its field, how its value is read, and where it is kept. -/
structure Slot (δ : Type) where
  Value : Type
  name : String
  reader : Reader Value
  get : δ → Value
  set : δ → Value → δ

def Slot.field (slot : Slot δ) : Field δ where
  name := slot.name
  read draft depth item := do return slot.set draft (← slot.reader depth item)

def Slot.shape (depth : Nat) (slot : Slot δ) : String × (Outline → Prop) :=
  (slot.name, fun outline => ∃ value, slot.reader depth outline = .ok value)

namespace Record

variable {record : Record δ α} {slots : List (Slot δ)}

/-- A strict record with one field for each slot, where the slots do not touch each other and
there is nothing besides them. -/
structure MadeOf (record : Record δ α) (slots : List (Slot δ)) : Prop where
  fields : record.fields = slots.map Slot.field
  strict : record.strict = true
  names : (slots.map Slot.name).Nodup
  get_set : ∀ slot ∈ slots, ∀ draft value, slot.get (slot.set draft value) = value
  get_set_of_ne : ∀ slot ∈ slots, ∀ other ∈ slots, other.name ≠ slot.name →
    ∀ draft value, other.get (slot.set draft value) = other.get draft
  ext : ∀ draft other, (∀ slot ∈ slots, slot.get draft = slot.get other) → draft = other

theorem MadeOf.fieldNames (made : record.MadeOf slots) :
    record.fieldNames = slots.map Slot.name := by
  rw [Record.fieldNames, made.fields, List.map_map]
  rfl

theorem MadeOf.find? (made : record.MadeOf slots) {slot : Slot δ} (member : slot ∈ slots) :
    record.fields.find? (·.name = slot.field.name) = some slot.field := by
  apply find?_of_distinct
  · exact (made.fieldNames ▸ made.names : record.fieldNames.Nodup)
  · rw [made.fields]
    exact List.mem_map_of_mem member

theorem MadeOf.readFields_cons_ok_iff (made : record.MadeOf slots) {depth : Nat}
    {seen : List String} {draft after : δ} {field : Outline × Outline}
    {rest : List (Outline × Outline)} :
    record.readFields depth seen draft (field :: rest) = .ok after ↔
      ∃ slot ∈ slots, field.1.key? = some slot.name ∧ slot.name ∉ seen ∧
        ∃ value, slot.reader depth field.2 = .ok value ∧
          record.readFields depth (slot.name :: seen) (slot.set draft value) rest = .ok after := by
  obtain ⟨key, content⟩ := field
  constructor
  · intro read
    rw [readFields, Outcome.bind_eq_ok_iff] at read
    obtain ⟨asked, named, read⟩ := read
    rw [name_ok_iff] at named
    split at read
    · next field found =>
        have listed := List.mem_of_find?_eq_some found
        have same : field.name = asked := by simpa using List.find?_some found
        rw [made.fields, List.mem_map] at listed
        obtain ⟨slot, member, rfl⟩ := listed
        subst same
        by_cases met : slot.field.name ∈ seen
        · simp [met, Outcome.bind_eq_ok_iff] at read
        · rw [if_neg met] at read
          obtain ⟨extended, taken, read⟩ := Outcome.bind_eq_ok_iff.mp read
          obtain ⟨value, taken, set⟩ := Outcome.bind_eq_ok_iff.mp taken
          exact ⟨slot, member, named, met, value, taken, by rwa [← Except.ok.inj set] at read⟩
    · rw [made.strict] at read
      simp [Outcome.bind_eq_ok_iff] at read
  · rintro ⟨slot, member, named, new, value, taken, read⟩
    obtain rfl : key = .text (some slot.name) := Outline.key?_eq_some_iff.mp named
    refine (readFields_cons (made.find? member) new).trans ?_
    simp only [Slot.field, taken, Outcome.ok_bind]
    exact read

theorem unseen_cons_iff {taken : String} {seen : List String} {key : Option String}
    {fits : Slot δ → Prop} :
    (∃ slot, fits slot ∧ key = some slot.name ∧ slot.name ∉ taken :: seen) ↔
      key ≠ some taken ∧ ∃ slot, fits slot ∧ key = some slot.name ∧ slot.name ∉ seen := by
  constructor
  · rintro ⟨slot, fit, rfl, unseen⟩
    rw [List.mem_cons, not_or] at unseen
    exact ⟨fun same => unseen.1 (Option.some.inj same), slot, fit, rfl, unseen.2⟩
  · rintro ⟨different, slot, fit, rfl, unseen⟩
    refine ⟨slot, fit, rfl, ?_⟩
    rw [List.mem_cons, not_or]
    exact ⟨fun same => different (congrArg some same), unseen⟩

theorem MadeOf.given_cons_iff (made : record.MadeOf slots) {depth : Nat} {draft after : δ}
    {field : Outline × Outline} {rest : List (Outline × Outline)} {slot other : Slot δ}
    (member : slot ∈ slots) (named : field.1.key? = some slot.name)
    (last : contents slot.name rest = []) {value : slot.Value}
    (taken : slot.reader depth field.2 = .ok value) (listed : other ∈ slots) :
    Given (fun content value => other.reader depth content = .ok value)
        (other.get (slot.set draft value)) (contents other.name rest) (other.get after) ↔
      Given (fun content value => other.reader depth content = .ok value)
        (other.get draft) (contents other.name (field :: rest)) (other.get after) := by
  by_cases same : other.name = slot.name
  · obtain rfl := List.inj_on_of_nodup_map made.names listed member same
    rw [Outline.contents_cons_self named, last, Given, Given, made.get_set other member, taken,
      Except.ok.injEq]
    exact eq_comm
  · have skipped : field.1.key? ≠ some other.name := by
      rw [named]
      exact fun called => same (Option.some.inj called).symm
    rw [made.get_set_of_ne slot member other listed same, Outline.contents_cons_of_ne skipped]

theorem MadeOf.readFields_ok_iff (made : record.MadeOf slots) {depth : Nat} {seen : List String}
    {draft after : δ} {fields : List (Outline × Outline)} :
    record.readFields depth seen draft fields = .ok after ↔
      (∀ field ∈ fields, ∃ slot ∈ slots, field.1.key? = some slot.name ∧ slot.name ∉ seen) ∧
      ∀ slot ∈ slots, Given (fun content value => slot.reader depth content = .ok value)
        (slot.get draft) (contents slot.name fields) (slot.get after) := by
  induction fields generalizing seen draft with
  | nil =>
      simp only [readFields, Except.ok.injEq, List.not_mem_nil, false_implies, implies_true,
        true_and, Outline.contents_nil, Given]
      constructor
      · rintro rfl slot -
        rfl
      · intro same
        exact made.ext _ _ fun slot member => (same slot member).symm
  | cons field rest ih =>
      rw [made.readFields_cons_ok_iff]
      simp only [ih, unseen_cons_iff, forall₂_and, ← Outline.contents_eq_nil_iff,
        List.forall_mem_cons]
      constructor
      · rintro ⟨slot, member, named, new, value, taken, ⟨last, keys⟩, given⟩
        refine ⟨⟨⟨slot, member, named, new⟩, keys⟩, fun other listed => ?_⟩
        exact (made.given_cons_iff member named last taken listed).mp (given other listed)
      · rintro ⟨⟨⟨slot, member, named, new⟩, keys⟩, given⟩
        have own := given slot member
        rw [Outline.contents_cons_self named, Outline.given_cons_iff] at own
        obtain ⟨last, taken⟩ := own
        refine ⟨slot, member, named, new, slot.get after, taken, ⟨last, keys⟩,
          fun other listed => ?_⟩
        exact (made.given_cons_iff member named last taken listed).mpr (given other listed)

theorem MadeOf.readFields_accepts_iff (made : record.MadeOf slots) {depth : Nat}
    {seen : List String} {draft : δ} {fields : List (Outline × Outline)} :
    (∃ after, record.readFields depth seen draft fields = .ok after) ↔
      Distinct fields ∧ ∀ field ∈ fields, ∃ slot,
        (slot ∈ slots ∧ ∃ value, slot.reader depth field.2 = .ok value) ∧
          field.1.key? = some slot.name ∧ slot.name ∉ seen := by
  induction fields generalizing seen draft with
  | nil => simp [readFields, Distinct]
  | cons field rest ih =>
      have new (key : Option String) :
          key ∉ rest.map (·.1.key?) ↔ ∀ later ∈ rest, later.1.key? ≠ key := by simp
      simp only [made.readFields_cons_ok_iff, Distinct, List.map_cons, List.nodup_cons, new,
        List.forall_mem_cons]
      constructor
      · rintro ⟨after, slot, member, named, fresh, value, taken, read⟩
        have others := ih.mp ⟨after, read⟩
        simp only [unseen_cons_iff, forall₂_and] at others
        obtain ⟨distinct, once, fits⟩ := others
        rw [named]
        exact ⟨⟨once, distinct⟩, ⟨slot, ⟨member, value, taken⟩, rfl, fresh⟩, fits⟩
      · rintro ⟨⟨once, distinct⟩, ⟨slot, ⟨member, value, taken⟩, named, fresh⟩, fits⟩
        rw [named] at once
        have others := (@ih (slot.name :: seen) (slot.set draft value)).mpr
        simp only [unseen_cons_iff, forall₂_and] at others
        obtain ⟨after, read⟩ := others ⟨distinct, once, fits⟩
        exact ⟨after, slot, member, named, fresh, value, taken, read⟩

theorem MadeOf.readAll_ok_iff (made : record.MadeOf slots) {depth : Nat} {draft : δ}
    {fields : List (Outline × Outline)} :
    record.readFields depth [] record.start fields = .ok draft ↔
      Known record.fieldNames fields ∧
      ∀ slot ∈ slots, Given (fun content value => slot.reader depth content = .ok value)
        (slot.get record.start) (contents slot.name fields) (slot.get draft) := by
  rw [made.readFields_ok_iff, made.fieldNames]
  simp [Known]

theorem MadeOf.readAll_accepts_iff (made : record.MadeOf slots) {depth : Nat}
    {fields : List (Outline × Outline)} :
    (∃ draft, record.readFields depth [] record.start fields = .ok draft) ↔
      Distinct fields ∧ Shaped (slots.map (Slot.shape depth)) fields := by
  rw [made.readFields_accepts_iff]
  simp [Shaped, Slot.shape, and_assoc, and_comm]

theorem MadeOf.readItems_ok_iff (made : record.MadeOf slots) {depth : Nat} {closed : Bool}
    {todo : List (Slot δ)} (known : ∀ slot ∈ todo, slot ∈ slots)
    (distinct : (todo.map Slot.name).Nodup) {seen : List String}
    (new : ∀ slot ∈ todo, slot.name ∉ seen) {taken : Nat} {draft after : δ}
    {items : List Outline} :
    record.readItems depth closed (todo.map Slot.field) taken draft items = .ok after ↔
      closed = true ∧ items.length ≤ todo.length ∧
      (record.defaults = true ∨ items.length = todo.length) ∧
      record.readFields depth seen draft (positional (todo.map Slot.name) items) = .ok after := by
  induction todo generalizing items seen taken draft with
  | nil =>
      cases items with
      | nil => cases closed <;> simp [readItems, finish, positional, readFields]
      | cons item rest => simp [readItems]
  | cons slot todo ih =>
      rw [List.map_cons, List.nodup_cons] at distinct
      rw [List.forall_mem_cons] at known new
      cases items with
      | nil =>
          cases closed <;> cases short : record.defaults <;>
            simp [readItems, finish, positional, readFields, short, Outcome.bind_eq_ok_iff, pure,
              Except.pure]
      | cons item rest =>
          have others : ∀ other ∈ todo, other.name ∉ slot.name :: seen := by
            intro other listed
            rw [List.mem_cons, not_or]
            exact ⟨fun same => distinct.1 (same ▸ List.mem_map_of_mem listed), new.2 other listed⟩
          have step := fun extended => @ih known.2 distinct.2 (slot.name :: seen) others (taken + 1)
            extended rest
          have front : positional ((slot :: todo).map Slot.name) (item :: rest) =
              (.text (some slot.field.name), item) :: positional (todo.map Slot.name) rest := rfl
          rw [List.map_cons, readItems, front, readFields_cons (made.find? known.1) new.1]
          simp only [Outcome.bind_eq_ok_iff, step, List.length_cons, Nat.add_le_add_iff_right,
            Nat.add_right_cancel_iff]
          constructor
          · rintro ⟨extended, first, done, most, enough, read⟩
            exact ⟨done, most, enough, extended, first, read⟩
          · rintro ⟨done, most, enough, extended, first, read⟩
            exact ⟨extended, first, done, most, enough, read⟩

def least (record : Record δ α) : Nat := if record.defaults then 0 else record.fieldNames.length

theorem least_le_iff {record : Record δ α} {count : Nat} (most : count ≤ record.fieldNames.length) :
    record.least ≤ count ↔ record.defaults = true ∨ count = record.fieldNames.length := by
  unfold least
  split
  · next short => simp [short]
  · next whole =>
      rw [or_iff_right whole]
      omega

theorem MadeOf.reader_ok_iff (made : record.MadeOf slots) {depth : Nat}
    (room : depth < Outline.depthLimit) {outline : Outline} {value : α} :
    record.reader depth outline = .ok value ↔
      ∃ fields, HasFields record.fieldNames record.least outline fields ∧
        ∃ draft, record.readFields (depth + 1) [] record.start fields = .ok draft ∧
          record.make draft = .ok value := by
  cases outline with
  | object fields closed =>
      simp only [reader, enter_of_lt room, Outcome.ok_bind, Outcome.bind_eq_ok_iff]
      cases closed with
      | false =>
          apply iff_of_false
          · simp [finish]
          · rintro ⟨fields, ⟨⟩, -⟩
      | true =>
          constructor
          · rintro ⟨draft, read, -, -, made⟩
            exact ⟨fields, .object fields, draft, read, made⟩
          · rintro ⟨fields, ⟨⟩, draft, read, made⟩
            exact ⟨draft, read, (), rfl, made⟩
  | list items closed =>
      have items_iff (draft : δ) :
          record.readItems (depth + 1) closed record.fields 0 record.start items = .ok draft ↔
            closed = true ∧ items.length ≤ record.fieldNames.length ∧
            (record.defaults = true ∨ items.length = record.fieldNames.length) ∧
            record.readFields (depth + 1) [] record.start (positional record.fieldNames items) =
              .ok draft := by
        rw [made.fields, made.fieldNames, List.length_map]
        apply made.readItems_ok_iff (fun _ member => member) made.names
        exact fun _ _ => List.not_mem_nil
      simp only [reader, enter_of_lt room, Outcome.ok_bind, Outcome.bind_eq_ok_iff, items_iff]
      constructor
      · rintro ⟨draft, ⟨rfl, most, enough, read⟩, made⟩
        exact ⟨_, .list ((least_le_iff most).mpr enough) most, draft, read, made⟩
      · rintro ⟨_, ⟨⟩ | ⟨enough, most⟩, draft, read, made⟩
        exact ⟨draft, ⟨rfl, most, (least_le_iff most).mp enough, read⟩, made⟩
  | _ =>
      apply iff_of_false
      · unfold reader
        exact mismatch_ne_ok _ _ _
      · rintro ⟨fields, ⟨⟩, -⟩

theorem MadeOf.reader_whole_ok_iff {record : Record α α} {slots : List (Slot α)}
    (made : record.MadeOf slots) (whole : record.make = .ok) {depth : Nat}
    (room : depth < Outline.depthLimit) {outline : Outline} {value : α} :
    record.reader depth outline = .ok value ↔
      ∃ fields, HasFields record.fieldNames record.least outline fields ∧
        record.readFields (depth + 1) [] record.start fields = .ok value := by
  rw [made.reader_ok_iff room, whole]
  simp only [Except.ok.injEq, exists_eq_right]

end Record

end Assay.Json.Reader
