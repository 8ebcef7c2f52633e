import Assay.Proofs.Settings

/-!
Settings over their defaults. An object is taken when each of its keys is the name of a setting,
none stands twice and each value has its shape; what it does not name keeps its default. The tools
follow the same rule one level deeper, a suite has no defaults, and a layout passes over whatever
else stands beside its tag and its folder.
-/

namespace Assay

open Json (Outline)
open Json.Outline
open Json.Reader (Slot listOf text path)
open Json.Reader.Record (MadeOf)

/-! Layouts. -/

namespace Layout

/-- A layout as an object or as a list. What an object has besides the tag and the folder may be
anything that can be kept. -/
inductive Shown (depth : Nat) : Outline → Layout → Prop
  | object {naming : Naming} {fields : List (Outline × Outline)} {folder : Path}
      (known : naming ∈ namings) (keys : ∀ field ∈ fields, field.1.key? ≠ none)
      (tag : contents tagName fields = [.text (some naming.kind)])
      (named : contents naming.field fields = [.text (some folder.text)])
      (kept : ∀ field ∈ fields, field.1.key? ≠ some tagName → field.2.storable (depth + 1) = true) :
      Shown depth (.object fields true) (naming.make folder)
  | list {naming : Naming} {folder : Path} (known : naming ∈ namings) :
      Shown depth (.list [.text (some naming.kind), .text (some folder.text)] true)
        (naming.make folder)

theorem lookup_kind_iff {listed : List Naming} (distinct : (listed.map Naming.kind).Nodup)
    {kind : String} {naming : Naming} :
    (listed.map fun naming => (naming.kind, naming)).lookup kind = some naming ↔
      naming ∈ listed ∧ kind = naming.kind := by
  induction listed with
  | nil => simp
  | cons first rest ih =>
      rw [List.map_cons, List.nodup_cons] at distinct
      rw [List.map_cons, List.lookup_cons, List.mem_cons]
      by_cases same : kind = first.kind
      · subst same
        simp only [beq_self_eq_true, Option.some.injEq]
        constructor
        · rintro rfl
          exact ⟨Or.inl rfl, rfl⟩
        · rintro ⟨rfl | later, same⟩
          · rfl
          · exact absurd (same ▸ List.mem_map_of_mem later) distinct.1
      · rw [beq_false_of_ne same, ih distinct.2]
        constructor
        · rintro ⟨later, called⟩
          exact ⟨Or.inr later, called⟩
        · rintro ⟨rfl | later, called⟩
          · exact absurd called same
          · exact ⟨later, called⟩

theorem readTag_ok_iff {outline : Outline} {naming : Naming} :
    readTag outline = .ok naming ↔ naming ∈ namings ∧ outline = .text (some naming.kind) := by
  have chosen (kind : String) : Json.Reader.choose known kind = .ok naming ↔
      naming ∈ namings ∧ kind = naming.kind := by
    rw [← lookup_kind_iff (by decide)]
    unfold Json.Reader.choose
    change _ ↔ known.lookup kind = some naming
    cases known.lookup kind <;> simp
  unfold readTag
  rw [Outcome.bind_eq_ok_iff]
  simp only [Json.Reader.variantName_ok_iff, chosen, IsText]
  constructor
  · rintro ⟨kind, rfl, known, rfl⟩
    exact ⟨known, rfl⟩
  · rintro ⟨known, rfl⟩
    exact ⟨_, rfl, known, rfl⟩

def Once {β : Type} (is : Outline → β → Prop) (before : Option β) :
    List Outline → Option β → Prop :=
  Given (fun content after => before = none ∧ ∃ value, is content value ∧ after = some value) before

section

variable {β : Type} {is : Outline → β → Prop} {found : Option β}

theorem once_some_iff {first : β} {contents : List Outline} :
    Once is (some first) contents found ↔ contents = [] ∧ found = some first := by
  cases contents with
  | nil => simp [Once, Given]
  | cons content rest => simp [Once, given_cons_iff]

theorem once_none_cons_iff {content : Outline} {rest : List Outline} :
    Once is none (content :: rest) found ↔
      rest = [] ∧ ∃ value, is content value ∧ found = some value := by
  simp [Once, given_cons_iff]

theorem once_none_some_iff {contents : List Outline} {value : β} :
    Once is none contents (some value) ↔ ∃ content, contents = [content] ∧ is content value := by
  cases contents with
  | nil => simp [Once, Given]
  | cons content rest => simp [once_none_cons_iff, and_comm]

end

def untagged (fields : List (Outline × Outline)) : List (String × Outline) :=
  fields.filterMap fun field =>
    match field.1.key? with
    | some name => if name = tagName then none else some (name, field.2)
    | none => none

theorem splitFields_ok_iff {depth : Nat} {tag found : Option Naming}
    {kept all : List (String × Outline)} {fields : List (Outline × Outline)} :
    splitFields depth tag kept fields = .ok (found, all) ↔
      (∀ field ∈ fields, field.1.key? ≠ none) ∧
      (∀ field ∈ fields, field.1.key? ≠ some tagName → field.2.storable depth = true) ∧
      Once (fun content naming => readTag content = .ok naming) tag (contents tagName fields) found ∧
      all = kept ++ untagged fields := by
  induction fields generalizing tag kept with
  | nil =>
      simp only [splitFields, Except.ok.injEq, Prod.mk.injEq, List.not_mem_nil, false_implies,
        implies_true, true_and, contents_nil, Once, Given, untagged, List.filterMap_nil,
        List.append_nil]
      exact and_congr eq_comm eq_comm
  | cons field rest ih =>
      obtain ⟨key, content⟩ := field
      rw [splitFields, Outcome.bind_eq_ok_iff]
      simp only [Json.Reader.name_ok_iff, List.forall_mem_cons]
      cases named : key.key? with
      | none => simp
      | some name =>
          simp only [Option.some.injEq, exists_eq_left']
          by_cases isTag : name = tagName
          · subst isTag
            have passed : untagged ((key, content) :: rest) = untagged rest := by
              simp [untagged, named]
            rw [contents_cons_self named, passed, if_pos rfl]
            cases tag with
            | some first =>
                simp [once_some_iff, Outcome.bind_eq_ok_iff]
            | none =>
                simp only [Option.isSome_none, Bool.false_eq_true, if_false, Outcome.bind_eq_ok_iff,
                  ih, once_some_iff, once_none_cons_iff]
                constructor
                · rintro ⟨naming, tag, keys, stored, ⟨last, rfl⟩, rfl⟩
                  exact ⟨⟨by simp, keys⟩, ⟨by simp, stored⟩, ⟨last, naming, tag, rfl⟩, rfl⟩
                · rintro ⟨⟨-, keys⟩, ⟨-, stored⟩, ⟨last, naming, tag, rfl⟩, rfl⟩
                  exact ⟨naming, tag, keys, stored, ⟨last, rfl⟩, rfl⟩
          · have skipped : key.key? ≠ some tagName := by
              rw [named]
              exact fun same => isTag (Option.some.inj same)
            have added : untagged ((key, content) :: rest) = (name, content) :: untagged rest := by
              simp [untagged, named, isTag]
            rw [contents_cons_of_ne skipped, added, if_neg isTag]
            by_cases stored : content.storable depth = true
            · rw [if_pos stored, ih]
              simp [stored]
            · rw [if_neg stored]
              simp [stored, isTag]

def keptUnder (name : String) (kept : List (String × Outline)) : List Outline :=
  (kept.filter (·.1 = name)).map Prod.snd

theorem keptUnder_untagged {name : String} (other : name ≠ tagName)
    (fields : List (Outline × Outline)) : keptUnder name (untagged fields) = contents name fields := by
  induction fields with
  | nil => rfl
  | cons field rest ih =>
      unfold keptUnder untagged contents at ih ⊢
      cases named : field.1.key? with
      | none => simp [named, ih]
      | some asked =>
          by_cases isTag : asked = tagName
          · have skipped : tagName ≠ name := Ne.symm other
            simp [named, isTag, skipped, ih]
          · by_cases same : asked = name
            · simp [named, same, ih, other]
            · simp [named, isTag, same, ih]

theorem readKept_ok_iff {naming : Naming} {found : Option Path} {kept : List (String × Outline)}
    {folder : Path} :
    readKept naming found kept = .ok folder ↔
      Once IsPath found (keptUnder naming.field kept) (some folder) := by
  induction kept generalizing found with
  | nil =>
      cases found with
      | none => simp [readKept, keptUnder, Once, Given]
      | some first => simp [readKept, keptUnder, Once, Given, eq_comm]
  | cons field rest ih =>
      obtain ⟨name, content⟩ := field
      by_cases same : name = naming.field
      · have front : keptUnder naming.field ((name, content) :: rest) =
            content :: keptUnder naming.field rest := by simp [keptUnder, same]
        rw [readKept, if_pos same, front]
        cases found with
        | some first => simp [once_some_iff]
        | none =>
            simp only [Option.isSome_none, Bool.false_eq_true, if_false, once_none_cons_iff]
            cases taken : Json.Reader.path 0 content with
            | error fault =>
                have unread (path : Path) : ¬ IsPath content path := by
                  rw [← Json.Reader.path_ok_iff, taken]
                  simp
                simp [unread]
            | ok path =>
                have said (other : Path) : IsPath content other ↔ path = other := by
                  rw [← Json.Reader.path_ok_iff, taken, Except.ok.injEq]
                simp only [ih, once_some_iff, said, Option.some.injEq, exists_eq_left', eq_comm]
      · have skipped : keptUnder naming.field ((name, content) :: rest) =
            keptUnder naming.field rest := by simp [keptUnder, same]
        rw [readKept, if_neg same, skipped, ih]

theorem field_ne_tagName {naming : Naming} (known : naming ∈ namings) :
    naming.field ≠ tagName := by
  simp only [namings, List.mem_cons, List.not_mem_nil, or_false] at known
  rcases known with rfl | rfl
  · decide
  · decide

theorem reader_object_ok_iff {depth : Nat} (room : depth < depthLimit)
    {fields : List (Outline × Outline)} {closed : Bool} {layout : Layout} :
    reader depth (.object fields closed) = .ok layout ↔
      Shown depth (.object fields closed) layout := by
  have path_iff (naming : Naming) (known : naming ∈ namings) (folder : Path) :
      readKept naming none (untagged fields) = .ok folder ↔
        contents naming.field fields = [.text (some folder.text)] := by
    rw [readKept_ok_iff, keptUnder_untagged (field_ne_tagName known), once_none_some_iff]
    simp [IsPath]
  simp only [reader, Json.Reader.enter_of_lt room, Outcome.ok_bind, Outcome.bind_eq_ok_iff]
  constructor
  · rintro ⟨⟨tag, kept⟩, split, _, ended, naming, required, folder, found, made⟩
    obtain ⟨keys, stored, once, rfl⟩ := splitFields_ok_iff.mp split
    obtain rfl := Json.Reader.required_ok_iff.mp required
    obtain ⟨content, tagged, read⟩ := once_none_some_iff.mp once
    obtain ⟨known, rfl⟩ := readTag_ok_iff.mp read
    rw [List.nil_append, path_iff naming known] at found
    cases closed with
    | false => simp [Json.Reader.finish] at ended
    | true =>
        rw [← Except.ok.inj made]
        exact .object known keys tagged found stored
  · intro shown
    cases shown with
    | @object naming _ folder known keys tag named kept =>
      have split : splitFields (depth + 1) none [] fields = .ok (some naming, untagged fields) :=
        splitFields_ok_iff.mpr ⟨keys, kept,
          once_none_some_iff.mpr ⟨_, tag, readTag_ok_iff.mpr ⟨known, rfl⟩⟩, rfl⟩
      exact ⟨_, split, (), rfl, naming, rfl, folder, (path_iff naming known folder).mpr named, rfl⟩

theorem reader_list_ok_iff {depth : Nat} (room : depth < depthLimit) {items : List Outline}
    {closed : Bool} {layout : Layout} :
    reader depth (.list items closed) = .ok layout ↔ Shown depth (.list items closed) layout := by
  cases items with
  | nil =>
      apply iff_of_false
      · simp [reader, Json.Reader.enter_of_lt room, Outcome.bind_eq_ok_iff]
      · rintro ⟨⟩
  | cons first rest =>
      simp only [reader, Json.Reader.enter_of_lt room, Outcome.ok_bind, Outcome.bind_eq_ok_iff,
        readTag_ok_iff]
      constructor
      · rintro ⟨naming, ⟨known, rfl⟩, _, ended, read⟩
        have whole : closed = true := by
          cases closed <;> simp [Json.Reader.finish] at ended ⊢
        subst whole
        rcases rest with _ | ⟨folder, _ | ⟨next, extra⟩⟩
        · simp at read
        · simp only [Outcome.bind_eq_ok_iff, Json.Reader.path_ok_iff, IsPath] at read
          obtain ⟨path, rfl, made⟩ := read
          rw [← Except.ok.inj made]
          exact .list known
        · obtain ⟨path, -, read⟩ := Outcome.bind_eq_ok_iff.mp read
          simp at read
      · intro shown
        cases shown with
        | list known => exact ⟨_, ⟨known, rfl⟩, (), rfl, rfl⟩

theorem reader_ok_iff {depth : Nat} (room : depth < depthLimit) {outline : Outline}
    {layout : Layout} : reader depth outline = .ok layout ↔ Shown depth outline layout := by
  cases outline with
  | object fields closed => exact reader_object_ok_iff room
  | list items closed => exact reader_list_ok_iff room
  | _ =>
      apply iff_of_false
      · unfold reader
        exact Json.Reader.mismatch_ne_ok _ _ _
      · rintro ⟨⟩

end Layout

/-! Suites. -/

namespace Suite

structure Filled (depth : Nat) (fields : List (Outline × Outline)) (suite : Suite) : Prop where
  known : Known record.fieldNames fields
  name : ∃ content, contents "name" fields = [content] ∧ IsText content suite.name
  convention : ∃ content, contents "convention" fields = [content] ∧
    Layout.Shown depth content suite.layout
  groups : ∃ content, contents "groups" fields = [content] ∧ IsList IsPath content suite.groups

def Shown (depth : Nat) (outline : Outline) (suite : Suite) : Prop :=
  ∃ fields, HasFields record.fieldNames record.least outline fields ∧ Filled (depth + 1) fields suite

def requiredSlot {β : Type} (name : String) (reader : Json.Reader β) (get : Draft → Option β)
    (set : Draft → Option β → Draft) : Slot Draft where
  Value := Option β
  name := name
  reader depth item := do return some (← reader depth item)
  get := get
  set := set

def slots : List (Slot Draft) := [
  requiredSlot "name" text Draft.name fun draft name => { draft with name },
  requiredSlot "convention" Layout.reader Draft.layout fun draft layout => { draft with layout },
  requiredSlot "groups" (listOf path) Draft.groups fun draft groups => { draft with groups }]

theorem madeOf : MadeOf record slots where
  fields := by simp [record, slots, requiredSlot, Slot.field]
  strict := rfl
  names := by decide
  get_set := by simp [slots, requiredSlot]
  get_set_of_ne := by simp [slots, requiredSlot]
  ext := by
    rintro ⟨⟩ ⟨⟩
    simp [slots, requiredSlot]

theorem make_ok_iff {draft : Draft} {suite : Suite} :
    record.make draft = .ok suite ↔
      draft = ⟨some suite.name, some suite.layout, some suite.groups⟩ := by
  obtain ⟨name, layout, groups⟩ := draft
  simp only [record, Outcome.bind_eq_ok_iff, Json.Reader.required_ok_iff, Draft.mk.injEq]
  constructor
  · rintro ⟨name, rfl, layout, rfl, groups, rfl, made⟩
    obtain rfl := Except.ok.inj made
    exact ⟨rfl, rfl, rfl⟩
  · rintro ⟨rfl, rfl, rfl⟩
    exact ⟨_, rfl, _, rfl, _, rfl, rfl⟩

theorem given_required_iff {β : Type} {depth : Nat} {reader : Json.Reader β}
    {is : Outline → β → Prop}
    (reads : ∀ content value, reader depth content = .ok value ↔ is content value)
    {contents : List Outline} {value : β} :
    Given (fun content (found : Option β) => (do return some (← reader depth content)) = .ok found)
      none contents (some value) ↔ ∃ content, contents = [content] ∧ is content value := by
  have each (content : Outline) (found : Option β) :
      (do return some (← reader depth content)) = Except.ok found ↔
        ∃ value, is content value ∧ found = some value := by
    rw [Outcome.bind_eq_ok_iff]
    simp [reads, pure, Except.pure, eq_comm]
  simp only [each, given_none_some_iff]

theorem object_ok_iff {depth : Nat} (room : depth < depthLimit)
    {fields : List (Outline × Outline)} {suite : Suite} :
    (∃ draft, record.readFields depth [] record.start fields = .ok draft ∧
      record.make draft = .ok suite) ↔ Filled depth fields suite := by
  have nameRead (content : Outline) (name : String) :
      text depth content = .ok name ↔ IsText content name := Json.Reader.text_ok_iff
  have layoutRead (content : Outline) (layout : Layout) :
      Layout.reader depth content = .ok layout ↔ Layout.Shown depth content layout :=
    Layout.reader_ok_iff room
  have groupsRead (content : Outline) (groups : List Path) :
      listOf path depth content = .ok groups ↔ IsList IsPath content groups :=
    Json.Reader.listOf_path_ok_iff room
  simp only [make_ok_iff, exists_eq_right, madeOf.readAll_ok_iff, slots, List.forall_mem_cons]
  constructor
  · rintro ⟨known, name, layout, groups, -⟩
    exact ⟨known, (given_required_iff nameRead).mp name, (given_required_iff layoutRead).mp layout,
      (given_required_iff groupsRead).mp groups⟩
  · rintro ⟨known, name, layout, groups⟩
    exact ⟨known, (given_required_iff nameRead).mpr name,
      (given_required_iff layoutRead).mpr layout, (given_required_iff groupsRead).mpr groups, by simp⟩

theorem reader_ok_iff {depth : Nat} (room : depth + 1 < depthLimit) {outline : Outline}
    {suite : Suite} : reader depth outline = .ok suite ↔ Shown depth outline suite := by
  unfold reader Shown
  rw [madeOf.reader_ok_iff (by omega)]
  simp only [object_ok_iff room]

theorem shown_object_iff {depth : Nat} {fields : List (Outline × Outline)} {closed : Bool}
    {suite : Suite} :
    Shown depth (.object fields closed) suite ↔ closed = true ∧ Filled (depth + 1) fields suite := by
  simp [Shown, hasFields_object_iff]

theorem Filled.distinct {depth : Nat} {fields : List (Outline × Outline)} {suite : Suite}
    (room : depth < depthLimit) (filled : Filled depth fields suite) : Distinct fields := by
  obtain ⟨draft, read, -⟩ := (object_ok_iff room).mpr filled
  exact (madeOf.readAll_accepts_iff.mp ⟨draft, read⟩).1

end Suite

/-! Tools. -/

namespace ToolSettings

/-- The settings of the tools that fields say: each from what stands under its name, or else the
default. -/
structure Overlay (fields : List (Outline × Outline)) (tools : ToolSettings) : Prop where
  known : Known record.fieldNames fields
  enabled : Given (IsList IsText) ({} : ToolSettings).enabled (contents "enabled" fields)
    tools.enabled
  referenceCommand : Given IsPath ({} : ToolSettings).referenceCommand
    (contents "reference_command" fields) tools.referenceCommand
  subjectPath : Given IsPath ({} : ToolSettings).subjectPath (contents "subject_path" fields)
    tools.subjectPath
  abstractCommand : Given IsPath ({} : ToolSettings).abstractCommand
    (contents "abstract_command" fields) tools.abstractCommand
  keepAbstractOutput : Given IsBool ({} : ToolSettings).keepAbstractOutput
    (contents "keep_abstract_output" fields) tools.keepAbstractOutput

def Shown (outline : Outline) (tools : ToolSettings) : Prop :=
  ∃ fields, HasFields record.fieldNames record.least outline fields ∧ Overlay fields tools

def shapes : List (String × (Outline → Prop)) := [
  ("enabled", fun outline => ∃ names, IsList IsText outline names),
  ("reference_command", fun outline => ∃ path, IsPath outline path),
  ("subject_path", fun outline => ∃ path, IsPath outline path),
  ("abstract_command", fun outline => ∃ path, IsPath outline path),
  ("keep_abstract_output", fun outline => ∃ value, IsBool outline value)]

def slots : List (Slot ToolSettings) := [
  ⟨List String, "enabled", listOf text, enabled, fun tools enabled => { tools with enabled }⟩,
  ⟨Path, "reference_command", path, referenceCommand,
    fun tools referenceCommand => { tools with referenceCommand }⟩,
  ⟨Path, "subject_path", path, subjectPath, fun tools subjectPath => { tools with subjectPath }⟩,
  ⟨Path, "abstract_command", path, abstractCommand,
    fun tools abstractCommand => { tools with abstractCommand }⟩,
  ⟨Bool, "keep_abstract_output", Json.Reader.bool, keepAbstractOutput,
    fun tools keepAbstractOutput => { tools with keepAbstractOutput }⟩]

theorem madeOf : MadeOf record slots where
  fields := rfl
  strict := rfl
  names := by decide
  get_set := by simp [slots]
  get_set_of_ne := by simp [slots]
  ext := by
    rintro ⟨⟩ ⟨⟩
    simp [slots]

theorem readAll_ok_iff {depth : Nat} (room : depth < depthLimit)
    {fields : List (Outline × Outline)} {tools : ToolSettings} :
    record.readFields depth [] record.start fields = .ok tools ↔ Overlay fields tools := by
  rw [madeOf.readAll_ok_iff]
  simp only [slots, List.forall_mem_cons, Json.Reader.listOf_text_ok_iff room,
    Json.Reader.path_ok_iff, Json.Reader.bool_ok_iff]
  constructor
  · rintro ⟨known, enabled, reference, subject, abstract, keep, -⟩
    exact ⟨known, enabled, reference, subject, abstract, keep⟩
  · rintro ⟨known, enabled, reference, subject, abstract, keep⟩
    exact ⟨known, enabled, reference, subject, abstract, keep, by simp⟩

theorem shapes_eq {depth : Nat} (room : depth < depthLimit) :
    slots.map (Slot.shape depth) = shapes := by
  simp only [slots, shapes, Slot.shape, List.map_cons, List.map_nil,
    Json.Reader.listOf_text_ok_iff room, Json.Reader.path_ok_iff, Json.Reader.bool_ok_iff]

theorem exists_overlay_iff {fields : List (Outline × Outline)} :
    (∃ tools, Overlay fields tools) ↔ Distinct fields ∧ Shaped shapes fields := by
  have room : 0 < depthLimit := by decide
  rw [← shapes_eq room, ← madeOf.readAll_accepts_iff]
  simp only [readAll_ok_iff room]

theorem reader_ok_iff {depth : Nat} (room : depth + 1 < depthLimit) {outline : Outline}
    {tools : ToolSettings} : reader depth outline = .ok tools ↔ Shown outline tools := by
  unfold reader Shown
  rw [madeOf.reader_whole_ok_iff rfl (by omega)]
  simp only [readAll_ok_iff room]

theorem shown_object_iff {fields : List (Outline × Outline)} {closed : Bool}
    {tools : ToolSettings} :
    Shown (.object fields closed) tools ↔ closed = true ∧ Overlay fields tools := by
  simp [Shown, hasFields_object_iff]

theorem reader_object_ok_iff {depth : Nat} (room : depth + 1 < depthLimit)
    {fields : List (Outline × Outline)} {tools : ToolSettings} :
    reader depth (.object fields true) = .ok tools ↔ Overlay fields tools := by
  rw [reader_ok_iff room, shown_object_iff]
  simp

theorem Overlay.distinct {fields : List (Outline × Outline)} {tools : ToolSettings}
    (overlay : Overlay fields tools) : Distinct fields :=
  (exists_overlay_iff.mp ⟨tools, overlay⟩).1

end ToolSettings

/-! All settings. -/

namespace Settings

/-- The settings that fields say, which stand inside as many containers as the first argument has
it: each from what stands under its name, or else the default. -/
structure Overlay (depth : Nat) (fields : List (Outline × Outline)) (settings : Settings) : Prop where
  known : Known record.fieldNames fields
  tools : Given ToolSettings.Shown ({} : Settings).tools (contents "tools" fields) settings.tools
  scratchFolder : Given IsPath ({} : Settings).scratchFolder (contents "scratch_dir" fields)
    settings.scratchFolder
  outputFolder : Given IsPath ({} : Settings).outputFolder (contents "output_dir" fields)
    settings.outputFolder
  timeoutSeconds : Given IsNatural ({} : Settings).timeoutSeconds (contents "timeout_secs" fields)
    settings.timeoutSeconds
  jobs : Given (IsOptional IsNatural) ({} : Settings).jobs (contents "jobs" fields) settings.jobs
  suites : Given (IsList (Suite.Shown (depth + 1))) ({} : Settings).suites (contents "suites" fields)
    settings.suites

def shapes (depth : Nat) : List (String × (Outline → Prop)) := [
  ("tools", fun outline => ∃ tools, ToolSettings.Shown outline tools),
  ("scratch_dir", fun outline => ∃ path, IsPath outline path),
  ("output_dir", fun outline => ∃ path, IsPath outline path),
  ("timeout_secs", fun outline => ∃ n, IsNatural outline n),
  ("jobs", fun outline => ∃ jobs, IsOptional IsNatural outline jobs),
  ("suites", fun outline => ∃ suites, IsList (Suite.Shown (depth + 1)) outline suites)]

def slots : List (Slot Settings) := [
  ⟨ToolSettings, "tools", ToolSettings.reader, tools, fun settings tools => { settings with tools }⟩,
  ⟨Path, "scratch_dir", path, scratchFolder,
    fun settings scratchFolder => { settings with scratchFolder }⟩,
  ⟨Path, "output_dir", path, outputFolder,
    fun settings outputFolder => { settings with outputFolder }⟩,
  ⟨UInt64, "timeout_secs", Json.Reader.uint64 "u64", timeoutSeconds,
    fun settings timeoutSeconds => { settings with timeoutSeconds }⟩,
  ⟨Option UInt64, "jobs", Json.Reader.optional (Json.Reader.uint64 "usize"), jobs,
    fun settings jobs => { settings with jobs }⟩,
  ⟨List Suite, "suites", listOf Suite.reader, suites,
    fun settings suites => { settings with suites }⟩]

theorem madeOf : MadeOf record slots where
  fields := rfl
  strict := rfl
  names := by decide
  get_set := by simp [slots]
  get_set_of_ne := by simp [slots]
  ext := by
    rintro ⟨⟩ ⟨⟩
    simp [slots]

theorem suites_ok_iff {depth : Nat} (room : depth + 2 < depthLimit) {outline : Outline}
    {suites : List Suite} :
    listOf Suite.reader depth outline = .ok suites ↔
      IsList (Suite.Shown (depth + 1)) outline suites := by
  apply Json.Reader.listOf_ok_iff (by omega)
  intro content suite
  exact Suite.reader_ok_iff room

theorem readAll_ok_iff {depth : Nat} (room : depth + 2 < depthLimit)
    {fields : List (Outline × Outline)} {settings : Settings} :
    record.readFields depth [] record.start fields = .ok settings ↔ Overlay depth fields settings := by
  have toolRoom : depth + 1 < depthLimit := by omega
  rw [madeOf.readAll_ok_iff]
  simp only [slots, List.forall_mem_cons, ToolSettings.reader_ok_iff toolRoom,
    Json.Reader.path_ok_iff, Json.Reader.uint64_ok_iff, Json.Reader.optional_uint64_ok_iff,
    suites_ok_iff room]
  constructor
  · rintro ⟨known, tools, scratch, output, timeout, jobs, suites, -⟩
    exact ⟨known, tools, scratch, output, timeout, jobs, suites⟩
  · rintro ⟨known, tools, scratch, output, timeout, jobs, suites⟩
    exact ⟨known, tools, scratch, output, timeout, jobs, suites, by simp⟩

theorem shapes_eq {depth : Nat} (room : depth + 2 < depthLimit) :
    slots.map (Slot.shape depth) = shapes depth := by
  have toolRoom : depth + 1 < depthLimit := by omega
  simp only [slots, shapes, Slot.shape, List.map_cons, List.map_nil,
    ToolSettings.reader_ok_iff toolRoom, Json.Reader.path_ok_iff, Json.Reader.uint64_ok_iff,
    Json.Reader.optional_uint64_ok_iff, suites_ok_iff room]

theorem exists_overlay_iff {depth : Nat} (room : depth + 2 < depthLimit)
    {fields : List (Outline × Outline)} :
    (∃ settings, Overlay depth fields settings) ↔ Distinct fields ∧ Shaped (shapes depth) fields := by
  rw [← shapes_eq room, ← madeOf.readAll_accepts_iff]
  simp only [readAll_ok_iff room]

theorem reader_object_ok_iff {depth : Nat} (room : depth + 3 < depthLimit)
    {fields : List (Outline × Outline)} {settings : Settings} :
    reader depth (.object fields true) = .ok settings ↔ Overlay (depth + 1) fields settings := by
  have inside : depth + 1 + 2 < depthLimit := room
  unfold reader
  rw [madeOf.reader_whole_ok_iff rfl (by omega)]
  simp only [hasFields_object_iff, true_and, exists_eq_left, readAll_ok_iff inside]

theorem Overlay.distinct {depth : Nat} (room : depth + 2 < depthLimit)
    {fields : List (Outline × Outline)} {settings : Settings}
    (overlay : Overlay depth fields settings) : Distinct fields :=
  ((exists_overlay_iff room).mp ⟨settings, overlay⟩).1

end Settings

end Assay
