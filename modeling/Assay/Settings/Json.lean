import Assay.Settings.Basic

/-!
Settings as JSON. What an object does not name keeps its default; a name that is no setting is
refused. A layout is an object whose field `kind` tells the other field it needs.
-/

namespace Assay

namespace Layout

structure Naming where
  kind : String
  field : String
  title : String
  make : Path → Layout

def namings : List Naming := [
  ⟨"triple_file", "common_include", "struct variant CorpusConvention::TripleFile", .tripleFile⟩,
  ⟨"define_flags", "support_include", "struct variant CorpusConvention::DefineFlags", .defineFlags⟩]

def known : List (String × Naming) := namings.map fun naming => (naming.kind, naming)

def toJson : Layout → Json
  | tripleFile commonInclude =>
    .object [("kind", .text "triple_file"), ("common_include", .text commonInclude.text)]
  | defineFlags supportInclude =>
    .object [("kind", .text "define_flags"), ("support_include", .text supportInclude.text)]

open Json (Outline Fault Reader)

def tagName : String := "kind"

def readTag (outline : Outline) : Except Fault Naming := do
  Json.Reader.choose known (← Json.Reader.variantName outline)

/-- Reads the tag of an object and keeps the other fields for later, when the tag is known. -/
def splitFields (depth : Nat) : Option Naming → List (String × Outline) →
    List (Outline × Outline) → Except Fault (Option Naming × List (String × Outline))
  | tag, kept, [] => .ok (tag, kept)
  | tag, kept, (nameOutline, content) :: rest => do
    let name ← Json.Reader.name nameOutline
    if name = tagName then
      if tag.isSome then throw (.duplicateField tagName)
      let found ← readTag content
      splitFields depth (some found) kept rest
    else if content.storable depth then splitFields depth tag (kept ++ [(name, content)]) rest
    else throw .malformed

def readKept (naming : Naming) : Option Path → List (String × Outline) → Except Fault Path
  | some folder, [] => .ok folder
  | none, [] => .error (.missingField naming.field)
  | folder, (name, content) :: rest =>
    if name = naming.field then
      if folder.isSome then .error (.duplicateField name)
      else
        match Json.Reader.path 0 content with
        | .ok found => readKept naming (some found) rest
        | .error fault => .error fault
    else readKept naming folder rest

def reader : Reader Layout := fun depth outline =>
  match outline with
  | .object fields closed => do
    let inside ← Json.Reader.enter depth
    let (tag, kept) ← splitFields inside none [] fields
    Json.Reader.finish closed ()
    let naming ← Json.Reader.required tagName tag
    return naming.make (← readKept naming none kept)
  | .list items closed => do
    let inside ← Json.Reader.enter depth
    match items with
    | [] =>
      Json.Reader.finish closed ()
      throw (.missingField tagName)
    | first :: rest =>
      let naming ← readTag first
      Json.Reader.finish (closed && Outline.storableItems inside rest) ()
      match rest with
      | [] => throw (.wrongLength 0 (naming.title ++ " with 1 element"))
      | [folder] => return naming.make (← Json.Reader.path inside folder)
      | folder :: extra =>
        let _ ← Json.Reader.path inside folder
        throw (.wrongLength (1 + extra.length) "1 element in sequence")
  | other => Json.Reader.mismatch "internally tagged enum CorpusConvention" other

end Layout

namespace Suite

def toJson (suite : Suite) : Json :=
  .object [("name", .text suite.name), ("convention", suite.layout.toJson),
    ("groups", .list (suite.groups.map fun group => .text group.text))]

structure Draft where
  name : Option String := none
  layout : Option Layout := none
  groups : Option (List Path) := none

open Json.Reader in
def record : Json.Reader.Record Draft Suite where
  name := "SuiteConfig"
  fields := [
    ⟨"name", fun draft depth item => do return { draft with name := ← text depth item }⟩,
    ⟨"convention", fun draft depth item => do
      return { draft with layout := ← Layout.reader depth item }⟩,
    ⟨"groups", fun draft depth item => do
      return { draft with groups := ← listOf path depth item }⟩]
  start := {}
  make draft := do
    let name ← required "name" draft.name
    let layout ← required "convention" draft.layout
    let groups ← required "groups" draft.groups
    return { name, layout, groups }
  strict := true

def reader : Json.Reader Suite := record.reader

end Suite

namespace ToolSettings

def toJson (tools : ToolSettings) : Json :=
  .object [("enabled", .list (tools.enabled.map .text)),
    ("reference_command", .text tools.referenceCommand.text),
    ("subject_path", .text tools.subjectPath.text),
    ("abstract_command", .text tools.abstractCommand.text),
    ("keep_abstract_output", .bool tools.keepAbstractOutput)]

open Json.Reader in
def record : Json.Reader.Record ToolSettings ToolSettings where
  name := "ToolsConfig"
  fields := [
    ⟨"enabled", fun tools depth item => do
      return { tools with enabled := ← listOf text depth item }⟩,
    ⟨"reference_command", fun tools depth item => do
      return { tools with referenceCommand := ← path depth item }⟩,
    ⟨"subject_path", fun tools depth item => do
      return { tools with subjectPath := ← path depth item }⟩,
    ⟨"abstract_command", fun tools depth item => do
      return { tools with abstractCommand := ← path depth item }⟩,
    ⟨"keep_abstract_output", fun tools depth item => do
      return { tools with keepAbstractOutput := ← bool depth item }⟩]
  start := {}
  make := .ok
  strict := true
  defaults := true

def reader : Json.Reader ToolSettings := record.reader

end ToolSettings

namespace Settings

def toJson (settings : Settings) : Json :=
  .object [("tools", settings.tools.toJson), ("scratch_dir", .text settings.scratchFolder.text),
    ("output_dir", .text settings.outputFolder.text),
    ("timeout_secs", .ofNat settings.timeoutSeconds.toNat),
    ("jobs", match settings.jobs with | some jobs => .ofNat jobs.toNat | none => .null),
    ("suites", .list (settings.suites.map Suite.toJson))]

open Json.Reader in
def record : Json.Reader.Record Settings Settings where
  name := "HarnessConfig"
  fields := [
    ⟨"tools", fun settings depth item => do
      return { settings with tools := ← ToolSettings.reader depth item }⟩,
    ⟨"scratch_dir", fun settings depth item => do
      return { settings with scratchFolder := ← path depth item }⟩,
    ⟨"output_dir", fun settings depth item => do
      return { settings with outputFolder := ← path depth item }⟩,
    ⟨"timeout_secs", fun settings depth item => do
      return { settings with timeoutSeconds := ← uint64 "u64" depth item }⟩,
    ⟨"jobs", fun settings depth item => do
      return { settings with jobs := ← optional (uint64 "usize") depth item }⟩,
    ⟨"suites", fun settings depth item => do
      return { settings with suites := ← listOf Suite.reader depth item }⟩]
  start := {}
  make := .ok
  strict := true
  defaults := true

def reader : Json.Reader Settings := record.reader

def load (tree : FileTree) (working : Location) (file : Path) : Except Failure Settings := do
  let content ← (tree.read working file).mapError fun fault => .settings (.unreadable file fault)
  match String.fromUTF8? content with
  | none => throw (.settings (.unreadable file .notText))
  | some text =>
    let settings ← (Json.Reader.parse reader text).mapError fun fault =>
      .settings (.notDecoded file fault)
    settings.check
    return settings

end Settings

end Assay
