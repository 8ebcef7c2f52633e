import Assay.Settings.Json
import Assay.Proofs.Json.Reader
import Assay.Proofs.Text.Order

/-!
Settings that are written as JSON and read again are the same settings, whatever stands in their names
and paths.
-/

namespace Assay

open Json (WellFormed)
open Json.Reader (Record)
open Json.Outline (ofJson depthLimit)

theorem Json.wellFormed_texts {α : Type} (items : List α) (text : α → String) :
    WellFormed (.list (items.map fun item => .text (text item))) :=
  .list (List.forall_mem_map.mpr fun item _ => .text (text item))

theorem Layout.wellFormed_toJson (layout : Layout) : layout.toJson.WellFormed := by
  cases layout with
  | tripleFile folder => exact .object (by simp [WellFormed.text])
  | defineFlags folder => exact .object (by simp [WellFormed.text])

theorem Layout.reader_toJson {depth : Nat} (room : depth < depthLimit) (layout : Layout) :
    Layout.reader depth (ofJson layout.toJson) = .ok layout := by
  cases layout with
  | tripleFile folder =>
      simp only [Layout.reader, toJson, ofJson, Json.Reader.enter_of_lt room, Outcome.ok_bind]
      rfl
  | defineFlags folder =>
      simp only [Layout.reader, toJson, ofJson, Json.Reader.enter_of_lt room, Outcome.ok_bind]
      rfl

theorem Suite.wellFormed_toJson (suite : Suite) : suite.toJson.WellFormed := by
  refine .object ?_
  simp only [List.forall_mem_cons]
  exact ⟨.text _, suite.layout.wellFormed_toJson, Json.wellFormed_texts _ _, by simp⟩

theorem Suite.toJson_eq (suite : Suite) :
    suite.toJson = .object (Suite.record.fieldNames.zip
      [.text suite.name, suite.layout.toJson,
        .list (suite.groups.map fun group => .text group.text)]) := rfl

theorem Suite.reader_toJson {depth : Nat} (room : depth + 1 < depthLimit) (suite : Suite) :
    Suite.reader depth (ofJson suite.toJson) = .ok suite := by
  have layout := suite.layout.reader_toJson room
  have groups : Json.Reader.listOf Json.Reader.path (depth + 1)
      (ofJson (.list (suite.groups.map fun group => .text group.text))) = .ok suite.groups :=
    (Json.Reader.listOf_ofJson_iff room).mpr fun group _ => rfl
  rw [Suite.reader, Suite.toJson_eq, Record.reader_ofJson (by decide) (by omega) rfl]
  simp only [Suite.record, List.zip_cons_cons, List.zip_nil_left, List.foldlM_cons,
    List.foldlM_nil, layout, groups]
  rfl

namespace ToolSettings

theorem wellFormed_toJson (tools : ToolSettings) : tools.toJson.WellFormed := by
  refine .object ?_
  simp only [List.forall_mem_cons]
  exact ⟨Json.wellFormed_texts tools.enabled id, .text _, .text _, .text _, .bool _, by simp⟩

theorem toJson_eq (tools : ToolSettings) :
    tools.toJson = .object (record.fieldNames.zip
      [.list (tools.enabled.map .text), .text tools.referenceCommand.text,
        .text tools.subjectPath.text, .text tools.abstractCommand.text,
        .bool tools.keepAbstractOutput]) := rfl

theorem reader_toJson {depth : Nat} (room : depth + 1 < depthLimit) (tools : ToolSettings) :
    reader depth (ofJson tools.toJson) = .ok tools := by
  have enabled : Json.Reader.listOf Json.Reader.text (depth + 1)
      (ofJson (.list (tools.enabled.map .text))) = .ok tools.enabled :=
    (Json.Reader.listOf_ofJson_iff room).mpr fun name _ => rfl
  rw [reader, toJson_eq, Record.reader_ofJson (by decide) (by omega) rfl]
  simp only [record, List.zip_cons_cons, List.zip_nil_left, List.foldlM_cons, List.foldlM_nil,
    enabled]
  rfl

end ToolSettings

namespace Settings

theorem wellFormed_toJson (settings : Settings) : settings.toJson.WellFormed := by
  refine .object ?_
  simp only [List.forall_mem_cons]
  refine ⟨settings.tools.wellFormed_toJson, .text _, .text _, ?_, ?_, ?_, by simp⟩
  · exact .number (Numeral.wellFormed_ofNat _)
  · cases settings.jobs with
    | none => exact .null
    | some jobs => exact .number (Numeral.wellFormed_ofNat _)
  · exact .list (List.forall_mem_map.mpr fun suite _ => suite.wellFormed_toJson)

theorem toJson_eq (settings : Settings) :
    settings.toJson = .object (record.fieldNames.zip
      [settings.tools.toJson, .text settings.scratchFolder.text, .text settings.outputFolder.text,
        .ofNat settings.timeoutSeconds.toNat,
        match settings.jobs with | some jobs => .ofNat jobs.toNat | none => .null,
        .list (settings.suites.map Suite.toJson)]) := rfl

theorem reader_jobs (depth : Nat) (jobs : Option UInt64) :
    Json.Reader.optional (Json.Reader.uint64 "usize") depth
      (ofJson (match jobs with | some jobs => .ofNat jobs.toNat | none => .null)) = .ok jobs := by
  cases jobs with
  | none => rfl
  | some jobs =>
      exact Json.Reader.optional_ofJson (by simp [Json.ofNat]) (Json.Reader.uint64_ofJson _ _ jobs)

theorem reader_toJson {depth : Nat} (room : depth + 3 < depthLimit) (settings : Settings) :
    reader depth (ofJson settings.toJson) = .ok settings := by
  have tools : ToolSettings.reader (depth + 1) (ofJson settings.tools.toJson) = .ok settings.tools :=
    settings.tools.reader_toJson (by omega)
  have timeout := Json.Reader.uint64_ofJson "u64" (depth + 1) settings.timeoutSeconds
  have jobs := reader_jobs (depth + 1) settings.jobs
  have suites : Json.Reader.listOf Suite.reader (depth + 1)
      (ofJson (.list (settings.suites.map Suite.toJson))) = .ok settings.suites :=
    (Json.Reader.listOf_ofJson_iff (by omega)).mpr fun suite _ => suite.reader_toJson room
  rw [reader, toJson_eq, Record.reader_ofJson (by decide) (by omega) rfl]
  simp only [record, List.zip_cons_cons, List.zip_nil_left, List.foldlM_cons, List.foldlM_nil,
    tools, timeout, jobs, suites]
  rfl

theorem parse_long (settings : Settings) :
    Json.Reader.parse reader settings.toJson.long = .ok settings := by
  rw [Json.Reader.parse_long settings.wellFormed_toJson, settings.reader_toJson (by decide)]

theorem load_long {tree : FileTree} {working : Location} {file : Path} {settings : Settings}
    (held : tree.read working file = .ok settings.toJson.long.toUTF8) :
    load tree working file = settings.check.map fun _ => settings := by
  unfold load
  rw [held]
  simp only [Except.mapError, bind, Except.bind, Text.fromUTF8?_toUTF8, parse_long]
  cases settings.check <;> rfl

/-- Settings are what their long form decodes to, and if they pass their check, they are what is loaded
from a file that holds it. -/
theorem toJson_decodes (settings : Settings) :
    Json.Reader.parse reader settings.toJson.long = .ok settings ∧
    (settings.check = .ok () → ∀ tree working file,
      tree.read working file = .ok settings.toJson.long.toUTF8 →
        load tree working file = .ok settings) := by
  refine ⟨parse_long settings, fun valid tree working file held => ?_⟩
  rw [load_long held, valid]
  rfl

def extreme : Settings where
  tools := { enabled := ["Frama-C", "clang"], subjectPath := ⟨"a \"b\" \\ c"⟩ }
  scratchFolder := ⟨"tab\tline\nnull\x00bell\x07"⟩
  outputFolder := ⟨"höhe/日本/🦀"⟩
  timeoutSeconds := 18446744073709551615
  jobs := some 18446744073709551615
  suites := [{ name := "\x7f\u2028", layout := .tripleFile ⟨""⟩, groups := [⟨""⟩, ⟨"/"⟩] },
    { name := "d", layout := .defineFlags ⟨"i"⟩, groups := [] }]

def extremeTree : FileTree where
  entries := [(["bench.json"], .file 0 extreme.toJson.long.toUTF8 false)]

theorem toJson_decodes_extreme :
    extremeTree.read [] ⟨"bench.json"⟩ = .ok extreme.toJson.long.toUTF8 ∧
    extreme.check = .ok () ∧ load extremeTree [] ⟨"bench.json"⟩ = .ok extreme := by
  have held : extremeTree.read [] ⟨"bench.json"⟩ = .ok extreme.toJson.long.toUTF8 := rfl
  have valid : extreme.check = .ok () := by decide
  exact ⟨held, valid, (toJson_decodes extreme).2 valid extremeTree [] ⟨"bench.json"⟩ held⟩

end Settings

end Assay
