import Assay.Report.Writer
import Assay.Proofs.Json.Reader

/-!
Reports that are read again. The files of a report hold all that the results and the totals say: read as
JSON, they give both back, if every span of time survives being written in seconds.
-/

namespace Assay

open Json (WellFormed)
open Json.Reader (Record)
open Json.Outline (ofJson depthLimit)

namespace Duration

/-- The text of a report gives the span back. It has the seconds as the shortest decimals of the nearest
float, and they are not always read as that float: beyond 2^53 nanoseconds the text can lose a span that
the float alone would keep. -/
def Stable (span : Duration) : Prop :=
  Json.Reader.parse Json.Reader.seconds span.toJson.long = .ok span

theorem wellFormed_toJson (span : Duration) : span.toJson.WellFormed :=
  .number (Numeral.wellFormed_ofBinary _)

theorem stable_iff {span : Duration} (depth : Nat) :
    span.Stable ↔ Json.Reader.seconds depth (ofJson span.toJson) = .ok span := by
  rw [Stable, Json.Reader.parse_long span.wellFormed_toJson]
  rfl

instance (span : Duration) : Decidable span.Stable := decidable_of_iff _ (stable_iff 0).symm

example : ¬ Stable ⟨nanosLimit - 1, by decide⟩ := by decide +kernel

example :
    let span : Duration := ⟨16353734532374341, by decide⟩
    let (above, below) := span.toBinary.ratio
    ofNanos? (roundQuotient (above * nanosPerSecond) below) = some span ∧ ¬ span.Stable := by
  decide +kernel

end Duration

theorem Kind.ofFieldName_name (kind : Kind) : ofFieldName kind.name = .ok kind := by
  cases kind <;> rfl

theorem Reason.ofFieldName_name (reason : Reason) : ofFieldName reason.name = .ok reason := by
  cases reason <;> rfl

theorem Reason.reader_toJson (depth : Nat) (reason : Reason) :
    reader depth (ofJson reason.toJson) = .ok reason :=
  reason.ofFieldName_name

theorem Expectation.reader_toJson (depth : Nat) (expectation : Expectation) :
    reader depth (ofJson expectation.toJson) = .ok expectation := by
  cases expectation <;> rfl

namespace Run

theorem wellFormed_toJson (run : Run) : run.toJson.WellFormed := by
  refine .object ?_
  simp only [List.forall_mem_cons]
  refine ⟨.text _, .text _, ?_, ?_, ?_, run.output.elapsed.wellFormed_toJson, .bool _, .bool _,
    by simp⟩
  · cases run.output.exitCode with
    | none => exact .null
    | some code => exact .number (Numeral.wellFormed_ofInt _)
  · exact .number (Numeral.wellFormed_ofNat _)
  · exact .number (Numeral.wellFormed_ofNat _)

theorem toJson_eq (run : Run) :
    run.toJson = .object (record.fieldNames.zip
      [.text run.output.stdout, .text run.output.stderr,
        match run.output.exitCode with | some code => .ofInt code.toInt | none => .null,
        .ofNat run.diagnostics.errors.toNat, .ofNat run.diagnostics.warnings.toNat,
        run.output.elapsed.toJson, .bool run.output.timedOut, .bool run.diagnostics.found]) := rfl

theorem reader_exitCode (depth : Nat) (exitCode : Option Int32) :
    Json.Reader.optional Json.Reader.int32 depth
      (ofJson (match exitCode with | some code => .ofInt code.toInt | none => .null)) =
        .ok exitCode := by
  cases exitCode with
  | none => rfl
  | some code =>
      exact Json.Reader.optional_ofJson (by simp [Json.ofInt]) (Json.Reader.int32_ofJson _ code)

theorem reader_toJson_iff {depth : Nat} (room : depth < depthLimit) {run : Run} :
    reader depth (ofJson run.toJson) = .ok run ↔ run.output.elapsed.Stable := by
  have exitCode := reader_exitCode (depth + 1) run.output.exitCode
  have errors := Json.Reader.uint32_ofJson (depth + 1) run.diagnostics.errors
  have warnings := Json.Reader.uint32_ofJson (depth + 1) run.diagnostics.warnings
  have whole : reader depth (ofJson run.toJson) =
      (Json.Reader.seconds (depth + 1) (ofJson run.output.elapsed.toJson)).map fun elapsed =>
        { run with output := { run.output with elapsed } } := by
    rw [reader, toJson_eq, Record.reader_ofJson (by decide) room rfl]
    simp only [record, List.zip_cons_cons, List.zip_nil_left, List.foldlM_cons, List.foldlM_nil,
      exitCode, errors, warnings]
    cases Json.Reader.seconds (depth + 1) (ofJson run.output.elapsed.toJson) <;> rfl
  rw [whole, Duration.stable_iff (depth + 1)]
  exact Outcome.map_eq_ok_iff (fun run : Run => run.output.elapsed) (fun _ => rfl) rfl

end Run

namespace VariantRun

theorem wellFormed_toJson (variant : VariantRun) : variant.toJson.WellFormed := by
  refine .object ?_
  simp only [List.forall_mem_cons]
  exact ⟨.text _, .text _, variant.run.wellFormed_toJson, by simp⟩

theorem toJson_eq (variant : VariantRun) :
    variant.toJson = .object (record.fieldNames.zip
      [.text variant.label, variant.expectation.toJson, variant.run.toJson]) := rfl

theorem reader_toJson_iff {depth : Nat} (room : depth + 1 < depthLimit) {variant : VariantRun} :
    reader depth (ofJson variant.toJson) = .ok variant ↔
      variant.run.output.elapsed.Stable := by
  have expectation := variant.expectation.reader_toJson (depth + 1)
  have whole : reader depth (ofJson variant.toJson) =
      (Run.reader (depth + 1) (ofJson variant.run.toJson)).map fun run => { variant with run } := by
    rw [reader, toJson_eq, Record.reader_ofJson (by decide) (by omega) rfl]
    simp only [record, List.zip_cons_cons, List.zip_nil_left, List.foldlM_cons, List.foldlM_nil,
      expectation]
    cases Run.reader (depth + 1) (ofJson variant.run.toJson) <;> rfl
  rw [whole, ← Run.reader_toJson_iff room]
  exact Outcome.map_eq_ok_iff VariantRun.run (fun _ => rfl) rfl

end VariantRun

namespace Verdict

def durations (verdict : Verdict) : List Duration :=
  verdict.time :: verdict.runs.map fun variant => variant.run.output.elapsed

theorem wellFormed_toJson (verdict : Verdict) : verdict.toJson.WellFormed := by
  refine .object ?_
  simp only [List.forall_mem_cons]
  refine ⟨.bool _, .text _, verdict.time.wellFormed_toJson, ?_, by simp⟩
  exact .list (List.forall_mem_map.mpr fun variant _ => variant.wellFormed_toJson)

theorem toJson_eq (verdict : Verdict) :
    verdict.toJson = .object (record.fieldNames.zip
      [.bool verdict.success, verdict.reason.toJson, verdict.time.toJson,
        .list (verdict.runs.map VariantRun.toJson)]) := rfl

theorem reader_toJson_iff {depth : Nat} (room : depth + 3 < depthLimit) {verdict : Verdict} :
    reader depth (ofJson verdict.toJson) = .ok verdict ↔ ∀ span ∈ verdict.durations, span.Stable := by
  have reason := verdict.reason.reader_toJson (depth + 1)
  have runs : Json.Reader.listOf VariantRun.reader (depth + 1)
      (ofJson (.list (verdict.runs.map VariantRun.toJson))) = .ok verdict.runs ↔
        ∀ variant ∈ verdict.runs, variant.run.output.elapsed.Stable := by
    rw [Json.Reader.listOf_ofJson_iff (by omega)]
    exact forall₂_congr fun variant _ => VariantRun.reader_toJson_iff room
  have whole : reader depth (ofJson verdict.toJson) =
      (do
        let time ← Json.Reader.seconds (depth + 1) (ofJson verdict.time.toJson)
        let runs ← Json.Reader.listOf VariantRun.reader (depth + 1)
          (ofJson (.list (verdict.runs.map VariantRun.toJson)))
        return { verdict with time, runs }) := by
    rw [reader, toJson_eq, Record.reader_ofJson (by decide) (by omega) rfl]
    simp only [record, List.zip_cons_cons, List.zip_nil_left, List.foldlM_cons, List.foldlM_nil,
      reason]
    cases Json.Reader.seconds (depth + 1) (ofJson verdict.time.toJson) with
    | error fault => rfl
    | ok time =>
        cases Json.Reader.listOf VariantRun.reader (depth + 1)
          (ofJson (.list (verdict.runs.map VariantRun.toJson))) <;> rfl
  rw [durations, List.forall_mem_cons, List.forall_mem_map, ← runs,
    Duration.stable_iff (depth + 1), whole, Outcome.bind_eq_ok_iff]
  constructor
  · rintro ⟨time, timeRead, given⟩
    obtain ⟨read, runsRead, given⟩ := Outcome.bind_eq_ok_iff.mp given
    have same := Except.ok.inj given
    have times : time = verdict.time := congrArg Verdict.time same
    have lists : read = verdict.runs := congrArg Verdict.runs same
    rw [timeRead, runsRead, times, lists]
    exact ⟨rfl, rfl⟩
  · rintro ⟨timeRead, runsRead⟩
    exact ⟨_, timeRead, Outcome.bind_eq_ok_iff.mpr ⟨_, runsRead, rfl⟩⟩

end Verdict

namespace CaseResult

def durations (result : CaseResult) : List Duration := result.values.flatMap Verdict.durations

theorem wellFormed_toJson (result : CaseResult) : (toJson result).WellFormed :=
  .object (List.forall_mem_map.mpr fun entry _ => entry.2.wellFormed_toJson)

theorem reader_toJson_iff {depth : Nat} (room : depth + 4 < depthLimit) {result : CaseResult} :
    reader depth (ofJson (toJson result)) = .ok result ↔
      ∀ span ∈ durations result, span.Stable := by
  rw [durations, OrderedMap.values, List.forall_mem_flatMap, List.forall_mem_map]
  refine (Json.Reader.mapOf_ofJson_iff Kind.ofFieldName_name (by omega)).trans ?_
  exact forall₂_congr fun entry _ => Verdict.reader_toJson_iff room

end CaseResult

namespace Results

def durations (cases : OrderedMap String CaseResult) : List Duration :=
  cases.values.flatMap CaseResult.durations

theorem wellFormed_casesToJson (cases : OrderedMap String CaseResult) :
    (casesToJson cases).WellFormed :=
  .object (List.forall_mem_map.mpr fun entry _ => CaseResult.wellFormed_toJson entry.2)

theorem parse_casesToJson_iff {cases : OrderedMap String CaseResult} :
    Json.Reader.parse casesReader (casesToJson cases).long = .ok cases ↔
      ∀ span ∈ durations cases, span.Stable := by
  rw [Json.Reader.parse_long (wellFormed_casesToJson cases), durations, OrderedMap.values,
    List.forall_mem_flatMap, List.forall_mem_map]
  have named (id : String) : (Except.ok id : Except Json.Fault String) = .ok id := rfl
  refine (Json.Reader.mapOf_ofJson_iff named (by decide)).trans ?_
  exact forall₂_congr fun entry _ => CaseResult.reader_toJson_iff (by decide)

end Results

namespace ToolTotals

def counts (totals : ToolTotals) : List Nat :=
  totals.passed :: totals.total :: totals.failures.values

theorem wellFormed_toJson (totals : ToolTotals) : totals.toJson.WellFormed := by
  refine .object ?_
  simp only [List.forall_mem_cons]
  refine ⟨totals.runtime.wellFormed_toJson, .number (Numeral.wellFormed_ofNat _),
    .number (Numeral.wellFormed_ofNat _), ?_, by simp⟩
  exact .object (List.forall_mem_map.mpr fun entry _ => .number (Numeral.wellFormed_ofNat _))

theorem toJson_eq (totals : ToolTotals) :
    totals.toJson = .object (record.fieldNames.zip
      [totals.runtime.toJson, .ofNat totals.passed, .ofNat totals.total,
        .object (totals.failures.entries.map fun entry => (entry.1.name, .ofNat entry.2))]) := rfl

theorem reader_toJson_iff {depth : Nat} (room : depth + 1 < depthLimit) {totals : ToolTotals}
    (fits : ∀ count ∈ totals.counts, count < UInt64.size) :
    reader depth (ofJson totals.toJson) = .ok totals ↔ totals.runtime.Stable := by
  simp only [counts, List.forall_mem_cons] at fits
  have passed := Json.Reader.count_ofJson (depth + 1) fits.1
  have total := Json.Reader.count_ofJson (depth + 1) fits.2.1
  have failures : Json.Reader.mapOf Reason.ofFieldName Json.Reader.count (depth + 1)
      (ofJson (.object (totals.failures.entries.map fun entry =>
        (entry.1.name, .ofNat entry.2)))) = .ok totals.failures :=
    (Json.Reader.mapOf_ofJson_iff Reason.ofFieldName_name room).mpr fun entry member =>
      Json.Reader.count_ofJson _ (fits.2.2 _ (List.mem_map_of_mem member))
  have whole : reader depth (ofJson totals.toJson) =
      (Json.Reader.seconds (depth + 1) (ofJson totals.runtime.toJson)).map fun runtime =>
        { totals with runtime } := by
    rw [reader, toJson_eq, Record.reader_ofJson (by decide) (by omega) rfl]
    simp only [record, List.zip_cons_cons, List.zip_nil_left, List.foldlM_cons, List.foldlM_nil,
      passed, total, failures]
    cases Json.Reader.seconds (depth + 1) (ofJson totals.runtime.toJson) <;> rfl
  rw [whole, Duration.stable_iff (depth + 1)]
  exact Outcome.map_eq_ok_iff ToolTotals.runtime (fun _ => rfl) rfl

end ToolTotals

namespace Totals

def durations (totals : Totals) : List Duration := totals.tools.values.map ToolTotals.runtime

def counts (totals : Totals) : List Nat :=
  totals.cases :: totals.tools.values.flatMap ToolTotals.counts

theorem wellFormed_toJson (totals : Totals) : totals.toJson.WellFormed := by
  refine .object ?_
  simp only [List.forall_mem_cons]
  refine ⟨.number (Numeral.wellFormed_ofNat _), ?_, by simp⟩
  exact .object (List.forall_mem_map.mpr fun entry _ => entry.2.wellFormed_toJson)

theorem toJson_eq (totals : Totals) :
    totals.toJson = .object (record.fieldNames.zip
      [.ofNat totals.cases,
        .object (totals.tools.entries.map fun entry => (entry.1.name, entry.2.toJson))]) := rfl

theorem parse_toJson_iff {totals : Totals} (fits : ∀ count ∈ totals.counts, count < UInt64.size) :
    Json.Reader.parse reader totals.toJson.long = .ok totals ↔
      ∀ span ∈ totals.durations, span.Stable := by
  rw [counts, List.forall_mem_cons] at fits
  have cases := Json.Reader.count_ofJson 1 fits.1
  have tools : Json.Reader.mapOf Kind.ofFieldName ToolTotals.reader 1
      (ofJson (.object (totals.tools.entries.map fun entry =>
        (entry.1.name, entry.2.toJson)))) = .ok totals.tools ↔
      ∀ span ∈ totals.durations, span.Stable := by
    rw [Json.Reader.mapOf_ofJson_iff Kind.ofFieldName_name (by decide), durations,
      OrderedMap.values, List.forall_mem_map, List.forall_mem_map]
    refine forall₂_congr fun entry member => ToolTotals.reader_toJson_iff (by decide) ?_
    exact fun count inside => fits.2 count
      (List.mem_flatMap.mpr ⟨entry.2, List.mem_map_of_mem member, inside⟩)
  have whole : reader 0 (ofJson totals.toJson) =
      (Json.Reader.mapOf Kind.ofFieldName ToolTotals.reader 1
        (ofJson (.object (totals.tools.entries.map fun entry =>
          (entry.1.name, entry.2.toJson))))).map fun tools => { totals with tools } := by
    rw [reader, toJson_eq, Record.reader_ofJson (by decide) (by decide) rfl]
    simp only [record, List.zip_cons_cons, List.zip_nil_left, List.foldlM_cons, List.foldlM_nil,
      Nat.zero_add, cases]
    cases Json.Reader.mapOf Kind.ofFieldName ToolTotals.reader 1
      (ofJson (.object (totals.tools.entries.map fun entry =>
        (entry.1.name, entry.2.toJson)))) <;> rfl
  rw [Json.Reader.parse_long totals.wellFormed_toJson, whole, ← tools]
  exact Outcome.map_eq_ok_iff Totals.tools (fun _ => rfl) rfl

end Totals

namespace Report

/-- The first file of a report decodes to the results by case, and the second one to the totals, whatever
is in them, if and only if no span of time is changed by being written in seconds. -/
theorem Files.contents_decode_iff (files : Files) (results : Results) {totals : Totals}
    (fits : ∀ count ∈ totals.counts, count < UInt64.size) :
    ∃ details summary table,
      files.contents results totals =
        [(files.details, details), (files.totals, summary), (files.table, table)] ∧
      (Json.Reader.parse Results.casesReader details = .ok results.cases ↔
        ∀ span ∈ Results.durations results.cases, span.Stable) ∧
      (Json.Reader.parse Totals.reader summary = .ok totals ↔
        ∀ span ∈ totals.durations, span.Stable) :=
  ⟨_, _, _, rfl, Results.parse_casesToJson_iff, Totals.parse_toJson_iff fits⟩

def oddRun : Run where
  output := {
    stdout := "\"quoted\" \\ \x00\x1b[0m\r\n"
    stderr := "é\u2028🦀"
    elapsed := ⟨1500000001, by decide⟩
    timedOut := true }
  diagnostics := { errors := 4294967295, found := true }

def oddVerdict : Verdict where
  success := true
  reason := .falseNegative
  time := ⟨12345678901234567, by decide⟩
  runs := [{ label := "z", expectation := .flagged, run := oddRun },
    { label := "", expectation := .clean,
      run := { oddRun with output := { exitCode := some (-2147483648) } } }]

def oddResults : Results where
  cases := .ofList [
    ("b\"\n/", .ofList [(.subject, oddVerdict), (.reference, { oddVerdict with runs := [] })]),
    ("", .empty)]

def oddTotals : Totals where
  cases := 18446744073709551615
  tools := .ofList [(.abstractInterpreter, {
    runtime := oddVerdict.time
    passed := 7
    failures := .ofList [(.nothing, 0), (.falsePositive, 3)] })]

theorem Files.contents_decode_odd :
    (∀ count ∈ oddTotals.counts, count < UInt64.size) ∧
      (∀ span ∈ Results.durations oddResults.cases ++ oddTotals.durations, span.Stable) ∧
      ∃ details summary table,
        (Files.named ⟨"out"⟩ "odd").contents oddResults oddTotals =
          [(⟨"out/odd_results.json"⟩, details), (⟨"out/odd_results_summary.json"⟩, summary),
            (⟨"out/odd_results_table.tex"⟩, table)] ∧
        Json.Reader.parse Results.casesReader details = .ok oddResults.cases ∧
        Json.Reader.parse Totals.reader summary = .ok oddTotals := by
  have fits : ∀ count ∈ oddTotals.counts, count < UInt64.size := by decide
  have stable : ∀ span ∈ Results.durations oddResults.cases ++ oddTotals.durations, span.Stable := by
    decide +kernel
  obtain ⟨details, summary, table, contents, decoded, decodedToo⟩ :=
    contents_decode_iff (Files.named ⟨"out"⟩ "odd") oddResults fits
  rw [List.forall_mem_append] at stable
  exact ⟨fits, List.forall_mem_append.mpr stable, details, summary, table, contents,
    decoded.mpr stable.1, decodedToo.mpr stable.2⟩

end Report

end Assay
