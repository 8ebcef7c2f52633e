import Assay.Report.Table
import Assay.Proofs.Failing
import Assay.Proofs.Totals

/-!
The table beside the totals. One is a row for each case and the other a count for each analyzer; read
from the same verdicts, they tell the same numbers.
-/

namespace Assay

/-- A verdict is a success when it has no reason to be a failure, and only then. -/
def Verdict.Consistent (verdict : Verdict) : Prop :=
  verdict.success = true ↔ verdict.reason = .nothing

namespace Table

def Row.passed (row : Row) : Kind → Bool
  | .reference => row.reference
  | .subject => row.subject
  | .abstractInterpreter => row.abstractInterpreter

theorem passed_ofCase (id : String) (result : CaseResult) (kind : Kind) :
    (Row.ofCase id result).passed kind = CaseResult.passed result kind := by
  cases kind <;> rfl

theorem rows_perm (results : Results) :
    (rows results).Perm
      (results.cases.entries.map fun entry => Row.ofCase entry.1 entry.2) :=
  List.filter_append_perm _ _

theorem countP_rows (results : Results) {shows : Row → Bool} {told : CaseResult → Bool}
    (same : ∀ id result, shows (Row.ofCase id result) = told result) :
    (rows results).countP shows = results.cases.values.countP told := by
  rw [(rows_perm results).countP_eq, OrderedMap.values, List.countP_map, List.countP_map]
  refine List.countP_congr fun entry _ => ?_
  simp only [Function.comp_apply, same]

theorem countP_verdicts (results : Results) (kind : Kind) (holds : Verdict → Bool) :
    (results.verdicts kind).countP holds =
      results.cases.values.countP fun result => (result.get? kind).any holds := by
  rw [Results.verdicts, List.countP_filterMap]
  refine List.countP_congr fun result _ => ?_
  cases result.get? kind <;> rfl

theorem countP_passed (results : Results) (kind : Kind) :
    (rows results).countP (fun row => row.passed kind) =
      (results.verdicts kind).countP Verdict.success := by
  rw [countP_verdicts]
  refine countP_rows results fun id result => ?_
  rw [passed_ofCase, CaseResult.passed]
  cases result.get? kind <;> rfl

theorem countP_reason (results : Results) {reason : Reason} (failed : reason ≠ .nothing) :
    (rows results).countP (fun row => row.reason = reason) =
      (results.verdicts .subject).countP fun verdict => verdict.reason = reason := by
  rw [countP_verdicts]
  refine countP_rows results fun id result => ?_
  unfold Row.ofCase
  cases result.get? .subject with
  | none => simpa using failed.symm
  | some verdict => rfl

end Table

theorem Verdict.countP_failed {verdicts : List Verdict}
    (consistent : ∀ verdict ∈ verdicts, verdict.Consistent) {reason : Reason}
    (failed : reason ≠ .nothing) :
    verdicts.countP (fun verdict => !verdict.success && decide (verdict.reason = reason)) =
      verdicts.countP fun verdict => verdict.reason = reason := by
  refine List.countP_congr fun verdict member => ?_
  have sound : verdict.success = true ↔ verdict.reason = .nothing := consistent verdict member
  simp only [Bool.and_eq_true, Bool.not_eq_true', decide_eq_true_eq, and_iff_right_iff_imp]
  intro given
  by_contra success
  rw [Bool.not_eq_false, sound, given] at success
  exact failed success

theorem Totals.ofResults_cases (results : Results) :
    (∃ totals, ofResults results = .ok totals ∧ totals.cases = results.cases.size ∧
      ∀ kind, ((totals.tools.get? kind).getD {}).Counts (results.verdicts kind)) ∨
    (ofResults results = .error .timeOverflow ∧ ∃ kind,
      nanosLimit ≤ Duration.totalNanos ((results.verdicts kind).map Verdict.time)) := by
  cases given : ofResults results with
  | ok totals =>
      obtain ⟨size, tallies⟩ := tallies_of_ofResults given
      refine Or.inl ⟨totals, rfl, size, fun kind => ?_⟩
      rw [← Results.verdictsOn_entries]
      exact tallies.counts kind
  | error failure =>
      obtain rfl := ofResults_failsIn results failure given
      refine Or.inr ⟨rfl, ?_⟩
      by_contra fits
      simp only [not_exists, Nat.not_le] at fits
      obtain ⟨totals, counted, -⟩ := ofResults_tallies fits
      rw [given] at counted
      cases counted

/-- The table has a row for every case that the totals count, and for each analyzer as many rows that
show it passing as the totals say it passed. The reasons in the rows are those that the totals count
for the subject. Only times that are too long to be added up leave a table without totals. -/
theorem Table.rows_agree {results : Results}
    (consistent : ∀ entry ∈ results.entries, entry.2.Consistent) :
    (rows results).length = results.cases.size ∧
      ((∃ totals, Totals.ofResults results = .ok totals ∧
        (rows results).length = totals.cases ∧
        (∀ kind, (rows results).countP (fun row => row.passed kind) =
          ((totals.tools.get? kind).map ToolTotals.passed).getD 0) ∧
        ∀ reason, reason ≠ .nothing →
          (rows results).countP (fun row => row.reason = reason) =
            ((totals.tools.get? .subject).bind fun tool => tool.failures.get? reason).getD 0) ∨
      (Totals.ofResults results = .error .timeOverflow ∧ ∃ kind,
        nanosLimit ≤ Duration.totalNanos ((results.verdicts kind).map Verdict.time))) := by
  have length : (rows results).length = results.cases.size := by
    rw [(rows_perm results).length_eq, List.length_map]
    rfl
  refine ⟨length, ?_⟩
  rcases Totals.ofResults_cases results with ⟨totals, given, size, counts⟩ | overflow
  · refine Or.inl ⟨totals, given, length.trans size.symm, fun kind => ?_, fun reason failed => ?_⟩
    · rw [countP_passed, ← (counts kind).passed]
      cases totals.tools.get? kind <;> rfl
    · have sound : ∀ verdict ∈ results.verdicts .subject, verdict.Consistent := fun verdict member =>
        consistent (.subject, verdict) (Results.mem_verdicts_iff.mp member)
      rw [countP_reason results failed, ← Verdict.countP_failed sound failed,
        ← (counts .subject).failures]
      cases totals.tools.get? .subject <;> rfl
  · exact Or.inr overflow

/-- One case that two analyzers passed, one that only the subject was run on, and one without any run. -/
def unevenResults : Results where
  tools := [.reference, .abstractInterpreter]
  cases := .ofList [
    ("m/x_1.c", .ofList [(.reference, ⟨true, .nothing, .ofSeconds 2, []⟩),
      (.subject, ⟨true, .nothing, .ofSeconds 1, []⟩)]),
    ("m/x_2.c", .ofList [(.subject, ⟨false, .falseNegative, .ofSeconds 5, []⟩)]),
    ("m/x_3.c", .empty)]

theorem Table.rows_agree_uneven :
    (∀ entry ∈ unevenResults.entries, entry.2.Consistent) ∧
      (rows unevenResults).length = 3 ∧
      ∃ totals, Totals.ofResults unevenResults = .ok totals ∧ totals.cases = 3 ∧
        totals.tools.get? .reference = some { runtime := .ofSeconds 2, passed := 1, total := 1 } ∧
        (rows unevenResults).countP (fun row => row.passed .reference) = 1 ∧
        (rows unevenResults).countP (fun row => row.passed .abstractInterpreter) = 0 ∧
        (rows unevenResults).countP (fun row => row.reason = .falseNegative) = 1 := by
  have consistent : ∀ entry ∈ unevenResults.entries, entry.2.Consistent := by
    simp only [Verdict.Consistent]
    decide
  obtain ⟨length, told⟩ := rows_agree consistent
  refine ⟨consistent, length, ?_⟩
  rcases told with ⟨totals, given, size, passed, reasons⟩ | ⟨overflow, -⟩
  · refine ⟨totals, given, size ▸ length, ?_, ?_, ?_, ?_⟩
    all_goals obtain rfl := Except.ok.inj given
    · rfl
    · exact passed .reference
    · exact passed .abstractInterpreter
    · exact reasons .falseNegative (by decide)
  · cases overflow

end Assay
