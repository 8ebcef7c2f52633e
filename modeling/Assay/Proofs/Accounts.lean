import Mathlib.Data.List.Dedup
import Assay.Proofs.Course
import Assay.Proofs.Totals

/-!
The totals of a campaign, from the runs to the counts. Every id counts once for every analyzer, by
the verdict on the last case with that id, and what is not a success is a failure with a reason.
-/

namespace Assay

def Results.runs (results : Results) (kind : Kind) : List VariantRun :=
  (results.verdicts kind).flatMap Verdict.runs

/-- The totals of one analyzer, from the verdict that was reached for each id and the runs that are
kept. -/
structure ToolTotals.Accounts (totals : ToolTotals) (ids : List String)
    (verdict? : String → Option Verdict) (runs : List VariantRun) : Prop where
  total : totals.total = ids.length
  balanced : totals.passed + totals.failures.values.sum = totals.total
  reasoned : totals.failures.get? .nothing = none
  positive : ∀ reason count, totals.failures.get? reason = some count → count ≠ 0
  passed : totals.passed =
    ids.countP fun id => (verdict? id).any fun verdict => Verdict.succeeds verdict.runs
  runtime : totals.runtime.nanos =
    Duration.totalNanos (runs.map fun variant => variant.run.output.elapsed)

theorem Verdict.totalNanos_runs {verdicts : List Verdict}
    (judged : ∀ verdict ∈ verdicts, verdict.Judged) :
    Duration.totalNanos ((verdicts.flatMap Verdict.runs).map fun variant =>
        variant.run.output.elapsed) =
      Duration.totalNanos (verdicts.map Verdict.time) := by
  induction verdicts with
  | nil => rfl
  | cons verdict rest ih =>
      rw [List.forall_mem_cons] at judged
      rw [List.flatMap_cons, List.map_append, Duration.totalNanos_append, ih judged.2,
        ← judged.1.eq_ofTimedRuns.2]
      rfl

theorem ToolTotals.Counts.accounts {verdicts : List Verdict} {totals : ToolTotals}
    (counts : totals.Counts verdicts) (judged : ∀ verdict ∈ verdicts, verdict.Judged)
    {ids : List String} {verdict? : String → Option Verdict}
    (reached : ∀ id ∈ ids, ∃ verdict, verdict? id = some verdict)
    (same : verdicts.Perm (ids.filterMap verdict?)) :
    totals.Accounts ids verdict? (verdicts.flatMap Verdict.runs) where
  total := by
    rw [counts.total, same.length_eq, List.filterMap_length_eq_length]
    intro id listed
    obtain ⟨verdict, given⟩ := reached id listed
    rw [given, Option.isSome_some]
  balanced := counts.balanced
  reasoned := by
    refine Option.eq_none_iff_forall_ne_some.mpr fun count found => ?_
    have none := counts.failures .nothing
    have some := counts.positive _ _ found
    rw [found, Option.getD_some] at none
    rw [none, List.countP_pos_iff] at some
    obtain ⟨verdict, member, failed⟩ := some
    rw [Bool.and_eq_true, Bool.not_eq_true', decide_eq_true_eq] at failed
    exact (judged verdict member).failed_reason failed.1 failed.2
  positive reason count found := Nat.ne_of_gt (counts.positive reason count found)
  passed := by
    have succeeded : ∀ verdict ∈ verdicts,
        verdict.success = true ↔ Verdict.succeeds verdict.runs = true := fun verdict member => by
      rw [(judged verdict member).success_eq]
    rw [counts.passed, List.countP_congr succeeded, same.countP_eq, List.countP_filterMap]
    refine List.countP_congr fun id _ => ?_
    cases verdict? id <;> rfl
  runtime := by rw [counts.runtime, Verdict.totalNanos_runs judged]

namespace Campaign

variable {σ : Type} {order : List Nat} {analyzers : List (Analyzer σ)} {cases : List Case}
  {state after : σ} {verdicts : List (Nat × Verdict)}

theorem verdicts_eq (results : Results) (kind : Kind) :
    results.verdicts kind =
      results.cases.keys.filterMap fun id => stored? results.cases id kind := by
  rw [Results.verdicts, OrderedMap.values_eq_filterMap, List.filterMap_filterMap]
  rfl

theorem mem_entries {id : String} {kind : Kind} {verdict : Verdict}
    (reached : (runUnits (units analyzers cases) order).outcome state = (.ok verdicts, after))
    (entered : stored? (resultsOf analyzers cases verdicts).cases id kind = some verdict) :
    kind ∈ analyzers.map Analyzer.kind ∧ verdict.Judged := by
  rcases mem_of_stored?_foldl_enter entered with nothing | member
  · simp [stored?] at nothing
  · obtain ⟨⟨unit, listed, -, same⟩, position, found⟩ := mem_findings member
    exact ⟨List.mem_map.mpr ⟨unit.analyzer, (mem_units.mp listed).2, same.symm⟩,
      runUnits_judged reached _ found⟩

theorem mem_verdicts {kind : Kind} {verdict : Verdict}
    (reached : (runUnits (units analyzers cases) order).outcome state = (.ok verdicts, after))
    (member : verdict ∈ (resultsOf analyzers cases verdicts).verdicts kind) :
    kind ∈ analyzers.map Analyzer.kind ∧ verdict.Judged := by
  rw [verdicts_eq] at member
  obtain ⟨id, -, entered⟩ := List.mem_filterMap.mp member
  exact mem_entries reached entered

theorem totalNanos_verdicts_lt
    (reached : (runUnits (units analyzers cases) order).outcome state = (.ok verdicts, after))
    (bounded : ∀ kind ∈ analyzers.map Analyzer.kind,
      Duration.totalNanos (((resultsOf analyzers cases verdicts).runs kind).map fun variant =>
        variant.run.output.elapsed) < nanosLimit) (kind : Kind) :
    Duration.totalNanos (((resultsOf analyzers cases verdicts).verdicts kind).map Verdict.time) <
      nanosLimit := by
  by_cases used : kind ∈ analyzers.map Analyzer.kind
  · rw [← Verdict.totalNanos_runs fun verdict member => (mem_verdicts reached member).2]
    exact bounded kind used
  · have none : (resultsOf analyzers cases verdicts).verdicts kind = [] :=
      List.eq_nil_iff_forall_not_mem.mpr fun verdict member =>
        used (mem_verdicts reached member).1
    rw [none]
    decide

theorem verdicts_perm {front back : List (Analyzer σ)} {analyzer : Analyzer σ} {ids : List String}
    (different : ((front ++ analyzer :: back).map Analyzer.kind).Nodup)
    (complete : Complete order (units (front ++ analyzer :: back) cases))
    (reached : (runUnits (units (front ++ analyzer :: back) cases) order).outcome state =
      (.ok verdicts, after))
    (listed : ∀ id ∈ ids, id ∈ cases.map Case.id)
    (keys : (resultsOf (front ++ analyzer :: back) cases verdicts).cases.keys.Perm ids) :
    (∀ id ∈ ids, ∃ verdict, lastVerdict? cases (front ++ analyzer :: back).length verdicts
      front.length id = some verdict) ∧
    ((resultsOf (front ++ analyzer :: back) cases verdicts).verdicts analyzer.kind).Perm
      (ids.filterMap (lastVerdict? cases (front ++ analyzer :: back).length verdicts
        front.length)) := by
  have last (id : String) (member : id ∈ ids) : ∃ verdict,
      stored? (resultsOf (front ++ analyzer :: back) cases verdicts).cases id analyzer.kind =
          some verdict ∧
        lastVerdict? cases (front ++ analyzer :: back).length verdicts front.length id =
          some verdict := by
    obtain ⟨before, case, behind, rfl, rfl, last⟩ := exists_last (listed id member)
    obtain ⟨verdict, entered, placed, -⟩ := stored?_last different last complete reached
    exact ⟨verdict, entered, placed⟩
  constructor
  · intro id member
    obtain ⟨verdict, -, placed⟩ := last id member
    exact ⟨verdict, placed⟩
  · have same : ∀ id ∈ ids,
        stored? (resultsOf (front ++ analyzer :: back) cases verdicts).cases id analyzer.kind =
          lastVerdict? cases (front ++ analyzer :: back).length verdicts front.length id :=
      fun id member => by
        obtain ⟨verdict, entered, placed⟩ := last id member
        rw [entered, placed]
    rw [verdicts_eq, ← List.filterMap_congr same]
    exact keys.filterMap _

variable [Surroundings σ]

theorem keys_perm {results : Results} (enabled : analyzers ≠ [])
    (complete : Complete order (units analyzers cases))
    (given : (runIn order analyzers cases).outcome state = (.ok results, after)) :
    results.cases.keys.Perm (cases.map Case.id).dedup := by
  refine (List.perm_ext_iff_of_nodup results.cases.keys_nodup (List.nodup_dedup _)).mpr fun id => ?_
  rw [List.mem_dedup]
  exact runIn_keys enabled complete (congrArg Prod.fst given) id

/-- After a campaign every analyzer has accounts over the same ids. -/
theorem runIn_accounts {results : Results} (enabled : analyzers ≠ [])
    (different : (analyzers.map Analyzer.kind).Nodup)
    (complete : Complete order (units analyzers cases))
    (given : (runIn order analyzers cases).outcome state = (.ok results, after))
    (bounded : ∀ kind ∈ analyzers.map Analyzer.kind,
      Duration.totalNanos ((results.runs kind).map fun variant => variant.run.output.elapsed) <
        nanosLimit) :
    ∃ verdicts totals,
      (runUnits (units analyzers cases) order).outcome state = (.ok verdicts, after) ∧
      Totals.ofResults results = .ok totals ∧
      (∀ kind, kind ∈ totals.tools.keys ↔ kind ∈ analyzers.map Analyzer.kind) ∧
      totals.cases = (cases.map Case.id).dedup.length ∧
      ∀ front analyzer back, analyzers = front ++ analyzer :: back →
        ∃ counted, totals.tools.get? analyzer.kind = some counted ∧
          counted.Accounts (cases.map Case.id).dedup
            (lastVerdict? cases analyzers.length verdicts front.length)
            (results.runs analyzer.kind) ∧
          ∀ before case behind, cases = before ++ case :: behind →
            (∀ later ∈ behind, later.id ≠ case.id) →
            ∃ verdict start stop, (analyzer.trial case).outcome start = (.ok verdict, stop) ∧
              lastVerdict? cases analyzers.length verdicts front.length case.id =
                some verdict := by
  obtain ⟨-, verdicts, reached, rfl⟩ := runIn_eq_ok given
  have keys := keys_perm enabled complete given
  obtain ⟨totals, counted, size, tallies⟩ :=
    Totals.ofResults_tallies (totalNanos_verdicts_lt reached bounded)
  refine ⟨verdicts, totals, reached, counted, fun kind => ?_, ?_, ?_⟩
  · refine (tallies.keys kind).trans (or_iff_left_of_imp fun occurs => ?_)
    obtain ⟨⟨_, verdict⟩, member, rfl⟩ := List.mem_map.mp occurs
    exact (mem_verdicts reached (Results.mem_verdicts_iff.mpr member)).1
  · rw [size, ← keys.length_eq]
    exact (List.length_map _).symm
  · rintro front analyzer back rfl
    have known : analyzer.kind ∈ totals.tools.keys :=
      (tallies.keys _).mpr (Or.inl (List.mem_map.mpr ⟨analyzer, by simp, rfl⟩))
    obtain ⟨counted, found⟩ := OrderedMap.mem_keys_iff.mp known
    have counts := tallies.counts analyzer.kind
    rw [found, Option.getD_some, Results.verdictsOn_entries] at counts
    obtain ⟨placed, same⟩ :=
      verdicts_perm different complete reached (fun _ => List.mem_dedup.mp) keys
    refine ⟨counted, found, counts.accounts (fun verdict member => ?_) placed same, ?_⟩
    · exact (mem_verdicts reached member).2
    · rintro before case behind rfl last
      obtain ⟨verdict, -, placed, start, stop, tried⟩ :=
        stored?_last different last complete reached
      exact ⟨verdict, start, stop, tried, placed⟩

def twoTools : List (Analyzer Replay) := [
  .ofProgram Replay.launch .reference ⟨"clang"⟩ true,
  .ofProgram Replay.launch .abstractInterpreter ⟨"frama-c"⟩ false]

/-- The first case and the last one have one id, and the reference passes only the last one. -/
def repeatedId : List Case := [
  { id := "a.c", variants := [
      { label := "correct", file := ⟨"/a.c"⟩, options := [], expectation := .clean }] },
  { id := "b.c", variants := [
      { label := "incorrect", file := ⟨"/a.c"⟩, options := ["-DBAD"], expectation := .flagged }] },
  { id := "a.c", variants := [
      { label := "incorrect", file := ⟨"/a.c"⟩, options := [], expectation := .flagged }] }]

def threeRuns : Replay :=
  { Replay.oneSource with outputs := [
    { stdout := "Frama-C kernel: 0 errors 1 warning", elapsed := .ofSeconds 3 },
    { stderr := "1 warning generated", elapsed := .ofSeconds 2 },
    { exitCode := some 1 }, {}, { stderr := "2 errors generated" }, { timedOut := true }] }

theorem runIn_accounts_repeatedId :
    twoTools ≠ [] ∧ (twoTools.map Analyzer.kind).Nodup ∧
      Complete [5, 0, 3, 1, 4, 2] (units twoTools repeatedId) ∧
      ∃ results after totals counted,
        (runIn [5, 0, 3, 1, 4, 2] twoTools repeatedId).outcome threeRuns = (.ok results, after) ∧
        Totals.ofResults results = .ok totals ∧ totals.cases = 2 ∧
        totals.tools.get? .reference = some counted ∧ counted.total = 2 ∧
        counted.passed + counted.failures.values.sum = 2 := by
  have enabled : twoTools ≠ [] := by simp [twoTools]
  have different : (twoTools.map Analyzer.kind).Nodup := by decide
  have complete : Complete [5, 0, 3, 1, 4, 2] (units twoTools repeatedId) := by
    change List.Perm [5, 0, 3, 1, 4, 2] [0, 1, 2, 3, 4, 5]
    decide
  obtain ⟨results, after, given, bounded⟩ : ∃ results after,
      (runIn [5, 0, 3, 1, 4, 2] twoTools repeatedId).outcome threeRuns = (.ok results, after) ∧
        ∀ kind ∈ twoTools.map Analyzer.kind, Duration.totalNanos
          ((results.runs kind).map fun variant => variant.run.output.elapsed) < nanosLimit :=
    ⟨_, _, rfl, by decide⟩
  obtain ⟨verdicts, totals, -, counted, -, size, each⟩ :=
    runIn_accounts enabled different complete given bounded
  obtain ⟨reference, found, accounts, -⟩ := each [] _ _ rfl
  refine ⟨enabled, different, complete, results, after, totals, reference, given, counted, size,
    found, accounts.total, ?_⟩
  rw [accounts.balanced]
  exact accounts.total

end Campaign

end Assay
