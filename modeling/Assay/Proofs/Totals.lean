import Mathlib.Data.List.Basic
import Assay.Report.Totals
import Assay.Proofs.Action
import Assay.Proofs.OrderedMap

/-!
Totals against the verdicts they are counted from. One verdict more counts for its own analyzer and
for no other one, so what is counted for an analyzer is decided by the verdicts on it alone.
-/

namespace Assay

/-- What has been counted is what these verdicts say, and every one of them is counted once. -/
structure ToolTotals.Counts (verdicts : List Verdict) (totals : ToolTotals) : Prop where
  runtime : totals.runtime.nanos = Duration.totalNanos (verdicts.map Verdict.time)
  passed : totals.passed = verdicts.countP Verdict.success
  total : totals.total = verdicts.length
  failures : ∀ reason, (totals.failures.get? reason).getD 0 =
    verdicts.countP fun verdict => !verdict.success && decide (verdict.reason = reason)
  positive : ∀ reason count, totals.failures.get? reason = some count → 0 < count
  balanced : totals.passed + totals.failures.values.sum = totals.total

def verdictsOn (kind : Kind) (entries : List (Kind × Verdict)) : List Verdict :=
  entries.filterMap fun entry => if entry.1 = kind then some entry.2 else none

def Results.verdicts (results : Results) (kind : Kind) : List Verdict :=
  results.cases.values.filterMap fun result => result.get? kind

/-- What has been counted for every analyzer after these entries. -/
structure Totals.Tallies (tools : List Kind) (entries : List (Kind × Verdict))
    (map : OrderedMap Kind ToolTotals) : Prop where
  keys : ∀ kind, kind ∈ map.keys ↔ kind ∈ tools ∨ kind ∈ entries.map Prod.fst
  counts : ∀ kind, ((map.get? kind).getD {}).Counts (verdictsOn kind entries)

theorem Duration.add?_eq_some {left right : Duration}
    (fits : left.nanos + right.nanos < nanosLimit) :
    ∃ total, left.add? right = some total ∧ total.nanos = left.nanos + right.nanos :=
  ⟨⟨_, fits⟩, dif_pos fits, rfl⟩

namespace ToolTotals

theorem counts_nil : Counts [] {} where
  runtime := rfl
  passed := rfl
  total := rfl
  failures _ := rfl
  positive reason count given := by simp at given
  balanced := rfl

theorem Counts.add {verdicts : List Verdict} {totals : ToolTotals} (counts : totals.Counts verdicts)
    {verdict : Verdict}
    (bounded : Duration.totalNanos ((verdicts ++ [verdict]).map Verdict.time) < nanosLimit) :
    ∃ next, totals.add verdict = .ok next ∧ next.Counts (verdicts ++ [verdict]) := by
  have nanos : Duration.totalNanos ((verdicts ++ [verdict]).map Verdict.time) =
      totals.runtime.nanos + verdict.time.nanos := by
    rw [counts.runtime, List.map_append, Duration.totalNanos_append]
    rfl
  rw [nanos] at bounded
  obtain ⟨runtime, added, exact⟩ := Duration.add?_eq_some bounded
  unfold ToolTotals.add
  rw [added]
  refine ⟨_, rfl, ?_⟩
  by_cases success : verdict.success = true
  · rw [if_pos success]
    constructor
    case runtime => exact exact.trans nanos.symm
    case passed => simp [counts.passed, success]
    case total => simp [counts.total]
    case failures => simpa [success] using counts.failures
    case positive => exact counts.positive
    case balanced =>
      have balanced := counts.balanced
      dsimp only
      omega
  · rw [if_neg success]
    have failed : verdict.success = false := by simpa using success
    constructor
    case runtime => exact exact.trans nanos.symm
    case passed => simp [counts.passed, failed]
    case total => simp [counts.total]
    case failures =>
      intro reason
      by_cases same : reason = verdict.reason
      · subst same
        simp [failed, counts.failures]
      · have other : ¬ verdict.reason = reason := fun equal => same equal.symm
        rw [OrderedMap.get?_insert_of_ne _ _ same]
        simp [counts.failures, other]
    case positive =>
      intro reason count found
      by_cases same : reason = verdict.reason
      · subst same
        rw [OrderedMap.get?_insert_self, Option.some.injEq] at found
        omega
      · rw [OrderedMap.get?_insert_of_ne _ _ same] at found
        exact counts.positive reason count found
    case balanced =>
      have balanced := counts.balanced
      have more := OrderedMap.sum_values_insert totals.failures verdict.reason
        ((totals.failures.get? verdict.reason).getD 0 + 1)
      dsimp only
      omega

theorem bounded_of_add {totals next : ToolTotals} {verdict : Verdict}
    (added : totals.add verdict = .ok next) :
    totals.runtime.nanos + verdict.time.nanos < nanosLimit := by
  by_contra large
  unfold ToolTotals.add Duration.add? at added
  rw [Duration.ofNanos?_eq_none large] at added
  cases added

end ToolTotals

theorem verdictsOn_append (kind : Kind) (first second : List (Kind × Verdict)) :
    verdictsOn kind (first ++ second) = verdictsOn kind first ++ verdictsOn kind second :=
  List.filterMap_append

theorem mem_verdictsOn {kind : Kind} {entries : List (Kind × Verdict)} {verdict : Verdict} :
    verdict ∈ verdictsOn kind entries ↔ (kind, verdict) ∈ entries := by
  simp only [verdictsOn, List.mem_filterMap, Option.ite_none_right_eq_some, Option.some.injEq]
  constructor
  · rintro ⟨entry, member, rfl, rfl⟩
    exact member
  · intro member
    exact ⟨_, member, rfl, rfl⟩

namespace Totals

theorem start_keys (tools : List Kind) (kind : Kind) :
    kind ∈ (start tools).keys ↔ kind ∈ tools := by
  have entered : start tools =
      OrderedMap.insertAll .empty (tools.map fun kind => (kind, ({} : ToolTotals))) := by
    rw [start, OrderedMap.insertAll, List.foldl_map]
  rw [entered, OrderedMap.mem_keys_insertAll]
  simp [OrderedMap.keys, OrderedMap.empty, Function.comp_def]

theorem start_get? (tools : List Kind) (kind : Kind) :
    ((start tools).get? kind).getD {} = {} := by
  unfold start
  generalize cleared : (OrderedMap.empty : OrderedMap Kind ToolTotals) = map
  have none : (map.get? kind).getD {} = ({} : ToolTotals) := by
    rw [← cleared, OrderedMap.get?_empty, Option.getD_none]
  clear cleared
  induction tools generalizing map with
  | nil => exact none
  | cons tool rest ih =>
      refine ih _ ?_
      by_cases same : kind = tool
      · rw [same, OrderedMap.get?_insert_self, Option.getD_some]
      · rw [OrderedMap.get?_insert_of_ne _ _ same, none]

theorem tallies_start (tools : List Kind) : Tallies tools [] (start tools) where
  keys kind := by simp [start_keys]
  counts kind := by
    rw [start_get?]
    exact ToolTotals.counts_nil

theorem Tallies.addVerdict {tools : List Kind} {entries : List (Kind × Verdict)}
    {map : OrderedMap Kind ToolTotals} (tallies : Tallies tools entries map)
    {entry : Kind × Verdict}
    (bounded : Duration.totalNanos ((verdictsOn entry.1 (entries ++ [entry])).map Verdict.time) <
      nanosLimit) :
    ∃ next, Totals.addVerdict map entry = .ok next ∧ Tallies tools (entries ++ [entry]) next := by
  obtain ⟨kind, verdict⟩ := entry
  have here : verdictsOn kind (entries ++ [(kind, verdict)]) =
      verdictsOn kind entries ++ [verdict] := by
    rw [verdictsOn_append]
    simp [verdictsOn]
  rw [here] at bounded
  obtain ⟨counted, added, counts⟩ := (tallies.counts kind).add bounded
  refine ⟨map.insert kind counted, ?_, ?_, fun asked => ?_⟩
  · rw [Totals.addVerdict, added]
    rfl
  · intro asked
    rw [OrderedMap.mem_keys_insert, tallies.keys, List.map_append, List.mem_append, or_comm,
      or_assoc]
    simp
  · by_cases same : asked = kind
    · subst same
      rw [OrderedMap.get?_insert_self, Option.getD_some, here]
      exact counts
    · have elsewhere : verdictsOn asked (entries ++ [(kind, verdict)]) =
          verdictsOn asked entries := by
        have other : ¬ kind = asked := fun equal => same equal.symm
        rw [verdictsOn_append]
        simp [verdictsOn, other]
      rw [OrderedMap.get?_insert_of_ne _ _ same, elsewhere]
      exact tallies.counts asked

theorem Tallies.addVerdicts {tools : List Kind} {entries more : List (Kind × Verdict)}
    {map : OrderedMap Kind ToolTotals} (tallies : Tallies tools entries map)
    (bounded : ∀ kind,
      Duration.totalNanos ((verdictsOn kind (entries ++ more)).map Verdict.time) < nanosLimit) :
    ∃ final, more.foldlM Totals.addVerdict map = .ok final ∧
      Tallies tools (entries ++ more) final := by
  induction more generalizing entries map with
  | nil => exact ⟨map, rfl, by rwa [List.append_nil]⟩
  | cons entry rest ih =>
      have whole : entries ++ entry :: rest = (entries ++ [entry]) ++ rest := by simp
      rw [whole] at bounded ⊢
      have fits : Duration.totalNanos
          ((verdictsOn entry.1 (entries ++ [entry])).map Verdict.time) < nanosLimit := by
        have all := bounded entry.1
        rw [verdictsOn_append, List.map_append, Duration.totalNanos_append] at all
        omega
      obtain ⟨next, added, counted⟩ := tallies.addVerdict fits
      obtain ⟨final, reached, all⟩ := ih counted bounded
      refine ⟨final, ?_, all⟩
      rw [List.foldlM_cons, added]
      exact reached

theorem Tallies.of_addVerdicts {tools : List Kind} {entries more : List (Kind × Verdict)}
    {map final : OrderedMap Kind ToolTotals} (tallies : Tallies tools entries map)
    (reached : more.foldlM Totals.addVerdict map = .ok final) :
    Tallies tools (entries ++ more) final := by
  induction more generalizing entries map with
  | nil =>
      obtain rfl := Except.ok.inj reached
      rwa [List.append_nil]
  | cons entry rest ih =>
      rw [List.foldlM_cons] at reached
      obtain ⟨middle, added, reached⟩ := Outcome.bind_eq_ok_iff.mp reached
      obtain ⟨counted, fitted, -⟩ := Outcome.bind_eq_ok_iff.mp added
      have fits : Duration.totalNanos
          ((verdictsOn entry.1 (entries ++ [entry])).map Verdict.time) < nanosLimit := by
        have before := (tallies.counts entry.1).runtime
        have bounded := ToolTotals.bounded_of_add fitted
        have last : verdictsOn entry.1 [entry] = [entry.2] := by simp [verdictsOn]
        rw [verdictsOn_append, last, List.map_append, Duration.totalNanos_append, ← before]
        exact bounded
      obtain ⟨next, same, extended⟩ := tallies.addVerdict fits
      obtain rfl : middle = next := Except.ok.inj (added.symm.trans same)
      have whole : entries ++ entry :: rest = (entries ++ [entry]) ++ rest := by simp
      rw [whole]
      exact ih extended reached

theorem foldlM_addCase (results : List CaseResult) (start : OrderedMap Kind ToolTotals) :
    results.foldlM addCase start =
      (results.flatMap OrderedMap.entries).foldlM addVerdict start := by
  induction results generalizing start with
  | nil => rfl
  | cons result rest ih =>
      rw [List.foldlM_cons, List.flatMap_cons, List.foldlM_append]
      exact congrArg (addCase start result >>= ·) (funext fun middle => ih middle)

end Totals

namespace Results

def entries (results : Results) : List (Kind × Verdict) :=
  results.cases.values.flatMap OrderedMap.entries

theorem verdictsOn_entries (results : Results) (kind : Kind) :
    verdictsOn kind results.entries = results.verdicts kind := by
  calc verdictsOn kind results.entries
      = results.cases.values.flatMap fun result => (result.get? kind).toList := by
        rw [verdictsOn, entries, List.filterMap_flatMap]
        simp only [OrderedMap.filterMap_entries]
    _ = results.verdicts kind := (List.filterMap_eq_flatMap_toList _ _).symm

theorem mem_verdicts_iff {results : Results} {kind : Kind} {verdict : Verdict} :
    verdict ∈ results.verdicts kind ↔ (kind, verdict) ∈ results.entries := by
  rw [← verdictsOn_entries, mem_verdictsOn]

end Results

theorem Totals.ofResults_eq (results : Results) :
    ofResults results = do
      let tools ← results.entries.foldlM addVerdict (start results.tools)
      return { cases := results.cases.size, tools } := by
  rw [ofResults, foldlM_addCase]
  rfl

theorem Totals.ofResults_tallies {results : Results}
    (bounded : ∀ kind,
      Duration.totalNanos ((results.verdicts kind).map Verdict.time) < nanosLimit) :
    ∃ totals, Totals.ofResults results = .ok totals ∧ totals.cases = results.cases.size ∧
      Totals.Tallies results.tools results.entries totals.tools := by
  have fits (kind : Kind) : Duration.totalNanos
      ((verdictsOn kind ([] ++ results.entries)).map Verdict.time) < nanosLimit := by
    rw [List.nil_append, Results.verdictsOn_entries]
    exact bounded kind
  obtain ⟨tools, reached, tallies⟩ := (Totals.tallies_start results.tools).addVerdicts fits
  refine ⟨⟨results.cases.size, tools⟩, ?_, rfl, tallies⟩
  rw [Totals.ofResults_eq, reached]
  rfl

theorem Totals.tallies_of_ofResults {results : Results} {totals : Totals}
    (given : Totals.ofResults results = .ok totals) :
    totals.cases = results.cases.size ∧
      Totals.Tallies results.tools results.entries totals.tools := by
  rw [Totals.ofResults_eq] at given
  obtain ⟨tools, reached, made⟩ := Outcome.bind_eq_ok_iff.mp given
  obtain rfl := Except.ok.inj made
  exact ⟨rfl, (Totals.tallies_start results.tools).of_addVerdicts reached⟩

end Assay
