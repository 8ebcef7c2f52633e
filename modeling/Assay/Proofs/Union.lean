import Assay.Proofs.Totals

/-!
Totals of all results, whatever is in them, and of results that are put together: where no case is in
both parts, every number of the whole is the sum of the same number of the parts.
-/

namespace Assay

/-- These are the results of both parts, which have no case in common. -/
structure Results.IsUnion (first second whole : Results) : Prop where
  tools : ∀ kind, kind ∈ whole.tools ↔ kind ∈ first.tools ∨ kind ∈ second.tools
  apart : ∀ id ∈ first.cases.keys, id ∉ second.cases.keys
  cases : ∀ id, whole.cases.get? id = (first.cases.get? id).or (second.cases.get? id)

structure ToolTotals.IsSum (first second whole : ToolTotals) : Prop where
  runtime : whole.runtime.nanos = first.runtime.nanos + second.runtime.nanos
  passed : whole.passed = first.passed + second.passed
  total : whole.total = first.total + second.total
  failures : ∀ reason, whole.failures.get? reason =
    (first.failures.get? reason).merge (· + ·) (second.failures.get? reason)

structure Totals.IsSum (first second whole : Totals) : Prop where
  cases : whole.cases = first.cases + second.cases
  keys : ∀ kind, kind ∈ whole.tools.keys ↔ kind ∈ first.tools.keys ∨ kind ∈ second.tools.keys
  tools : ∀ kind, ((first.tools.get? kind).getD {}).IsSum ((second.tools.get? kind).getD {})
    ((whole.tools.get? kind).getD {})

theorem Duration.totalNanos_perm {spans others : List Duration} (perm : spans.Perm others) :
    totalNanos spans = totalNanos others := by
  induction perm with
  | nil => rfl
  | cons span _ ih => simp only [totalNanos, ih]
  | swap first second rest =>
      simp only [totalNanos]
      omega
  | trans _ _ first second => exact first.trans second

namespace Results.IsUnion

variable {first second whole : Results}

theorem entries_perm (union : first.IsUnion second whole) :
    whole.cases.entries.Perm (first.cases.entries ++ second.cases.entries) := by
  refine (List.perm_ext_iff_of_nodup whole.cases.entries_nodup ?_).mpr ?_
  · refine List.nodup_append.mpr ⟨first.cases.entries_nodup, second.cases.entries_nodup, ?_⟩
    rintro entry member _ memberToo rfl
    exact union.apart entry.1 (List.mem_map_of_mem member) (List.mem_map_of_mem memberToo)
  · rintro ⟨id, result⟩
    rw [List.mem_append, ← OrderedMap.get?_eq_some_iff, ← OrderedMap.get?_eq_some_iff,
      ← OrderedMap.get?_eq_some_iff, union.cases id, Option.or_eq_some_iff]
    constructor
    · rintro (found | ⟨-, found⟩)
      · exact Or.inl found
      · exact Or.inr found
    · rintro (found | found)
      · exact Or.inl found
      · refine Or.inr ⟨Option.eq_none_iff_forall_ne_some.mpr fun other inFirst => ?_, found⟩
        exact union.apart id (OrderedMap.mem_keys_iff.mpr ⟨other, inFirst⟩)
          (OrderedMap.mem_keys_iff.mpr ⟨result, found⟩)

theorem values_perm (union : first.IsUnion second whole) :
    whole.cases.values.Perm (first.cases.values ++ second.cases.values) := by
  have perm := union.entries_perm.map Prod.snd
  rwa [List.map_append] at perm

theorem verdicts_perm (union : first.IsUnion second whole) (kind : Kind) :
    (whole.verdicts kind).Perm (first.verdicts kind ++ second.verdicts kind) := by
  have perm := union.values_perm.filterMap fun result => result.get? kind
  rwa [List.filterMap_append] at perm

theorem totalNanos_eq (union : first.IsUnion second whole) (kind : Kind) :
    Duration.totalNanos ((whole.verdicts kind).map Verdict.time) =
      Duration.totalNanos ((first.verdicts kind).map Verdict.time) +
        Duration.totalNanos ((second.verdicts kind).map Verdict.time) := by
  rw [Duration.totalNanos_perm ((union.verdicts_perm kind).map Verdict.time), List.map_append,
    Duration.totalNanos_append]

end Results.IsUnion

def kept (count : Nat) : Option Nat := if count = 0 then none else some count

theorem kept_eq_some_iff {count number : Nat} :
    kept count = some number ↔ 0 < count ∧ count = number := by
  unfold kept
  by_cases zero : count = 0
  · simp [zero]
  · simp [zero, Nat.pos_of_ne_zero zero]

theorem kept_add (first second : Nat) :
    kept (first + second) = (kept first).merge (· + ·) (kept second) := by
  unfold kept
  by_cases zero : first = 0
  · by_cases zeroToo : second = 0
    · simp [zero, zeroToo]
    · simp [zero, zeroToo]
  · by_cases zeroToo : second = 0
    · simp [zero, zeroToo]
    · simp [zero, zeroToo]

theorem ToolTotals.Counts.failures_get? {verdicts : List Verdict} {totals : ToolTotals}
    (counts : totals.Counts verdicts) (reason : Reason) :
    totals.failures.get? reason = kept (verdicts.countP fun verdict =>
      !verdict.success && decide (verdict.reason = reason)) := by
  rw [← counts.failures reason]
  cases found : totals.failures.get? reason with
  | none => rfl
  | some count => exact (kept_eq_some_iff.mpr ⟨counts.positive reason count found, rfl⟩).symm

theorem ToolTotals.Counts.mem_failures_iff {verdicts : List Verdict} {totals : ToolTotals}
    (counts : totals.Counts verdicts) (reason : Reason) :
    reason ∈ totals.failures.keys ↔
      0 < verdicts.countP fun verdict => !verdict.success && decide (verdict.reason = reason) := by
  simp only [OrderedMap.mem_keys_iff, counts.failures_get?, kept_eq_some_iff]
  constructor
  · rintro ⟨_, positive, -⟩
    exact positive
  · intro positive
    exact ⟨_, positive, rfl⟩

theorem ToolTotals.Counts.isSum {verdicts others all : List Verdict}
    {first second whole : ToolTotals} (counts : first.Counts verdicts)
    (countsToo : second.Counts others) (counted : whole.Counts all)
    (perm : all.Perm (verdicts ++ others)) : first.IsSum second whole where
  runtime := by
    rw [counted.runtime, counts.runtime, countsToo.runtime,
      Duration.totalNanos_perm (perm.map Verdict.time), List.map_append, Duration.totalNanos_append]
  passed := by
    rw [counted.passed, counts.passed, countsToo.passed, perm.countP_eq, List.countP_append]
  total := by
    rw [counted.total, counts.total, countsToo.total, perm.length_eq, List.length_append]
  failures reason := by
    rw [counted.failures_get?, counts.failures_get?, countsToo.failures_get?, perm.countP_eq,
      List.countP_append, kept_add]

theorem Results.length_verdicts (results : Results) (kind : Kind) :
    (results.verdicts kind).length =
      results.cases.values.countP fun result => (result.get? kind).isSome := by
  rw [verdicts, List.length_filterMap_eq_countP]

theorem Results.mem_entries_iff (results : Results) (kind : Kind) :
    kind ∈ results.entries.map Prod.fst ↔
      ∃ result ∈ results.cases.values, kind ∈ result.keys := by
  rw [entries, List.map_flatMap, List.mem_flatMap]
  rfl

namespace Totals

theorem Tallies.isSum {first second whole : Results} (union : first.IsUnion second whole)
    {one other all : OrderedMap Kind ToolTotals} (tallies : Tallies first.tools first.entries one)
    (talliesToo : Tallies second.tools second.entries other)
    (tallied : Tallies whole.tools whole.entries all) :
    IsSum ⟨first.cases.size, one⟩ ⟨second.cases.size, other⟩ ⟨whole.cases.size, all⟩ where
  cases := by
    have sizes := union.entries_perm.length_eq
    rwa [List.length_append] at sizes
  keys kind := by
    have members (result : CaseResult) : result ∈ whole.cases.values ↔
        result ∈ first.cases.values ∨ result ∈ second.cases.values := by
      rw [union.values_perm.mem_iff, List.mem_append]
    simp only [tallied.keys, tallies.keys, talliesToo.keys, union.tools, Results.mem_entries_iff,
      members]
    constructor
    · rintro ((left | right) | ⟨result, left | right, inside⟩)
      · exact Or.inl (Or.inl left)
      · exact Or.inr (Or.inl right)
      · exact Or.inl (Or.inr ⟨result, left, inside⟩)
      · exact Or.inr (Or.inr ⟨result, right, inside⟩)
    · rintro ((left | ⟨result, left, inside⟩) | (right | ⟨result, right, inside⟩))
      · exact Or.inl (Or.inl left)
      · exact Or.inr ⟨result, Or.inl left, inside⟩
      · exact Or.inl (Or.inr right)
      · exact Or.inr ⟨result, Or.inr right, inside⟩
  tools kind := by
    have counts := tallies.counts kind
    have countsToo := talliesToo.counts kind
    have counted := tallied.counts kind
    rw [Results.verdictsOn_entries] at counts countsToo counted
    exact counts.isSum countsToo counted (union.verdicts_perm kind)

/-- Where the times can be added up, every tool that was to run or has run on some case is counted by its
own verdicts, whatever they say, and totals of parts without a common case add up to those of the
whole. -/
theorem ofResults_exact {results : Results}
    (bounded : ∀ kind,
      Duration.totalNanos ((results.verdicts kind).map Verdict.time) < nanosLimit) :
    ∃ totals, ofResults results = .ok totals ∧ totals.cases = results.cases.size ∧
      (∀ kind, kind ∈ totals.tools.keys ↔
        kind ∈ results.tools ∨ ∃ result ∈ results.cases.values, kind ∈ result.keys) ∧
      (∀ kind tool, totals.tools.get? kind = some tool → tool.Counts (results.verdicts kind) ∧
        tool.total = (results.cases.values.countP fun result => (result.get? kind).isSome) ∧
        ∀ reason, reason ∈ tool.failures.keys ↔ 0 < (results.verdicts kind).countP fun verdict =>
          !verdict.success && decide (verdict.reason = reason)) ∧
      ∀ first second, first.IsUnion second results →
        ∃ one other, ofResults first = .ok one ∧ ofResults second = .ok other ∧
          one.IsSum other totals := by
  obtain ⟨totals, given, size, tallies⟩ := ofResults_tallies bounded
  refine ⟨totals, given, size, fun kind => ?_, fun kind tool found => ?_, ?_⟩
  · rw [tallies.keys, Results.mem_entries_iff]
  · have counts := tallies.counts kind
    rw [Results.verdictsOn_entries, found, Option.getD_some] at counts
    exact ⟨counts, counts.total.trans (results.length_verdicts kind), counts.mem_failures_iff⟩
  · intro first second union
    have parts (kind : Kind) := union.totalNanos_eq kind
    obtain ⟨one, givenOne, sizeOne, talliesOne⟩ := @ofResults_tallies first fun kind => by
      have whole := bounded kind
      rw [parts kind] at whole
      omega
    obtain ⟨other, givenOther, sizeOther, talliesOther⟩ := @ofResults_tallies second fun kind => by
      have whole := bounded kind
      rw [parts kind] at whole
      omega
    refine ⟨one, other, givenOne, givenOther, ?_⟩
    have sum := talliesOne.isSum union talliesOther tallies
    rwa [← sizeOne, ← sizeOther, ← size] at sum

/-- A success with a reason, a failure without one, and an analyzer that was not to run. -/
def mixedResults : Results where
  tools := [.reference, .subject]
  cases := .ofList [
    ("a", .ofList [(.reference, ⟨true, .falsePositive, .ofSeconds 2, []⟩),
      (.abstractInterpreter, ⟨false, .falseNegative, .ofSeconds 1, []⟩)]),
    ("b", .ofList [(.reference, ⟨false, .nothing, .ofSeconds 5, []⟩)]),
    ("c", .empty)]

def leftResults : Results where
  tools := [.reference]
  cases := .ofList [("c", .empty),
    ("a", .ofList [(.reference, ⟨true, .falsePositive, .ofSeconds 2, []⟩),
      (.abstractInterpreter, ⟨false, .falseNegative, .ofSeconds 1, []⟩)])]

def rightResults : Results where
  tools := [.subject]
  cases := .ofList [("b", .ofList [(.reference, ⟨false, .nothing, .ofSeconds 5, []⟩)])]

theorem isUnion_mixedResults : leftResults.IsUnion rightResults mixedResults where
  tools kind := by cases kind <;> decide
  apart := by decide
  cases id := by
    by_cases known : id ∈ mixedResults.cases.keys
    · have listed : id ∈ ["a", "b", "c"] := known
      simp only [List.mem_cons, List.not_mem_nil, or_false] at listed
      rcases listed with rfl | rfl | rfl <;> rfl
    · have absent {map : OrderedMap String CaseResult}
          (inside : ∀ other ∈ map.keys, other ∈ mixedResults.cases.keys) : map.get? id = none :=
        Option.eq_none_iff_forall_ne_some.mpr fun result found =>
          known (inside id (OrderedMap.mem_keys_iff.mpr ⟨result, found⟩))
      rw [absent (by decide), absent (by decide), absent (by decide)]
      rfl

theorem ofResults_exact_mixed :
    (∀ kind, Duration.totalNanos ((mixedResults.verdicts kind).map Verdict.time) < nanosLimit) ∧
      leftResults.IsUnion rightResults mixedResults ∧
      ∃ totals one other, ofResults mixedResults = .ok totals ∧ ofResults leftResults = .ok one ∧
        ofResults rightResults = .ok other ∧ one.IsSum other totals ∧
        totals.tools.get? .reference = some
          { runtime := .ofSeconds 7, passed := 1, total := 2, failures := .ofList [(.nothing, 1)] } ∧
        totals.tools.get? .subject = some {} ∧ .abstractInterpreter ∈ totals.tools.keys := by
  have bounded (kind : Kind) :
      Duration.totalNanos ((mixedResults.verdicts kind).map Verdict.time) < nanosLimit := by
    cases kind <;> decide
  obtain ⟨totals, given, -, keys, -, parts⟩ := ofResults_exact bounded
  obtain ⟨one, other, givenOne, givenOther, sum⟩ := parts _ _ isUnion_mixedResults
  have listed : .abstractInterpreter ∈ totals.tools.keys :=
    (keys _).mpr (Or.inr ⟨_, List.mem_cons_self, by decide⟩)
  refine ⟨bounded, isUnion_mixedResults, totals, one, other, given, givenOne, givenOther, sum, ?_, ?_,
    listed⟩
  · obtain rfl := Except.ok.inj given
    rfl
  · obtain rfl := Except.ok.inj given
    rfl

end Totals

end Assay
