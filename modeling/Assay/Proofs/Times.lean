import Assay.Proofs.Failing
import Assay.Proofs.Trial
import Assay.Proofs.Union

/-!
Totals of times. Spans are added in two words, with a carry from the nanoseconds to the seconds. That
overflows on the way exactly when the exact total is longer than every span, so a total is exact or there
is none, and neither the order nor the grouping of the times matters.
-/

namespace Assay

namespace Duration

/-- The nanoseconds of the longest span: as many seconds as a word counts, and one nanosecond less than
another second. -/
def longest : Nat := (2 ^ 64 - 1) * 1000000000 + 999999999

theorem lt_nanosLimit_iff {nanos : Nat} : nanos < nanosLimit ↔ nanos ≤ longest := by
  have limit : nanosLimit = longest + 1 := rfl
  omega

/-! Words. -/

def addWord? (left right : UInt64) : Option UInt64 :=
  if left.toNat + right.toNat < 2 ^ 64 then some (left + right) else none

theorem addWord?_cases (left right : UInt64) :
    (∃ sum, addWord? left right = some sum ∧ sum.toNat = left.toNat + right.toNat) ∨
      addWord? left right = none ∧ 2 ^ 64 ≤ left.toNat + right.toNat := by
  unfold addWord?
  by_cases fits : left.toNat + right.toNat < 2 ^ 64
  · exact Or.inl ⟨_, if_pos fits, by rw [UInt64.toNat_add, Nat.mod_eq_of_lt fits]⟩
  · exact Or.inr ⟨if_neg fits, Nat.le_of_not_lt fits⟩

theorem toNat_add_rest {left right : UInt32} (proper : left.toNat < 1000000000)
    (properToo : right.toNat < 1000000000) :
    (left + right).toNat = left.toNat + right.toNat := by
  rw [UInt32.toNat_add, Nat.mod_eq_of_lt (by omega)]

theorem toNat_sub_second {rest : UInt32} (full : 1000000000 ≤ rest.toNat) :
    (rest - 1000000000).toNat = rest.toNat - 1000000000 :=
  UInt32.toNat_sub_of_le _ _ (UInt32.le_iff_toNat_le.mpr full)

theorem toNat_div_second (nanos : UInt64) :
    (nanos / 1000000000).toNat = nanos.toNat / 1000000000 :=
  UInt64.toNat_div _ _

theorem toNat_mod_second (nanos : UInt64) :
    (nanos % 1000000000).toNat = nanos.toNat % 1000000000 :=
  UInt64.toNat_mod _ _

theorem toNat_mod_second_rest (nanos : UInt64) :
    (nanos % 1000000000).toUInt32.toNat = nanos.toNat % 1000000000 := by
  rw [UInt64.toNat_toUInt32, toNat_mod_second, Nat.mod_eq_of_lt (by omega)]

/-- A span in two words: its whole seconds and the nanoseconds beyond them. -/
structure Words where
  seconds : UInt64
  rest : UInt32
  proper : rest.toNat < 1000000000

namespace Words

def zero : Words := ⟨0, 0, by decide⟩

def nanos (words : Words) : Nat := words.seconds.toNat * 1000000000 + words.rest.toNat

def totalNanos : List Words → Nat
  | [] => 0
  | words :: later => words.nanos + totalNanos later

def add? (left right : Words) : Option Words := do
  let seconds ← addWord? left.seconds right.seconds
  if full : 1000000000 ≤ (left.rest + right.rest).toNat then
    let carried ← addWord? seconds 1
    return ⟨carried, left.rest + right.rest - 1000000000, by
      have sum := toNat_add_rest left.proper right.proper
      have proper := left.proper
      have properToo := right.proper
      rw [toNat_sub_second full]
      omega⟩
  else return ⟨seconds, left.rest + right.rest, by omega⟩

/-- Seconds and nanoseconds that are added up apart. The nanoseconds are carried over when their word
is full, and at the end. -/
structure Tally where
  seconds : UInt64
  nanos : UInt64

namespace Tally

def value (tally : Tally) : Nat := tally.seconds.toNat * 1000000000 + tally.nanos.toNat

def take (tally : Tally) (words : Words) : Option Tally := do
  let seconds ← addWord? tally.seconds words.seconds
  match addWord? tally.nanos words.rest.toUInt64 with
  | some nanos => return { seconds, nanos }
  | none =>
    let carried ← addWord? seconds (tally.nanos / 1000000000)
    return { seconds := carried, nanos := tally.nanos % 1000000000 + words.rest.toUInt64 }

def finish (tally : Tally) : Option Words := do
  let seconds ← addWord? tally.seconds (tally.nanos / 1000000000)
  return ⟨seconds, (tally.nanos % 1000000000).toUInt32, by
    rw [toNat_mod_second_rest]
    exact Nat.mod_lt _ (by decide)⟩

end Tally

def sum? (spans : List Words) : Option Words := spans.foldlM Tally.take ⟨0, 0⟩ >>= Tally.finish

end Words

/-! What adding comes to. -/

/-- The result is exact if there is one, and only a number longer than every span has none. -/
inductive Told {α : Type} (value : α → Nat) : Option α → Nat → Prop
  | exact {result : α} {nanos : Nat} : value result = nanos → Told value (some result) nanos
  | tooLong {nanos : Nat} : longest < nanos → Told value none nanos

theorem told_foldlM {α : Type} {value : α → Nat} {step : α → Words → Option α}
    (exact : ∀ start words, Told value (step start words) (value start + words.nanos))
    (spans : List Words) (start : α) :
    Told value (spans.foldlM step start) (value start + Words.totalNanos spans) := by
  induction spans generalizing start with
  | nil => exact .exact rfl
  | cons words later ih =>
      have here := exact start words
      rw [List.foldlM_cons, Words.totalNanos, ← Nat.add_assoc]
      generalize step start words = reached at here ⊢
      cases here with
      | exact same =>
          rw [← same]
          exact ih _
      | tooLong long => exact .tooLong (by omega)

theorem told_addWord {α : Type} {value : α → Nat} {next : UInt64 → Option α} {left right : UInt64}
    {nanos : Nat}
    (fits : ∀ sum : UInt64, sum.toNat = left.toNat + right.toNat → Told value (next sum) nanos)
    (long : 2 ^ 64 ≤ left.toNat + right.toNat → longest < nanos) :
    Told value (addWord? left right >>= next) nanos := by
  rcases addWord?_cases left right with ⟨sum, added, exact⟩ | ⟨missing, large⟩
  · rw [added]
    exact fits sum exact
  · rw [missing]
    exact .tooLong (long large)

namespace Words

theorem add?_told (left right : Words) :
    Told nanos (left.add? right) (left.nanos + right.nanos) := by
  have sum := toNat_add_rest left.proper right.proper
  have proper := left.proper
  have properToo := right.proper
  unfold add?
  refine told_addWord (fun seconds exact => ?_) fun large => ?_
  · split
    · next full =>
        refine told_addWord (fun carried exactToo => .exact ?_) fun large => ?_
        · unfold nanos
          rw [toNat_sub_second full, exactToo, UInt64.toNat_one]
          omega
        · unfold nanos longest
          rw [UInt64.toNat_one] at large
          omega
    · refine .exact ?_
      unfold nanos
      dsimp only
      omega
  · unfold nanos longest
    omega

namespace Tally

theorem take_told (tally : Tally) (words : Words) :
    Told value (tally.take words) (tally.value + words.nanos) := by
  have proper := words.proper
  have widened : words.rest.toUInt64.toNat = words.rest.toNat := UInt32.toNat_toUInt64 _
  unfold take
  refine told_addWord (fun seconds exact => ?_) fun large => ?_
  · rcases addWord?_cases tally.nanos words.rest.toUInt64 with
      ⟨nanos, added, exactToo⟩ | ⟨missing, large⟩
    · rw [added]
      refine .exact ?_
      unfold value Words.nanos
      dsimp only
      omega
    · rw [missing]
      refine told_addWord (fun carried exactToo => .exact ?_) fun more => ?_
      · rw [toNat_div_second] at exactToo
        have small : (tally.nanos % 1000000000 + words.rest.toUInt64).toNat =
            tally.nanos.toNat % 1000000000 + words.rest.toNat := by
          rw [UInt64.toNat_add, toNat_mod_second, widened, Nat.mod_eq_of_lt (by omega)]
        unfold value Words.nanos
        dsimp only
        omega
      · rw [toNat_div_second] at more
        unfold value Words.nanos longest
        omega
  · unfold value Words.nanos longest
    omega

theorem finish_told (tally : Tally) : Told Words.nanos tally.finish tally.value := by
  unfold finish
  refine told_addWord (fun seconds exact => .exact ?_) fun large => ?_
  · rw [toNat_div_second] at exact
    unfold Words.nanos value
    rw [toNat_mod_second_rest]
    dsimp only
    omega
  · rw [toNat_div_second] at large
    unfold value longest
    omega

end Tally

theorem sum?_told (spans : List Words) : Told nanos (sum? spans) (totalNanos spans) := by
  have run := told_foldlM Tally.take_told spans ⟨0, 0⟩
  rw [show Tally.value ⟨0, 0⟩ = 0 from rfl, Nat.zero_add] at run
  unfold sum?
  generalize spans.foldlM Tally.take ⟨0, 0⟩ = reached at run ⊢
  cases run with
  | exact same =>
      rw [← same]
      exact Tally.finish_told _
  | tooLong long => exact .tooLong long

theorem foldlM_add?_told (spans : List Words) :
    Told nanos (spans.foldlM add? zero) (totalNanos spans) := by
  have run := told_foldlM add?_told spans zero
  rwa [show zero.nanos = 0 from rfl, Nat.zero_add] at run

theorem ext_nanos {left right : Words} (same : left.nanos = right.nanos) : left = right := by
  obtain ⟨seconds, rest, proper⟩ := left
  obtain ⟨more, other, properToo⟩ := right
  unfold nanos at same
  dsimp only at same
  obtain rfl : seconds = more := UInt64.toNat_inj.mp (by omega)
  obtain rfl : rest = other := UInt32.toNat_inj.mp (by omega)
  rfl

end Words

def words (span : Duration) : Words where
  seconds := UInt64.ofNat span.seconds
  rest := UInt32.ofNat span.subsecond
  proper := by
    have small : span.subsecond < 1000000000 := Nat.mod_lt _ (by decide)
    rwa [UInt32.toNat_ofNat_of_lt' (by unfold UInt32.size; omega)]

theorem words_nanos (span : Duration) : span.words.nanos = span.nanos := by
  have bound : span.nanos < 2 ^ 64 * 1000000000 := span.fits
  have whole : span.seconds = span.nanos / 1000000000 := rfl
  have part : span.subsecond = span.nanos % 1000000000 := rfl
  unfold words Words.nanos
  rw [UInt64.toNat_ofNat_of_lt' (by unfold UInt64.size; omega),
    UInt32.toNat_ofNat_of_lt' (by unfold UInt32.size; omega)]
  omega

theorem totalNanos_words (spans : List Duration) :
    Words.totalNanos (spans.map words) = totalNanos spans := by
  induction spans with
  | nil => rfl
  | cons span rest ih => simp only [List.map_cons, Words.totalNanos, totalNanos, words_nanos, ih]

theorem Words.nanos_le (words : Words) : words.nanos ≤ longest := by
  have proper := words.proper
  have bound : words.seconds.toNat < 2 ^ 64 := words.seconds.toNat_lt
  unfold nanos longest
  omega

theorem Told.eq_map_words {told : Option Words} {nanos : Nat} (given : Told Words.nanos told nanos) :
    told = (ofNanos? nanos).map words := by
  cases given with
  | @exact result _ same =>
      have fits : nanos < nanosLimit := lt_nanosLimit_iff.mpr (same ▸ result.nanos_le)
      rw [show ofNanos? nanos = some ⟨nanos, fits⟩ from dif_pos fits, Option.map_some,
        Option.some_inj]
      exact Words.ext_nanos (same.trans (words_nanos ⟨nanos, fits⟩).symm)
  | tooLong long =>
      rw [ofNanos?_eq_none fun fits => Nat.not_le_of_lt long (lt_nanosLimit_iff.mp fits),
        Option.map_none]

/-! Totals. -/

/-- The total of some spans: it is missing exactly when it would be longer than every span, else it is
exact, and adding the spans in words gives the same, at once or one by one. -/
structure Totalled (spans : List Duration) (told : Except Failure Duration) : Prop where
  missing : told = .error .timeOverflow ↔ longest < totalNanos spans
  exact : totalNanos spans ≤ longest → ∃ total, told = .ok total ∧
    total.seconds * 1000000000 + total.subsecond = totalNanos spans ∧
    total.seconds < 2 ^ 64 ∧ total.subsecond < 1000000000
  atOnce : told.toOption.map words = Words.sum? (spans.map words)
  oneByOne : told.toOption.map words = (spans.map words).foldlM Words.add? .zero

def exactTotal (spans : List Duration) : Except Failure Duration :=
  match ofNanos? (totalNanos spans) with
  | some total => .ok total
  | none => .error .timeOverflow

theorem exactTotal_perm {spans others : List Duration} (perm : spans.Perm others) :
    exactTotal spans = exactTotal others := by
  rw [exactTotal, exactTotal, totalNanos_perm perm]

theorem exactTotal_ok {spans : List Duration} {total : Duration}
    (same : total.nanos = totalNanos spans) : exactTotal spans = .ok total := by
  rw [exactTotal, ← same, ofNanos?_nanos]

theorem toOption_exactTotal (spans : List Duration) :
    (exactTotal spans).toOption = ofNanos? (totalNanos spans) := by
  unfold exactTotal
  cases ofNanos? (totalNanos spans) <;> rfl

theorem totalled_exactTotal (spans : List Duration) : Totalled spans (exactTotal spans) where
  missing := by
    unfold exactTotal
    by_cases fits : totalNanos spans < nanosLimit
    · rw [show ofNanos? (totalNanos spans) = some ⟨_, fits⟩ from dif_pos fits]
      simp [lt_nanosLimit_iff.mp fits]
    · rw [ofNanos?_eq_none fits]
      rw [lt_nanosLimit_iff] at fits
      simpa using fits
  exact short := by
    have fits := lt_nanosLimit_iff.mpr short
    refine ⟨⟨_, fits⟩, exactTotal_ok rfl, ?_, ?_, Nat.mod_lt _ (by decide)⟩
    · exact Nat.div_add_mod' _ _
    · exact Nat.div_lt_of_lt_mul (Nat.mul_comm _ _ ▸ fits)
  atOnce := by
    have told := (Words.sum?_told (spans.map words)).eq_map_words
    rw [told, totalNanos_words, toOption_exactTotal]
  oneByOne := by
    have told := (Words.foldlM_add?_told (spans.map words)).eq_map_words
    rw [told, totalNanos_words, toOption_exactTotal]

end Duration

open Duration (longest totalNanos exactTotal Totalled)

theorem Judgement.time_ofRuns (clean flagged : List Run) :
    (Judgement.ofRuns clean flagged).map Judgement.time =
      exactTotal ((clean ++ flagged).map fun run => run.output.elapsed) := by
  unfold Judgement.ofRuns totalTime exactTotal
  rw [Duration.sum?_eq]
  cases Duration.ofNanos? (totalNanos ((clean ++ flagged).map fun run => run.output.elapsed)) <;> rfl

theorem Verdict.time_ofRuns (runs : List VariantRun) :
    (Verdict.ofRuns runs).map Verdict.time =
      exactTotal (runs.map fun variant => variant.run.output.elapsed) := by
  rw [Verdict.ofRuns_eq, exactTotal]
  cases Duration.ofNanos? (totalNanos (runs.map fun variant => variant.run.output.elapsed)) <;> rfl

namespace Totals

theorem ofResults_overflows_iff (results : Results) :
    ofResults results = .error .timeOverflow ↔
      ∃ kind, longest < totalNanos ((results.verdicts kind).map Verdict.time) := by
  constructor
  · intro failed
    by_contra short
    have bounded (kind : Kind) :
        totalNanos ((results.verdicts kind).map Verdict.time) < nanosLimit :=
      Duration.lt_nanosLimit_iff.mpr (Nat.le_of_not_lt fun long => short ⟨kind, long⟩)
    obtain ⟨totals, given, -⟩ := ofResults_tallies bounded
    simp [given] at failed
  · rintro ⟨kind, long⟩
    cases given : ofResults results with
    | error failure => rw [ofResults_failsIn results failure given]
    | ok totals =>
        have counts := ((tallies_of_ofResults given).2.counts kind).runtime
        rw [Results.verdictsOn_entries] at counts
        have fits := Duration.lt_nanosLimit_iff.mp ((totals.tools.get? kind).getD {}).runtime.fits
        omega

theorem runtime_totalled {results : Results} {totals : Totals}
    (given : ofResults results = .ok totals) {kind : Kind} {tool : ToolTotals}
    (found : totals.tools.get? kind = some tool) :
    Totalled ((results.verdicts kind).map Verdict.time) (.ok tool.runtime) := by
  have counts := ((tallies_of_ofResults given).2.counts kind).runtime
  rw [Results.verdictsOn_entries, found, Option.getD_some] at counts
  rw [← Duration.exactTotal_ok counts]
  exact Duration.totalled_exactTotal _

end Totals

/-- The time of a judgement or a verdict is the exact total of its runs, however they are ordered and
labelled, and a total that no span can hold is an overflow; and so it is with the totals of all results,
for each tool over its own verdicts. -/
theorem Verdict.times_exact (clean flagged : List Run) (runs : List VariantRun)
    (results : Results) :
    Totalled ((clean ++ flagged).map fun run => run.output.elapsed)
        ((Judgement.ofRuns clean flagged).map Judgement.time) ∧
      Totalled (runs.map fun variant => variant.run.output.elapsed)
        ((Verdict.ofRuns runs).map Verdict.time) ∧
      (∀ silent loud : List Run, (silent ++ loud).Perm (clean ++ flagged) →
        (Judgement.ofRuns silent loud).map Judgement.time =
          (Judgement.ofRuns clean flagged).map Judgement.time) ∧
      (∀ others : List VariantRun, (others.map VariantRun.run).Perm (runs.map VariantRun.run) →
        (Verdict.ofRuns others).map Verdict.time = (Verdict.ofRuns runs).map Verdict.time) ∧
      (Totals.ofResults results = .error .timeOverflow ↔
        ∃ kind, longest < totalNanos ((results.verdicts kind).map Verdict.time)) ∧
      ((∀ kind, totalNanos ((results.verdicts kind).map Verdict.time) ≤ longest) →
        ∃ totals, Totals.ofResults results = .ok totals ∧
          ∀ kind tool, totals.tools.get? kind = some tool →
            Totalled ((results.verdicts kind).map Verdict.time) (.ok tool.runtime)) := by
  refine ⟨?_, ?_, fun silent loud perm => ?_, fun others perm => ?_,
    Totals.ofResults_overflows_iff results, fun short => ?_⟩
  · rw [Judgement.time_ofRuns]
    exact Duration.totalled_exactTotal _
  · rw [Verdict.time_ofRuns]
    exact Duration.totalled_exactTotal _
  · rw [Judgement.time_ofRuns, Judgement.time_ofRuns]
    exact Duration.exactTotal_perm (perm.map _)
  · have spans := perm.map fun run => run.output.elapsed
    rw [List.map_map, List.map_map] at spans
    rw [Verdict.time_ofRuns, Verdict.time_ofRuns]
    exact Duration.exactTotal_perm spans
  · obtain ⟨totals, given, -⟩ := Totals.ofResults_tallies fun kind =>
      Duration.lt_nanosLimit_iff.mpr (short kind)
    exact ⟨totals, given, fun kind tool found => Totals.runtime_totalled given found⟩

def Duration.brim : Duration := ⟨longest - 1, by decide⟩

def Duration.instant : Duration := ⟨1, by decide⟩

def Run.lasting (span : Duration) : Run := { output := { elapsed := span } }

def brimResults : Results where
  tools := [.reference]
  cases := .ofList [
    ("a", .ofList [(.reference, ⟨true, .nothing, .brim, []⟩), (.subject, ⟨true, .nothing, .brim, []⟩)]),
    ("b", .ofList [(.reference, ⟨true, .nothing, .instant, []⟩)])]

/-- A nanosecond more than the brim still fits, in either order, and one more than that is an overflow. -/
theorem Verdict.times_exact_brim :
    (∃ total, (Judgement.ofRuns [.lasting .brim] [.lasting .instant]).map Judgement.time = .ok total ∧
      total.seconds = 2 ^ 64 - 1 ∧ total.subsecond = 999999999 ∧
      (Judgement.ofRuns [] [.lasting .instant, .lasting .brim]).map Judgement.time = .ok total) ∧
      (Verdict.ofRuns [⟨"a", .clean, .lasting .instant⟩, ⟨"b", .flagged, .lasting .brim⟩,
        ⟨"c", .clean, .lasting .instant⟩]).map Verdict.time = .error .timeOverflow ∧
      ∃ totals tool, Totals.ofResults brimResults = .ok totals ∧
        totals.tools.get? .reference = some tool ∧
        tool.runtime.seconds * 1000000000 + tool.runtime.subsecond = longest := by
  obtain ⟨judged, verdict, alike, -, -, counted⟩ := Verdict.times_exact [.lasting .brim]
    [.lasting .instant] [⟨"a", .clean, .lasting .instant⟩, ⟨"b", .flagged, .lasting .brim⟩,
      ⟨"c", .clean, .lasting .instant⟩] brimResults
  refine ⟨?_, verdict.missing.mpr (by decide), ?_⟩
  · obtain ⟨total, given, exact, -, small⟩ := judged.exact (by decide)
    have sum : total.seconds * 1000000000 + total.subsecond = longest := exact.trans (by decide)
    have swapped := alike [] [.lasting .instant, .lasting .brim] (List.Perm.swap _ _ _)
    unfold longest at sum
    exact ⟨total, given, by omega, by omega, swapped.trans given⟩
  · obtain ⟨totals, given, each⟩ := counted fun kind => by cases kind <;> decide
    have listed : Kind.reference ∈ totals.tools.keys := by
      obtain rfl := Except.ok.inj given
      decide
    obtain ⟨tool, found⟩ := OrderedMap.mem_keys_iff.mp listed
    obtain ⟨runtime, same, exact, -⟩ := (each .reference tool found).exact (by decide)
    cases same
    exact ⟨totals, tool, given, found, exact.trans (by decide)⟩

end Assay
