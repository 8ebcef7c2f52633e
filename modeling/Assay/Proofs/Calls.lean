import Mathlib.Data.List.Perm.Subperm
import Assay.Proofs.Course
import Assay.Proofs.Discovery

/-!
The calls that a campaign makes of its analyzers. Nothing is called before every check has passed;
then every analyzer is called once for every variant of every case, until a call fails.
-/

namespace Assay

/-- A call of an analyzer, which is known by its place among all. -/
structure Analyzer.Call where
  place : Nat
  options : List String
  file : Path
deriving DecidableEq

abbrev CallLog := List (Analyzer.Call × Except Failure Run)

structure Recorded (σ : Type) where
  world : σ
  log : CallLog := []

instance {σ : Type} [Surroundings σ] : Surroundings (Recorded σ) where
  tree recorded := Surroundings.tree recorded.world
  working recorded := Surroundings.working recorded.world
  createFolder path recorded :=
    let (result, world) := Surroundings.createFolder path recorded.world
    (result, { recorded with world })
  writeText path text recorded :=
    let (result, world) := Surroundings.writeText path text recorded.world
    (result, { recorded with world })

variable {σ α β : Type}

def Analyzer.recorded (analyzer : Analyzer σ) (place : Nat) : Analyzer (Recorded σ) where
  kind := analyzer.kind
  validate recorded := analyzer.validate recorded.world
  analyze options file := ExceptT.mk fun recorded =>
    let ended := (analyzer.analyze options file).outcome recorded.world
    (ended.1, { world := ended.2, log := recorded.log ++ [({ place, options, file }, ended.1)] })

theorem Analyzer.recorded_analyze {analyzer : Analyzer σ} {place : Nat} {options : List String}
    {file : Path} {world after : σ} {result : Except Failure Run}
    (given : (analyzer.analyze options file).outcome world = (result, after)) (log : CallLog) :
    ((analyzer.recorded place).analyze options file).outcome { world, log } =
      (result, { world := after, log := log ++ [({ place, options, file }, result)] }) := by
  have recorded : ((analyzer.recorded place).analyze options file).outcome { world, log } =
      let ended := (analyzer.analyze options file).outcome world
      (ended.1, { world := ended.2, log := log ++ [({ place, options, file }, ended.1)] }) := rfl
  rw [recorded, given]

namespace Campaign

def recordedAll (analyzers : List (Analyzer σ)) : List (Analyzer (Recorded σ)) :=
  analyzers.zipIdx.map fun (analyzer, place) => analyzer.recorded place

def isThere [Surroundings σ] (state : σ) (variant : Variant) : Bool :=
  (Surroundings.tree state).isFile (Surroundings.working state) variant.file

def callsOn (case : Case) (place : Nat) : List Analyzer.Call :=
  case.variants.map fun variant => { place, options := variant.options, file := variant.file }

def allCalls (analyzers : Nat) (cases : List Case) : List Analyzer.Call :=
  cases.flatMap fun case => (List.range analyzers).flatMap (callsOn case)

end Campaign

namespace CallLog

structure Logged (calls : List Analyzer.Call) (runs : List Run) (log : CallLog) : Prop where
  calls : log.map Prod.fst = calls
  answers : log.map Prod.snd = runs.map .ok

/-- The last call failed, or the runs of the last batch of calls have no total time. -/
inductive Ended (batches : List Analyzer.Call → Prop) : CallLog → Failure → Prop
  | call {calls runs front call failure} : Logged calls runs front →
      Ended batches (front ++ [(call, .error failure)]) failure
  | time {calls runs front batch batchRuns back} : Logged calls runs front →
      Logged batch batchRuns back → batches batch →
      ¬ Duration.totalNanos (batchRuns.map fun run => run.output.elapsed) < nanosLimit →
      Ended batches (front ++ back) .timeOverflow

theorem logged_nil : Logged [] [] [] := ⟨rfl, rfl⟩

theorem Logged.append {calls more : List Analyzer.Call} {runs others : List Run}
    {front back : CallLog} (first : Logged calls runs front) (second : Logged more others back) :
    Logged (calls ++ more) (runs ++ others) (front ++ back) where
  calls := by rw [List.map_append, first.calls, second.calls]
  answers := by rw [List.map_append, List.map_append, first.answers, second.answers]

theorem Logged.answered {calls : List Analyzer.Call} {runs : List Run} {log : CallLog}
    (logged : Logged calls runs log) : ∀ entry ∈ log, ∃ run, entry.2 = .ok run := by
  intro entry member
  have answer : entry.2 ∈ log.map Prod.snd := List.mem_map.mpr ⟨entry, member, rfl⟩
  rw [logged.answers] at answer
  obtain ⟨run, -, same⟩ := List.mem_map.mp answer
  exact ⟨run, same.symm⟩

theorem Ended.after {batches : List Analyzer.Call → Prop} {calls : List Analyzer.Call}
    {runs : List Run} {earlier log : CallLog} {failure : Failure}
    (first : Logged calls runs earlier) (ended : Ended batches log failure) :
    Ended batches (earlier ++ log) failure := by
  cases ended with
  | call logged =>
      rw [← List.append_assoc]
      exact .call (first.append logged)
  | time logged last batch large =>
      rw [← List.append_assoc]
      exact .time (first.append logged) last batch large

theorem Ended.mono {batches others : List Analyzer.Call → Prop} {log : CallLog}
    {failure : Failure} (ended : Ended batches log failure)
    (wider : ∀ calls, batches calls → others calls) : Ended others log failure := by
  cases ended with
  | call logged => exact .call logged
  | time logged last batch large => exact .time logged last (wider _ batch) large

theorem Ended.failure_eq {batches : List Analyzer.Call → Prop} {log : CallLog}
    {failure : Failure} (ended : Ended batches log failure) :
    ∀ entry ∈ log, ∀ other, entry.2 = .error other → failure = other := by
  intro entry member other failed
  cases ended with
  | @call calls runs front call failure logged =>
      rcases List.mem_append.mp member with earlier | last
      · obtain ⟨run, answer⟩ := logged.answered entry earlier
        simp [answer] at failed
      · rw [List.mem_singleton.mp last] at failed
        exact Except.error.inj failed
  | time logged last batch large =>
      obtain ⟨run, answer⟩ := (logged.append last).answered entry member
      simp [answer] at failed

/-- A value tells of all the runs that the calls came to; after a failure only the first calls were
made. -/
def Tells (calls : List Analyzer.Call) (runs : α → List Run)
    (batches : List Analyzer.Call → Prop) (made : CallLog) : Except Failure α → Prop
  | .ok value => Logged calls (runs value) made
  | .error failure => made.map Prod.fst <+: calls ∧ Ended batches made failure

def Traces (recorded : Action (Recorded σ) α) (action : Action σ α) (calls : List Analyzer.Call)
    (runs : α → List Run) (batches : List Analyzer.Call → Prop) : Prop :=
  ∀ ⦃world result after⦄, action.outcome world = (result, after) → ∀ log, ∃ made,
    recorded.outcome { world, log } = (result, { world := after, log := log ++ made }) ∧
      Tells calls runs batches made result

end CallLog

open CallLog

theorem Analyzer.recorded_traces (analyzer : Analyzer σ) (place : Nat) (options : List String)
    (file : Path) (batches : List Analyzer.Call → Prop) :
    Traces ((analyzer.recorded place).analyze options file) (analyzer.analyze options file)
      [{ place, options, file }] (fun run => [run]) batches := by
  intro world result after given log
  refine ⟨_, Analyzer.recorded_analyze given log, ?_⟩
  cases result with
  | ok run => exact ⟨rfl, rfl⟩
  | error failure => exact ⟨List.prefix_rfl, .call logged_nil⟩

namespace CallLog.Traces

variable {recorded : Action (Recorded σ) α} {action : Action σ α} {calls : List Analyzer.Call}
  {runs : α → List Run} {batches : List Analyzer.Call → Prop}

theorem check {told : β → List Run} {result : α → Except Failure β}
    (traces : Traces recorded action calls runs batches)
    (fine : ∀ value given, result value = .ok given → told given = runs value)
    (refused : ∀ value failure made, result value = .error failure →
      Logged calls (runs value) made → Ended batches made failure) :
    Traces (recorded >>= fun value => Action.ofExcept (result value))
      (action >>= fun value => Action.ofExcept (result value)) calls told batches := by
  intro world ending after given log
  rcases reached : action.outcome world with ⟨failure | value, middle⟩
  · obtain ⟨made, outcome, logged⟩ := traces reached log
    rw [Action.outcome_bind_error reached] at given
    obtain ⟨rfl, rfl⟩ := Prod.mk.inj given
    exact ⟨made, Action.outcome_bind_error outcome _, logged⟩
  · obtain ⟨made, outcome, logged⟩ := traces reached log
    rw [Action.outcome_bind_ok reached] at given
    obtain ⟨rfl, rfl⟩ := Prod.mk.inj given
    refine ⟨made, Action.outcome_bind_ok outcome _, ?_⟩
    cases checked : result value with
    | error failure =>
        exact ⟨logged.calls ▸ List.prefix_rfl, refused value failure made checked logged⟩
    | ok answer =>
        rw [Tells, fine value answer checked]
        exact logged

theorem map {told : β → List Run} (traces : Traces recorded action calls runs batches)
    (value : α → β) (same : ∀ given, told (value given) = runs given) :
    Traces (do return value (← recorded)) (do return value (← action)) calls told batches :=
  traces.check (fun given answer made => by rw [← Except.ok.inj made, same])
    fun given failure made refused _ => by simp at refused

theorem mono {others : List Analyzer.Call → Prop}
    (traces : Traces recorded action calls runs batches)
    (wider : ∀ calls, batches calls → others calls) :
    Traces recorded action calls runs others := by
  intro world result after given log
  obtain ⟨made, outcome, logged⟩ := traces given log
  refine ⟨made, outcome, ?_⟩
  cases result with
  | ok value => exact logged
  | error failure => exact ⟨logged.1, logged.2.mono wider⟩

theorem mapM {ι : Type} {recorded : ι → Action (Recorded σ) α} {action : ι → Action σ α}
    {callsOf : ι → List Analyzer.Call} {items : List ι}
    (each : ∀ item ∈ items, Traces (recorded item) (action item) (callsOf item) runs batches) :
    Traces (items.mapM recorded) (items.mapM action) (items.flatMap callsOf)
      (fun values => values.flatMap runs) batches := by
  induction items with
  | nil =>
      intro world result after given log
      obtain ⟨rfl, rfl⟩ := Prod.mk.inj given
      exact ⟨[], by simp, logged_nil⟩
  | cons item rest ih =>
      rw [List.forall_mem_cons] at each
      intro world result after given log
      rw [List.mapM_cons] at given ⊢
      rcases reached : (action item).outcome world with ⟨failure | value, middle⟩
      · obtain ⟨first, begun, logged⟩ := each.1 reached log
        rw [Action.outcome_bind_error reached] at given
        obtain ⟨rfl, rfl⟩ := Prod.mk.inj given
        refine ⟨first, Action.outcome_bind_error begun _, ?_, logged.2⟩
        exact logged.1.trans (List.prefix_append _ _)
      · obtain ⟨first, begun, logged⟩ := each.1 reached log
        rw [Action.outcome_bind_ok reached] at given
        rw [Action.outcome_bind_ok begun]
        rcases finished : (rest.mapM action).outcome middle with ⟨failure | values, last⟩
        · obtain ⟨later, followed, ended⟩ := ih each.2 finished (log ++ first)
          rw [Action.outcome_bind_error finished] at given
          obtain ⟨rfl, rfl⟩ := Prod.mk.inj given
          refine ⟨first ++ later, ?_, ?_, ended.2.after logged⟩
          · rw [Action.outcome_bind_error followed, List.append_assoc]
          · rw [List.map_append, logged.calls, List.flatMap_cons]
            exact (List.prefix_append_right_inj _).mpr ended.1
        · obtain ⟨later, followed, others⟩ := ih each.2 finished (log ++ first)
          rw [Action.outcome_bind_ok finished] at given
          obtain ⟨rfl, rfl⟩ := Prod.mk.inj given
          refine ⟨first ++ later, ?_, logged.append others⟩
          rw [Action.outcome_bind_ok followed, List.append_assoc]
          rfl

end CallLog.Traces

theorem Analyzer.runAll_traces (analyzer : Analyzer σ) (place : Nat) (case : Case)
    (batches : List Analyzer.Call → Prop) :
    Traces ((analyzer.recorded place).runAll case.variants) (analyzer.runAll case.variants)
      (Campaign.callsOn case place) (fun runs => runs.map VariantRun.run) batches := by
  have variants : Traces ((analyzer.recorded place).runAll case.variants)
      (analyzer.runAll case.variants)
      (case.variants.flatMap fun variant =>
        [{ place, options := variant.options, file := variant.file }])
      (fun runs => runs.flatMap fun run => [run.run]) batches :=
    CallLog.Traces.mapM fun variant _ =>
      (analyzer.recorded_traces place variant.options variant.file batches).map _ fun _ => rfl
  simp only [← List.map_eq_flatMap] at variants
  exact variants

theorem Analyzer.trial_traces (analyzer : Analyzer σ) (place : Nat) (case : Case) :
    Traces ((analyzer.recorded place).trial case) (analyzer.trial case)
      (Campaign.callsOn case place) (fun verdict => verdict.runs.map VariantRun.run)
      (· = Campaign.callsOn case place) := by
  rw [Analyzer.trial_eq, Analyzer.trial_eq]
  -- Judging makes no call, and fails only when the times have no total.
  refine (analyzer.runAll_traces place case _).check (fun values verdict judged => ?_)
    fun values failure made unjudged logged => ?_
  · rw [Verdict.runs_of_ofRuns judged]
  · rw [Verdict.ofRuns_eq] at unjudged
    split at unjudged
    · simp at unjudged
    · next large =>
        obtain rfl := Except.error.inj unjudged
        refine Ended.time logged_nil logged rfl fun fits => ?_
        have bounded : Duration.totalNanos (values.map fun variant => variant.run.output.elapsed) <
            nanosLimit := by rwa [List.map_map] at fits
        rw [Duration.ofNanos?, dif_pos bounded] at large
        simp at large

namespace Campaign

/-! All units. -/

theorem units_recordedAll (analyzers : List (Analyzer σ)) (cases : List Case) :
    units (recordedAll analyzers) cases =
      (cases ×ˢ analyzers.zipIdx).map fun placed => ⟨placed.1, placed.2.1.recorded placed.2.2⟩ :=
  units_map _ _ _

theorem units_eq (analyzers : List (Analyzer σ)) (cases : List Case) :
    units analyzers cases =
      (cases ×ˢ analyzers.zipIdx).map fun placed => ⟨placed.1, placed.2.1⟩ := by
  rw [← units_map, List.zipIdx_map_fst]

theorem flatMap_callsOn (analyzers : List (Analyzer σ)) (cases : List Case) :
    ((cases ×ˢ analyzers.zipIdx).flatMap fun placed => callsOn placed.1 placed.2.2) =
      allCalls analyzers.length cases := by
  rw [allCalls, List.range_eq_range', ← List.zipIdx_map_snd 0 analyzers]
  simp only [SProd.sprod, List.product, List.flatMap_assoc, List.flatMap_map]

theorem runUnits_traces (analyzers : List (Analyzer σ)) (cases : List Case) (order : List Nat) :
    Traces (runUnits (units (recordedAll analyzers) cases) order)
      (runUnits (units analyzers cases) order)
      ((picked (cases ×ˢ analyzers.zipIdx) order).flatMap fun numbered =>
        callsOn numbered.2.1 numbered.2.2.2)
      (fun verdicts => verdicts.flatMap fun entry => entry.2.runs.map VariantRun.run)
      (fun batch => ∃ case ∈ cases, ∃ place < analyzers.length, batch = callsOn case place) := by
  rw [units_recordedAll, units_eq, runUnits_map, runUnits_map]
  refine CallLog.Traces.mapM fun numbered member => ?_
  obtain ⟨position, case, analyzer, place⟩ := numbered
  refine ((analyzer.trial_traces place case).mono fun batch same => ?_).map (position, ·)
    fun verdict => rfl
  obtain ⟨listed, enabled⟩ := List.pair_mem_product.mp (mem_of_picked member)
  have inside := (List.getElem?_eq_some_iff.mp (List.mem_zipIdx_iff_getElem?.mp enabled)).1
  exact ⟨case, listed, place, inside, same⟩

theorem picked_calls_perm {analyzers : List (Analyzer σ)} {cases : List Case} {order : List Nat}
    (complete : Complete order (units analyzers cases)) :
    ((picked (cases ×ˢ analyzers.zipIdx) order).flatMap fun numbered =>
      callsOn numbered.2.1 numbered.2.2.2).Perm (allCalls analyzers.length cases) := by
  rw [Complete, units_eq, List.length_map] at complete
  have each := (picked_perm complete).flatMap_right fun placed => callsOn placed.1 placed.2.2
  rwa [List.flatMap_map, flatMap_callsOn] at each

theorem resultsOf_recordedAll (analyzers : List (Analyzer σ)) (cases : List Case)
    (verdicts : List (Nat × Verdict)) :
    resultsOf (recordedAll analyzers) cases verdicts = resultsOf analyzers cases verdicts := by
  have tools : (recordedAll analyzers).map Analyzer.kind = analyzers.map Analyzer.kind := by
    calc (recordedAll analyzers).map Analyzer.kind
        = (analyzers.zipIdx.map Prod.fst).map Analyzer.kind := by
          rw [recordedAll, List.map_map, List.map_map]
          rfl
      _ = _ := by rw [List.zipIdx_map_fst]
  rw [resultsOf, resultsOf, tools, units_recordedAll, units_eq]
  simp only [findings, List.zipIdx_map, List.filterMap_map]
  rfl

/-! The checks. -/

variable [Surroundings σ]

theorem checkInputs_ok_iff {case : Case} {state : σ} :
    checkInputs case state = .ok () ↔ ∀ variant ∈ case.variants, isThere state variant = true :=
  Case.checkInputs_ok_iff

theorem checkInputs_error {case : Case} {state : σ} {failure : Failure}
    (failed : checkInputs case state = .error failure) :
    ∃ earlier variant later, case.variants = earlier ++ variant :: later ∧
      (∀ other ∈ earlier, isThere state other = true) ∧ isThere state variant = false ∧
      failure = .missingInput case.id variant.file :=
  Case.checkInputs_error failed

theorem checkAll_recordedAll (analyzers : List (Analyzer σ)) (cases : List Case) (world : σ)
    (log : CallLog) :
    checkAll (recordedAll analyzers) cases { world, log } = checkAll analyzers cases world := by
  have validated : ((recordedAll analyzers).forM fun analyzer =>
      analyzer.validate { world, log }) =
        analyzers.forM fun analyzer => analyzer.validate world := by
    calc ((recordedAll analyzers).forM fun analyzer => analyzer.validate { world, log })
        = (analyzers.zipIdx.map Prod.fst).forM fun analyzer => analyzer.validate world := by
          simp only [recordedAll, List.forM_eq_forM, List.forM_map]
          rfl
      _ = _ := by rw [List.zipIdx_map_fst]
  rw [checkAll, validated]
  rfl

theorem checkAll_refused {analyzers : List (Analyzer σ)} {state : σ}
    (invalid : ∃ analyzer ∈ analyzers, analyzer.validate state ≠ .ok ()) (cases : List Case) :
    ∃ front analyzer back failure, analyzers = front ++ analyzer :: back ∧
      (∀ earlier ∈ front, earlier.validate state = .ok ()) ∧
      analyzer.validate state = .error failure ∧
      checkAll analyzers cases state = .error failure := by
  rcases Outcome.forM_cases analyzers (·.validate state) with
    ⟨valid, -⟩ | ⟨front, analyzer, back, failure, split, valid, failed, stopped⟩
  · obtain ⟨analyzer, member, refused⟩ := invalid
    exact absurd (valid analyzer member) refused
  · refine ⟨front, analyzer, back, failure, split, valid, failed, ?_⟩
    rw [checkAll, stopped]
    rfl

theorem checkAll_missing {analyzers : List (Analyzer σ)} {cases : List Case} {state : σ}
    (valid : ∀ analyzer ∈ analyzers, analyzer.validate state = .ok ())
    (absent : ∃ case ∈ cases, ∃ variant ∈ case.variants, isThere state variant = false) :
    ∃ before case behind earlier variant later, cases = before ++ case :: behind ∧
      (∀ other ∈ before, ∀ variant ∈ other.variants, isThere state variant = true) ∧
      case.variants = earlier ++ variant :: later ∧
      (∀ other ∈ earlier, isThere state other = true) ∧ isThere state variant = false ∧
      checkAll analyzers cases state = .error (.missingInput case.id variant.file) := by
  have checked : checkAll analyzers cases state =
      cases.forM fun case => checkInputs case state := by
    rw [checkAll, Outcome.forM_eq_ok_iff.mpr valid]
    rfl
  rcases Outcome.forM_cases cases fun case => checkInputs case state with
    ⟨present, -⟩ | ⟨before, case, behind, failure, split, present, failed, stopped⟩
  · obtain ⟨case, listed, variant, member, gone⟩ := absent
    rw [checkInputs_ok_iff.mp (present case listed) variant member] at gone
    simp at gone
  · obtain ⟨earlier, variant, later, variants, there, gone, rfl⟩ := checkInputs_error failed
    exact ⟨before, case, behind, earlier, variant, later, split,
      fun other member => checkInputs_ok_iff.mp (present other member), variants, there, gone,
      checked.trans stopped⟩

theorem checkAll_passed {analyzers : List (Analyzer σ)} {cases : List Case} {state : σ}
    (valid : ∀ analyzer ∈ analyzers, analyzer.validate state = .ok ())
    (there : ∀ case ∈ cases, ∀ variant ∈ case.variants, isThere state variant = true) :
    checkAll analyzers cases state = .ok () :=
  checkAll_ok_iff.mpr ⟨valid, fun case listed => checkInputs_ok_iff.mpr (there case listed)⟩

/-- The calls of a campaign and what they come to: none before the checks have passed, then each one
once, as long as none fails. -/
structure FailsFast (analyzers : List (Analyzer σ)) (cases : List Case) (state : σ)
    (result : Except Failure Results) (log : CallLog) : Prop where
  refused : (∃ analyzer ∈ analyzers, analyzer.validate state ≠ .ok ()) →
    ∃ front analyzer back failure, analyzers = front ++ analyzer :: back ∧
      (∀ earlier ∈ front, earlier.validate state = .ok ()) ∧
      analyzer.validate state = .error failure ∧ result = .error failure ∧ log = []
  missing : (∀ analyzer ∈ analyzers, analyzer.validate state = .ok ()) →
    (∃ case ∈ cases, ∃ variant ∈ case.variants, isThere state variant = false) →
    ∃ before case behind earlier variant later, cases = before ++ case :: behind ∧
      (∀ other ∈ before, ∀ variant ∈ other.variants, isThere state variant = true) ∧
      case.variants = earlier ++ variant :: later ∧
      (∀ other ∈ earlier, isThere state other = true) ∧ isThere state variant = false ∧
      result = .error (.missingInput case.id variant.file) ∧ log = []
  once : (∀ analyzer ∈ analyzers, analyzer.validate state = .ok ()) →
    (∀ case ∈ cases, ∀ variant ∈ case.variants, isThere state variant = true) →
    (∀ entry ∈ log, ∃ run, entry.2 = .ok run) →
    (∃ results, result = .ok results) ∧
        (log.map Prod.fst).Perm (allCalls analyzers.length cases) ∨
      -- No call fails, but adding up the times of one unit overflows, which is a panic.
      result = .error .timeOverflow ∧ ∃ front back case place runs, log = front ++ back ∧
        case ∈ cases ∧ place < analyzers.length ∧ Logged (callsOn case place) runs back ∧
        ¬ Duration.totalNanos (runs.map fun run => run.output.elapsed) < nanosLimit
  neverAgain : (log.map Prod.fst).Subperm (allCalls analyzers.length cases)
  stopped : ∀ entry ∈ log, ∀ failure, entry.2 = .error failure → result = .error failure

theorem failsFast_of_refused {analyzers : List (Analyzer σ)} {cases : List Case} {state : σ}
    {failure : Failure} (refused : checkAll analyzers cases state = .error failure) :
    FailsFast analyzers cases state (.error failure) [] where
  refused invalid := by
    obtain ⟨front, analyzer, back, first, split, valid, failed, given⟩ :=
      checkAll_refused invalid cases
    obtain rfl := Except.error.inj (given.symm.trans refused)
    exact ⟨front, analyzer, back, first, split, valid, failed, rfl, rfl⟩
  missing valid absent := by
    obtain ⟨before, case, behind, earlier, variant, later, split, there, variants, found, gone,
      given⟩ := checkAll_missing valid absent
    obtain rfl := Except.error.inj (given.symm.trans refused)
    exact ⟨before, case, behind, earlier, variant, later, split, there, variants, found, gone, rfl,
      rfl⟩
  once valid there := by
    rw [checkAll_passed valid there] at refused
    simp at refused
  neverAgain := List.nil_subperm
  stopped := by simp

theorem failsFast_of_told {analyzers : List (Analyzer σ)} {cases : List Case} {state : σ}
    {order : List Nat} (complete : Complete order (units analyzers cases))
    (checked : checkAll analyzers cases state = .ok ())
    {reached : Except Failure (List (Nat × Verdict))} {log : CallLog}
    (told : Tells
      ((picked (cases ×ˢ analyzers.zipIdx) order).flatMap fun numbered =>
        callsOn numbered.2.1 numbered.2.2.2)
      (fun verdicts => verdicts.flatMap fun entry => entry.2.runs.map VariantRun.run)
      (fun batch => ∃ case ∈ cases, ∃ place < analyzers.length, batch = callsOn case place)
      log reached) :
    FailsFast analyzers cases state (reached.map (resultsOf analyzers cases)) log where
  refused invalid := by
    obtain ⟨_, _, _, _, _, _, _, refused⟩ := checkAll_refused invalid cases
    simp [checked] at refused
  missing valid absent := by
    obtain ⟨_, _, _, _, _, _, _, _, _, _, _, refused⟩ := checkAll_missing valid absent
    simp [checked] at refused
  once _ _ answered := by
    cases reached with
    | ok verdicts =>
        refine Or.inl ⟨⟨_, rfl⟩, ?_⟩
        rw [told.calls]
        exact picked_calls_perm complete
    | error failure =>
        -- Every call came to a run, so only the times can have ended the campaign.
        cases told.2 with
        | call _ =>
            obtain ⟨run, answer⟩ := answered _ (List.mem_append_right _ List.mem_cons_self)
            simp at answer
        | time _ last batch large =>
            obtain ⟨case, listed, place, enabled, rfl⟩ := batch
            exact Or.inr ⟨rfl, _, _, case, place, _, rfl, listed, enabled, last, large⟩
  neverAgain := by
    cases reached with
    | ok verdicts =>
        rw [told.calls]
        exact (picked_calls_perm complete).subperm
    | error failure => exact told.1.sublist.subperm.trans (picked_calls_perm complete).subperm
  stopped entry member failure failed := by
    cases reached with
    | ok verdicts =>
        obtain ⟨run, answer⟩ := told.answered entry member
        simp [answer] at failed
    | error first => rw [told.2.failure_eq entry member failure failed]; rfl

/-- Recorded, a campaign comes to the same result, and its calls show that it fails fast. -/
theorem runIn_failsFast {order : List Nat} {analyzers : List (Analyzer σ)} {cases : List Case}
    (complete : Complete order (units analyzers cases)) (state : σ) :
    ∃ result after log,
      (runIn order analyzers cases).outcome state = (result, after) ∧
      (runIn order (recordedAll analyzers) cases).outcome { world := state } =
        (result, { world := after, log }) ∧
      FailsFast analyzers cases state result log := by
  have alike := checkAll_recordedAll analyzers cases state []
  cases checked : checkAll analyzers cases state with
  | error failure =>
      rw [checked] at alike
      exact ⟨.error failure, state, [], runIn_refused checked, runIn_refused alike,
        failsFast_of_refused checked⟩
  | ok _ =>
      rw [checked] at alike
      rcases ended : (runUnits (units analyzers cases) order).outcome state with ⟨reached, after⟩
      obtain ⟨log, recorded, told⟩ := runUnits_traces analyzers cases order ended []
      refine ⟨_, after, log, runIn_checked checked ended, ?_,
        failsFast_of_told complete checked told⟩
      rw [runIn_checked alike recorded, funext (resultsOf_recordedAll analyzers cases)]
      rfl

/-- One file under two options, and the first of them once more under the same id. -/
def oneFile : List Case := [
  { id := "CWE121.c", variants := [
      { label := "correct", file := ⟨"/CWE121.c"⟩, options := [], expectation := .clean },
      { label := "incorrect", file := ⟨"/CWE121.c"⟩, options := ["-DBAD"],
        expectation := .flagged }] },
  { id := "CWE121.c", variants := [
      { label := "correct", file := ⟨"/CWE121.c"⟩, options := [], expectation := .clean }] }]

theorem runIn_failsFast_oneFile :
    Complete [2, 0, 3, 1] (units twoReferences oneFile) ∧
      ∃ results after log,
        (runIn [2, 0, 3, 1] (recordedAll twoReferences) oneFile).outcome { world := sharedFile } =
          (.ok results, { world := after, log }) ∧
        (log.map Prod.fst).Perm (allCalls 2 oneFile) ∧ (allCalls 2 oneFile).length = 6 := by
  have complete : Complete [2, 0, 3, 1] (units twoReferences oneFile) := by
    change List.Perm [2, 0, 3, 1] [0, 1, 2, 3]
    decide
  have valid : ∀ analyzer ∈ twoReferences, analyzer.validate sharedFile = .ok () := by
    simp only [twoReferences, List.map_cons, List.map_nil, List.forall_mem_cons]
    exact ⟨rfl, rfl, by simp⟩
  obtain ⟨result, after, log, plain, recorded, fast⟩ := runIn_failsFast complete sharedFile
  obtain ⟨results, rfl⟩ : ∃ results, result = .ok results := by
    have ended : ∃ results left,
        (runIn [2, 0, 3, 1] twoReferences oneFile).outcome sharedFile = (.ok results, left) :=
      ⟨_, _, rfl⟩
    obtain ⟨results, left, ended⟩ := ended
    exact ⟨results, congrArg Prod.fst (plain.symm.trans ended)⟩
  have answered : ∀ entry ∈ log, ∃ run, entry.2 = .ok run := by
    intro entry member
    cases answer : entry.2 with
    | ok run => exact ⟨run, rfl⟩
    | error failure => simpa using fast.stopped entry member failure answer
  refine ⟨complete, results, after, log, recorded, ?_, rfl⟩
  rcases fast.once valid (by decide) answered with ⟨-, each⟩ | ⟨failed, -⟩
  · exact each
  · simp at failed

end Campaign

end Assay
