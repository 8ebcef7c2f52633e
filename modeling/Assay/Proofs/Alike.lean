import Assay.Report.Table
import Assay.Proofs.Batch
import Assay.Proofs.Summary.Basic
import Assay.Proofs.Totals
import Assay.Proofs.Trial

/-!
Two campaigns of the same tools on the same cases. Their reports are the same as soon as their
processes agree in the little that is read of them: whether a process was ended, how long it took,
and the words of one stream without regard to the case of letters.
-/

namespace Assay

/-!
What reports read of a verdict: how it was judged and how long it took, but not the runs that it
keeps. Results that are the same but for the kept runs have the same totals and the same table.
-/

def Verdict.withoutRuns (verdict : Verdict) : Verdict := { verdict with runs := [] }

def CaseResult.withoutRuns (result : CaseResult) : CaseResult :=
  result.mapValues Verdict.withoutRuns

def Results.withoutRuns (results : Results) : Results :=
  { results with cases := results.cases.mapValues CaseResult.withoutRuns }

/-! Totals. -/

theorem Results.entries_withoutRuns (results : Results) :
    results.withoutRuns.entries =
      results.entries.map fun entry => (entry.1, entry.2.withoutRuns) := by
  simp only [entries, withoutRuns, OrderedMap.values, OrderedMap.mapValues, List.map_map,
    List.flatMap_map, List.map_flatMap]
  rfl

theorem Totals.ofResults_withoutRuns (results : Results) :
    Totals.ofResults results.withoutRuns = Totals.ofResults results := by
  have size : results.withoutRuns.cases.size = results.cases.size := List.length_map _
  rw [ofResults_eq, ofResults_eq, size, Results.entries_withoutRuns, List.foldlM_map]
  rfl

/-! The table. -/

theorem CaseResult.passed_withoutRuns (result : CaseResult) (kind : Kind) :
    CaseResult.passed (CaseResult.withoutRuns result) kind = CaseResult.passed result kind := by
  unfold passed withoutRuns
  rw [OrderedMap.get?_mapValues]
  cases result.get? kind <;> rfl

theorem Table.ofCase_withoutRuns (id : String) (result : CaseResult) :
    Row.ofCase id (CaseResult.withoutRuns result) = Row.ofCase id result := by
  have reason : ((CaseResult.withoutRuns result).get? .subject).map Verdict.reason =
      (result.get? .subject).map Verdict.reason := by
    rw [CaseResult.withoutRuns, OrderedMap.get?_mapValues, Option.map_map]
    rfl
  simp only [Row.ofCase, CaseResult.passed_withoutRuns, reason]

theorem Table.render_withoutRuns (results : Results) :
    Table.render results.withoutRuns = Table.render results := by
  have all : (results.withoutRuns.cases.entries.map fun entry => Row.ofCase entry.1 entry.2) =
      results.cases.entries.map fun entry => Row.ofCase entry.1 entry.2 := by
    simp only [Results.withoutRuns, OrderedMap.mapValues, List.map_map, Function.comp_def,
      ofCase_withoutRuns]
  unfold render rows
  rw [all]

/-! Entering verdicts. -/

namespace Campaign

def Finding.withoutRuns (finding : Finding) : Finding :=
  { finding with verdict := finding.verdict.withoutRuns }

theorem mapValues_enter (cases : OrderedMap String CaseResult) (finding : Finding) :
    (enter cases finding).mapValues CaseResult.withoutRuns =
      enter (cases.mapValues CaseResult.withoutRuns) finding.withoutRuns := by
  have inner : CaseResult.withoutRuns (((cases.get? finding.id).getD OrderedMap.empty).insert
        finding.kind finding.verdict) =
      (((cases.mapValues CaseResult.withoutRuns).get? finding.id).getD OrderedMap.empty).insert
        finding.kind finding.verdict.withoutRuns := by
    rw [CaseResult.withoutRuns, OrderedMap.mapValues_insert, OrderedMap.get?_mapValues]
    cases cases.get? finding.id <;> rfl
  rw [enter, OrderedMap.mapValues_insert, inner]
  rfl

theorem mapValues_foldl_enter (found : List Finding) (start : OrderedMap String CaseResult) :
    (found.foldl enter start).mapValues CaseResult.withoutRuns =
      (found.map Finding.withoutRuns).foldl enter (start.mapValues CaseResult.withoutRuns) := by
  induction found generalizing start with
  | nil => rfl
  | cons finding rest ih =>
      rw [List.foldl_cons, ih, List.map_cons, List.foldl_cons, mapValues_enter]

end Campaign

/-! Outputs that are alike. -/

/-- The same words, but for the case of letters and for the blanks around the words. -/
def Text.Alike (left right : String) : Prop :=
  ∃ inLeft inRight, Laid left.toList inLeft ∧ Laid right.toList inRight ∧
    inLeft.map (List.map Char.toLower) = inRight.map (List.map Char.toLower)

def Output.stream (output : Output) : Kind → String
  | .reference => output.stderr
  | .subject => output.stderr
  | .abstractInterpreter => output.stdout

structure Output.Alike (kind : Kind) (output other : Output) : Prop where
  timedOut : output.timedOut = other.timedOut
  elapsed : output.elapsed = other.elapsed
  stream : Text.Alike (output.stream kind) (other.stream kind)

theorem Text.alike_iff {left right : String} :
    Text.Alike left right ↔ Diagnostics.lowerWords left = Diagnostics.lowerWords right := by
  rw [Diagnostics.lowerWords_eq, Diagnostics.lowerWords_eq]
  constructor
  · rintro ⟨inLeft, inRight, laidLeft, laidRight, same⟩
    rw [laidLeft.words_eq, laidRight.words_eq, same]
  · intro same
    exact ⟨_, _, laid_words _, laid_words _, same⟩

theorem Diagnostics.ofCompilerText_alike {left right : String} (alike : Text.Alike left right) :
    ofCompilerText left = ofCompilerText right := by
  unfold ofCompilerText
  rw [Text.alike_iff.mp alike]

theorem Diagnostics.ofKernelText_alike {left right : String} (alike : Text.Alike left right) :
    ofKernelText left = ofKernelText right := by
  unfold ofKernelText
  rw [Text.alike_iff.mp alike]

theorem Output.Alike.summary_eq {kind : Kind} {output other : Output}
    (alike : Output.Alike kind output other) : output.summary kind = other.summary kind := by
  cases kind with
  | reference => exact Diagnostics.ofCompilerText_alike alike.stream
  | subject => exact Diagnostics.ofCompilerText_alike alike.stream
  | abstractInterpreter => exact Diagnostics.ofKernelText_alike alike.stream

theorem Output.Alike.reports_iff {kind : Kind} {output other : Output}
    (alike : Output.Alike kind output other) : output.Reports kind ↔ other.Reports kind := by
  rw [Reports, Reports, alike.timedOut, alike.summary_eq]

theorem Output.Alike.elapsed_eq {kind : Kind} {outputs others : List Output}
    (alike : List.Forall₂ (Output.Alike kind) outputs others) :
    outputs.map Output.elapsed = others.map Output.elapsed := by
  induction alike with
  | nil => rfl
  | cons same _ ih => rw [List.map_cons, List.map_cons, same.elapsed, ih]

theorem Verdict.Fits.withoutRuns_eq {kind : Kind} {variants : List Variant}
    {outputs others : List Output} {verdict other : Verdict}
    (fits : verdict.Fits kind variants outputs) (fitsOther : other.Fits kind variants others)
    (alike : List.Forall₂ (Output.Alike kind) outputs others) :
    verdict.withoutRuns = other.withoutRuns := by
  have transferred := fits.transfer (alike.imp fun _ _ same => same.reports_iff)
    (Output.Alike.elapsed_eq alike)
  obtain ⟨success, reason, time⟩ := transferred.same fitsOther
  rw [withoutRuns, withoutRuns, success, reason, time]

/-! Every trial that comes to a verdict has had outputs. -/

section

variable {σ : Type} [Surroundings σ] {launch : CommandLine → Action σ Output} {kind : Kind}
  {program : Path} {keepOutput : Bool}

theorem Delivers.exists_of_runs {variants : List Variant} {state after : σ} {runs : List VariantRun}
    (given : ((Analyzer.ofProgram launch kind program keepOutput).runAll variants).outcome state =
      (.ok runs, after)) :
    ∃ outputs, Delivers launch kind program variants state outputs after := by
  induction variants generalizing state runs with
  | nil =>
      obtain ⟨-, rfl⟩ := Action.outcome_pure_eq_ok given
      exact ⟨[], .done⟩
  | cons variant rest ih =>
      rw [Analyzer.runAll, List.mapM_cons] at given
      obtain ⟨run, middle, begun, given⟩ := Action.outcome_bind_eq_ok given
      obtain ⟨others, last, later, ended⟩ := Action.outcome_bind_eq_ok given
      obtain ⟨-, rfl⟩ := Action.outcome_pure_eq_ok ended
      obtain ⟨outputs, delivered⟩ := ih later
      obtain ⟨_, _, analyzed, labelled⟩ := Action.outcome_bind_eq_ok begun
      obtain ⟨-, rfl⟩ := Action.outcome_pure_eq_ok labelled
      obtain ⟨_, _, looked, started⟩ := Action.outcome_bind_eq_ok analyzed
      obtain ⟨checked, rfl⟩ := Prod.mk.inj looked
      obtain ⟨output, _, launched, read⟩ := Action.outcome_bind_eq_ok started
      obtain ⟨-, rfl⟩ := Action.outcome_pure_eq_ok read
      exact ⟨output :: outputs, .next checked launched delivered⟩

theorem Delivers.exists_of_trial {case : Case} {state after : σ} {verdict : Verdict}
    (given : ((Analyzer.ofProgram launch kind program keepOutput).trial case).outcome state =
      (.ok verdict, after)) :
    ∃ outputs, Delivers launch kind program case.variants state outputs after := by
  obtain ⟨runs, middle, reached, judged⟩ := Action.outcome_bind_eq_ok given
  obtain ⟨-, rfl⟩ := Prod.mk.inj judged
  exact Delivers.exists_of_runs reached

end

namespace Campaign

structure Tool where
  kind : Kind
  program : Path

/-- What two campaigns of the same tools on the same cases may differ in. -/
structure Setup (σ : Type) where
  launch : CommandLine → Action σ Output
  keepOutput : Bool
  order : List Nat
  start : σ

variable {σ τ : Type} [Surroundings σ] [Surroundings τ]

def Setup.analyzer (setup : Setup σ) (tool : Tool) : Analyzer σ :=
  .ofProgram setup.launch tool.kind tool.program setup.keepOutput

def Setup.run (setup : Setup σ) (tools : List Tool) (cases : List Case) :
    Except Failure Results × σ :=
  (runIn setup.order (tools.map setup.analyzer) cases).outcome setup.start

/-- The processes of these units, launched one unit after the other, leave these outputs behind. -/
inductive Yields (launch : CommandLine → Action σ Output) (outputs : Nat → List Output) :
    List (Nat × Case × Tool) → σ → σ → Prop
  | done {state} : Yields launch outputs [] state state
  | next {position case tool rest state middle after} :
      Delivers launch tool.kind tool.program case.variants state (outputs position) middle →
      Yields launch outputs rest middle after →
      Yields launch outputs ((position, case, tool) :: rest) state after

/-- A campaign has passed its checks, and its units leave these outputs behind. -/
structure Setup.Ran (setup : Setup σ) (tools : List Tool) (cases : List Case)
    (outputs : Nat → List Output) : Prop where
  complete : setup.order.Perm (List.range (cases ×ˢ tools).length)
  checked : checkAll (tools.map setup.analyzer) cases setup.start = .ok ()
  yields : ∃ after,
    Yields setup.launch outputs (picked (cases ×ˢ tools) setup.order) setup.start after

/-! From the outputs to the results. -/

def Timed (outputs : List Output) : Prop :=
  Duration.totalNanos (outputs.map Output.elapsed) < nanosLimit

instance (outputs : List Output) : Decidable (Timed outputs) := inferInstanceAs (Decidable (_ < _))

def Tool.verdict (tool : Tool) (keepOutput : Bool) (case : Case) (outputs : List Output) :
    Verdict :=
  Verdict.ofTimedRuns (tool.kind.variantRuns keepOutput case.variants outputs)
    ((Duration.ofNanos? (Duration.totalNanos (outputs.map Output.elapsed))).getD .zero)

theorem Timed.ofNanos?_eq {outputs : List Output} (timed : Timed outputs) :
    Duration.ofNanos? (Duration.totalNanos (outputs.map Output.elapsed)) = some ⟨_, timed⟩ :=
  dif_pos timed

theorem Tool.verdict_fits {tool : Tool} {keepOutput : Bool} {case : Case} {outputs : List Output}
    (lengths : case.variants.length = outputs.length) (timed : Timed outputs) :
    (tool.verdict keepOutput case outputs).Fits tool.kind case.variants outputs := by
  refine Verdict.ofTimedRuns_fits lengths ?_
  rw [timed.ofNanos?_eq]
  rfl

theorem Setup.trial_timed {setup : Setup σ} {tool : Tool} {case : Case} {state after : σ}
    {outputs : List Output}
    (delivered : Delivers setup.launch tool.kind tool.program case.variants state outputs after)
    (timed : Timed outputs) :
    ((setup.analyzer tool).trial case).outcome state =
      (.ok (tool.verdict setup.keepOutput case outputs), after) := by
  rw [Setup.analyzer, delivered.trial, Verdict.ofRuns_eq,
    Kind.variantRuns_elapsed delivered.length_eq, Tool.verdict, timed.ofNanos?_eq]
  rfl

theorem Setup.trial_untimed {setup : Setup σ} {tool : Tool} {case : Case} {state after : σ}
    {outputs : List Output}
    (delivered : Delivers setup.launch tool.kind tool.program case.variants state outputs after)
    (untimed : ¬ Timed outputs) :
    ((setup.analyzer tool).trial case).outcome state = (.error .timeOverflow, after) :=
  (delivered.trial_verdict setup.keepOutput).2 untimed

theorem Yields.length_eq {launch : CommandLine → Action σ Output} {outputs : Nat → List Output}
    {items : List (Nat × Case × Tool)} {state after : σ}
    (yields : Yields launch outputs items state after) :
    ∀ item ∈ items, item.2.1.variants.length = (outputs item.1).length := by
  induction yields with
  | done => simp
  | next delivered _ ih => exact List.forall_mem_cons.mpr ⟨delivered.length_eq, ih⟩

def Setup.attempt (setup : Setup σ) (items : List (Nat × Case × Tool)) :
    Action σ (List (Nat × Verdict)) :=
  items.mapM fun item => do return (item.1, ← (setup.analyzer item.2.2).trial item.2.1)

theorem Yields.attempt_timed {setup : Setup σ} {outputs : Nat → List Output}
    {items : List (Nat × Case × Tool)} {state after : σ}
    (yields : Yields setup.launch outputs items state after)
    (timed : ∀ item ∈ items, Timed (outputs item.1)) :
    (setup.attempt items).outcome state =
      (.ok (items.map fun item =>
        (item.1, item.2.2.verdict setup.keepOutput item.2.1 (outputs item.1))), after) := by
  unfold Setup.attempt
  induction yields with
  | done => rfl
  | next delivered _ ih =>
      rw [List.forall_mem_cons] at timed
      rw [List.mapM_cons, bind_assoc, Action.outcome_bind_ok (setup.trial_timed delivered timed.1),
        pure_bind, Action.outcome_bind_ok (ih timed.2)]
      rfl

theorem Yields.attempt_untimed {setup : Setup σ} {outputs : Nat → List Output}
    {items : List (Nat × Case × Tool)} {state after : σ}
    (yields : Yields setup.launch outputs items state after)
    (untimed : ∃ item ∈ items, ¬ Timed (outputs item.1)) :
    ((setup.attempt items).outcome state).1 = .error .timeOverflow := by
  unfold Setup.attempt
  induction yields with
  | done => simp at untimed
  | @next position case tool rest state middle after delivered _ ih =>
      rw [List.mapM_cons, bind_assoc]
      by_cases timed : Timed (outputs position)
      · rw [Action.outcome_bind_ok (setup.trial_timed delivered timed), pure_bind]
        have later := ih (by simpa [timed] using untimed)
        rcases ended : Action.outcome (rest.mapM fun item => do
          return (item.1, ← (setup.analyzer item.2.2).trial item.2.1)) middle with ⟨result, last⟩
        rw [ended] at later
        obtain rfl : result = .error .timeOverflow := later
        rw [Action.outcome_bind_error ended]
      · rw [Action.outcome_bind_error (setup.trial_untimed delivered timed)]

theorem Yields.congr {launch : CommandLine → Action σ Output} {outputs others : Nat → List Output}
    {items : List (Nat × Case × Tool)} {state after : σ}
    (yields : Yields launch outputs items state after)
    (same : ∀ item ∈ items, others item.1 = outputs item.1) :
    Yields launch others items state after := by
  induction yields with
  | done => exact .done
  | next delivered _ ih =>
      rw [List.forall_mem_cons] at same
      exact .next (same.1 ▸ delivered) (ih same.2)

theorem Yields.exists_of_attempt {setup : Setup σ} {items : List (Nat × Case × Tool)}
    {state after : σ} {verdicts : List (Nat × Verdict)} (apart : (items.map Prod.fst).Nodup)
    (given : (setup.attempt items).outcome state = (.ok verdicts, after)) :
    ∃ outputs, Yields setup.launch outputs items state after := by
  induction items generalizing state verdicts with
  | nil =>
      obtain ⟨-, rfl⟩ := Action.outcome_pure_eq_ok given
      exact ⟨fun _ => [], .done⟩
  | cons item rest ih =>
      obtain ⟨position, case, tool⟩ := item
      rw [List.map_cons, List.nodup_cons] at apart
      rw [Setup.attempt, List.mapM_cons] at given
      obtain ⟨numbered, middle, begun, given⟩ := Action.outcome_bind_eq_ok given
      obtain ⟨verdict, last, tried, entered⟩ := Action.outcome_bind_eq_ok begun
      obtain ⟨-, rfl⟩ := Action.outcome_pure_eq_ok entered
      obtain ⟨others, final, later, ended⟩ := Action.outcome_bind_eq_ok given
      obtain ⟨-, rfl⟩ := Action.outcome_pure_eq_ok ended
      obtain ⟨delivered, first⟩ := Delivers.exists_of_trial tried
      obtain ⟨outputs, yields⟩ := ih apart.2 later
      refine ⟨Function.update outputs position delivered, .next ?_ (yields.congr ?_)⟩
      · rwa [Function.update_self]
      · intro other member
        refine Function.update_of_ne (fun same => apart.1 ?_) _ _
        exact List.mem_map.mpr ⟨other, member, same⟩

def resultsFrom (tools : List Tool) (cases : List Case) (keepOutput : Bool)
    (outputs : Nat → List Output) : Results where
  tools := tools.map Tool.kind
  cases := ((cases ×ˢ tools).zipIdx.map fun placed =>
    ({ id := placed.1.1.id, kind := placed.1.2.kind,
       verdict := placed.1.2.verdict keepOutput placed.1.1 (outputs placed.2) } :
      Finding)).foldl enter .empty

theorem Setup.resultsOf_picked (setup : Setup σ) {tools : List Tool} {cases : List Case}
    (complete : setup.order.Perm (List.range (cases ×ˢ tools).length))
    (outputs : Nat → List Output) :
    resultsOf (tools.map setup.analyzer) cases ((picked (cases ×ˢ tools) setup.order).map
        fun item => (item.1, item.2.2.verdict setup.keepOutput item.2.1 (outputs item.1))) =
      resultsFrom tools cases setup.keepOutput outputs := by
  rw [resultsOf, units_map, findings_picked _ _ complete, List.map_map]
  rfl

section

variable {setup : Setup σ} {tools : List Tool} {cases : List Case} {outputs : Nat → List Output}

theorem Setup.Ran.inside (ran : setup.Ran tools cases outputs) {item : Nat × Case × Tool} :
    item ∈ picked (cases ×ˢ tools) setup.order ↔ (cases ×ˢ tools)[item.1]? = some item.2 := by
  rw [mem_picked, ran.complete.mem_iff, List.mem_range]
  refine and_iff_right_of_imp fun found => (List.getElem?_eq_some_iff.mp found).1

theorem Setup.Ran.length_eq (ran : setup.Ran tools cases outputs) :
    ∀ position case tool, (cases ×ˢ tools)[position]? = some (case, tool) →
      case.variants.length = (outputs position).length := by
  obtain ⟨after, yields⟩ := ran.yields
  intro position case tool found
  exact yields.length_eq (position, case, tool) (ran.inside.mpr found)

theorem Setup.runUnits_eq (setup : Setup σ) (tools : List Tool) (cases : List Case) :
    runUnits (units (tools.map setup.analyzer) cases) setup.order =
      setup.attempt (picked (cases ×ˢ tools) setup.order) := by
  rw [units_map, runUnits_map]
  rfl

theorem Setup.Ran.run_timed (ran : setup.Ran tools cases outputs)
    (timed : ∀ position < (cases ×ˢ tools).length, Timed (outputs position)) :
    (setup.run tools cases).1 = .ok (resultsFrom tools cases setup.keepOutput outputs) := by
  obtain ⟨after, yields⟩ := ran.yields
  have reached := yields.attempt_timed fun item member =>
    timed item.1 (List.getElem?_eq_some_iff.mp (ran.inside.mp member)).1
  rw [← setup.runUnits_eq] at reached
  rw [Setup.run, runIn_checked ran.checked reached, ← setup.resultsOf_picked ran.complete]
  rfl

theorem Setup.Ran.run_untimed (ran : setup.Ran tools cases outputs)
    (untimed : ∃ position < (cases ×ˢ tools).length, ¬ Timed (outputs position)) :
    (setup.run tools cases).1 = .error .timeOverflow := by
  obtain ⟨after, yields⟩ := ran.yields
  obtain ⟨position, inside, large⟩ := untimed
  have failed := yields.attempt_untimed ⟨(position, (cases ×ˢ tools)[position]),
    ran.inside.mpr (List.getElem?_eq_getElem inside), large⟩
  rw [← setup.runUnits_eq] at failed
  rw [Setup.run, runIn_checked ran.checked (Prod.ext failed rfl)]
  rfl

/-- A campaign of programs has results exactly when its processes leave outputs behind and the times
of every unit have a total. -/
theorem Setup.run_ok_iff (complete : setup.order.Perm (List.range (cases ×ˢ tools).length)) :
    (∃ results, (setup.run tools cases).1 = .ok results) ↔
      ∃ outputs, setup.Ran tools cases outputs ∧
        ∀ position < (cases ×ˢ tools).length, Timed (outputs position) := by
  constructor
  · rintro ⟨results, given⟩
    obtain ⟨checked, verdicts, reached, -⟩ := runIn_eq_ok (Prod.ext given rfl)
    rw [setup.runUnits_eq] at reached
    obtain ⟨outputs, yields⟩ := Yields.exists_of_attempt (picked_nodup complete) reached
    have ran : setup.Ran tools cases outputs := ⟨complete, checked, _, yields⟩
    refine ⟨outputs, ran, fun position inside => Classical.byContradiction fun untimed => ?_⟩
    simp [ran.run_untimed ⟨position, inside, untimed⟩] at given
  · rintro ⟨outputs, ran, timed⟩
    exact ⟨_, ran.run_timed timed⟩

end

theorem Timed.of_alike {kind : Kind} {outputs others : List Output} (timed : Timed outputs)
    (alike : List.Forall₂ (Output.Alike kind) outputs others) : Timed others := by
  rwa [Timed, ← Output.Alike.elapsed_eq alike]

theorem resultsFrom_alike {tools : List Tool} {cases : List Case} {keepOutput keepOther : Bool}
    {outputs others : Nat → List Output}
    (lengths : ∀ position case tool, (cases ×ˢ tools)[position]? = some (case, tool) →
      case.variants.length = (outputs position).length)
    (timed : ∀ position < (cases ×ˢ tools).length, Timed (outputs position))
    (alike : ∀ position case tool, (cases ×ˢ tools)[position]? = some (case, tool) →
      List.Forall₂ (Output.Alike tool.kind) (outputs position) (others position)) :
    (resultsFrom tools cases keepOutput outputs).withoutRuns =
      (resultsFrom tools cases keepOther others).withoutRuns := by
  have each : ∀ placed ∈ (cases ×ˢ tools).zipIdx,
      (placed.1.2.verdict keepOutput placed.1.1 (outputs placed.2)).withoutRuns =
        (placed.1.2.verdict keepOther placed.1.1 (others placed.2)).withoutRuns := by
    rintro ⟨⟨case, tool⟩, position⟩ member
    have found := List.mem_zipIdx_iff_getElem?.mp member
    have same := alike position case tool found
    have length := lengths position case tool found
    have fits := timed position (List.getElem?_eq_some_iff.mp found).1
    exact (Tool.verdict_fits length fits).withoutRuns_eq
      (Tool.verdict_fits (length.trans same.length_eq) (fits.of_alike same)) same
  refine congrArg (Results.mk _) ?_
  rw [resultsFrom, resultsFrom, mapValues_foldl_enter, mapValues_foldl_enter, List.map_map,
    List.map_map]
  refine congrArg (List.foldl enter _) (List.map_congr_left fun placed member => ?_)
  simp only [Function.comp_apply, Finding.withoutRuns, each placed member]

/-- Campaigns whose processes leave alike outputs behind are reported alike, or both have times
without a total. -/
theorem Setup.run_alike {left : Setup σ} {right : Setup τ} {tools : List Tool} {cases : List Case}
    {outputs others : Nat → List Output} (ranLeft : left.Ran tools cases outputs)
    (ranRight : right.Ran tools cases others)
    (alike : ∀ position case tool, (cases ×ˢ tools)[position]? = some (case, tool) →
      List.Forall₂ (Output.Alike tool.kind) (outputs position) (others position)) :
    ((∀ position < (cases ×ˢ tools).length, Timed (outputs position)) →
      ∃ results more, (left.run tools cases).1 = .ok results ∧
        (right.run tools cases).1 = .ok more ∧
        Totals.ofResults results = Totals.ofResults more ∧
        Table.render results = Table.render more) ∧
    ((∃ position < (cases ×ˢ tools).length, ¬ Timed (outputs position)) →
      (left.run tools cases).1 = .error .timeOverflow ∧
        (right.run tools cases).1 = .error .timeOverflow) := by
  have timed_iff : ∀ position < (cases ×ˢ tools).length,
      (Timed (outputs position) ↔ Timed (others position)) := fun position inside => by
    have same := alike position _ _ (List.getElem?_eq_getElem inside)
    rw [Timed, Timed, Output.Alike.elapsed_eq same]
  constructor
  · intro timed
    have timedOther : ∀ position < (cases ×ˢ tools).length, Timed (others position) :=
      fun position inside => (timed_iff position inside).mp (timed position inside)
    have same := @resultsFrom_alike _ _ left.keepOutput right.keepOutput _ _ ranLeft.length_eq
      timed alike
    -- The results may still differ in the runs that are kept, which reports do not show.
    refine ⟨_, _, ranLeft.run_timed timed, ranRight.run_timed timedOther, ?_, ?_⟩
    · rw [← Totals.ofResults_withoutRuns, same, Totals.ofResults_withoutRuns]
    · rw [← Table.render_withoutRuns, same, Table.render_withoutRuns]
  · rintro ⟨position, inside, untimed⟩
    exact ⟨ranLeft.run_untimed ⟨position, inside, untimed⟩, ranRight.run_untimed
      ⟨position, inside, fun timed => untimed ((timed_iff position inside).mpr timed)⟩⟩

def bothTools : List Tool := [⟨.reference, ⟨"clang"⟩⟩, ⟨.abstractInterpreter, ⟨"frama-c"⟩⟩]

def twoVariants : List Case := [
  { id := "a.c", variants := [
      { label := "correct", file := ⟨"/a.c"⟩, options := [], expectation := .clean },
      { label := "incorrect", file := ⟨"/a.c"⟩, options := ["-DBAD"], expectation := .flagged }] }]

def plainOutputs : Nat → List Output
  | 0 => [{}, { stderr := "1 warning generated" }]
  | _ => [{ stdout := "Frama-C kernel: 0 errors 0 warnings" },
      { timedOut := true, elapsed := .ofSeconds 3 }]

/-- Other letters, blanks and exit codes, and summaries in the streams that are not read. -/
def oddOutputs : Nat → List Output
  | 0 => [{ stdout := "1 error generated", exitCode := some 1 },
      { stderr := "\t1  WARNING\nGenerated ", exitCode := some 0 }]
  | _ => [{ stdout := "frama-c\tKERNEL: 0  errors 0 warnings\n", stderr := "2 errors generated" },
      { timedOut := true, elapsed := .ofSeconds 3, stderr := "killed" }]

def plainSetup : Setup Replay where
  launch := Replay.launch
  keepOutput := true
  order := [0, 1]
  start := { Replay.oneSource with outputs := plainOutputs 0 ++ plainOutputs 1 }

def oddSetup : Setup Replay where
  launch := Replay.launch
  keepOutput := false
  order := [1, 0]
  start := { Replay.oneSource with outputs := oddOutputs 1 ++ oddOutputs 0 }

theorem Setup.run_alike_odd :
    plainSetup.Ran bothTools twoVariants plainOutputs ∧
      oddSetup.Ran bothTools twoVariants oddOutputs ∧
      ∃ results more, (plainSetup.run bothTools twoVariants).1 = .ok results ∧
        (oddSetup.run bothTools twoVariants).1 = .ok more ∧
        Totals.ofResults results = Totals.ofResults more ∧
        Table.render results = Table.render more := by
  have ranPlain : plainSetup.Ran bothTools twoVariants plainOutputs :=
    ⟨by decide, rfl, .oneSource, .next
      (@Replay.delivers _ _ _ (plainOutputs 0) { Replay.oneSource with outputs := plainOutputs 1 } rfl rfl)
      (.next (@Replay.delivers _ _ _ (plainOutputs 1) .oneSource rfl rfl) .done)⟩
  have ranOdd : oddSetup.Ran bothTools twoVariants oddOutputs :=
    ⟨by decide, rfl, .oneSource, .next
      (@Replay.delivers _ _ _ (oddOutputs 1) { Replay.oneSource with outputs := oddOutputs 0 } rfl rfl)
      (.next (@Replay.delivers _ _ _ (oddOutputs 0) .oneSource rfl rfl) .done)⟩
  have alike : ∀ position case tool, (twoVariants ×ˢ bothTools)[position]? = some (case, tool) →
      List.Forall₂ (Output.Alike tool.kind) (plainOutputs position) (oddOutputs position) := by
    intro position case tool found
    match position with
    | 0 =>
        obtain ⟨rfl, rfl⟩ : case = twoVariants[0] ∧ tool = bothTools[0] := by
          simpa [twoVariants, bothTools, SProd.sprod, List.product, eq_comm] using found
        exact .cons ⟨rfl, rfl, Text.alike_iff.mpr (by decide)⟩
          (.cons ⟨rfl, rfl, Text.alike_iff.mpr (by decide)⟩ .nil)
    | 1 =>
        obtain ⟨rfl, rfl⟩ : case = twoVariants[0] ∧ tool = bothTools[1] := by
          simpa [twoVariants, bothTools, SProd.sprod, List.product, eq_comm] using found
        exact .cons ⟨rfl, rfl, Text.alike_iff.mpr (by decide)⟩
          (.cons ⟨rfl, rfl, Text.alike_iff.mpr (by decide)⟩ .nil)
    | position + 2 => simp [twoVariants, bothTools, SProd.sprod, List.product] at found
  refine ⟨ranPlain, ranOdd, (Setup.run_alike ranPlain ranOdd alike).1 fun position inside => ?_⟩
  match position with
  | 0 => decide
  | 1 => decide

end Campaign

end Assay
