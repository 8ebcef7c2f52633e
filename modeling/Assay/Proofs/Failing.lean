import Assay.Launcher
import Assay.SuiteRun
import Assay.Proofs.Action

/-!
Which failures a computation can end in, and which part of its surroundings it leaves alone. Nothing
that comes before a report is written ever complains of a report.
-/

namespace Assay

namespace Outcome

variable {ε α β : Type} {allowed : ε → Prop}

def FailsIn (allowed : ε → Prop) (result : Except ε α) : Prop :=
  ∀ failure, result = .error failure → allowed failure

theorem failsIn_ok (value : α) : FailsIn allowed (.ok value) := by
  intro failure failed
  cases failed

theorem failsIn_error {failure : ε} (fine : allowed failure) :
    FailsIn allowed (.error failure : Except ε α) := by
  intro other failed
  rwa [← Except.error.inj failed]

theorem failsIn_mapError {ι : Type} {why : ι → ε} (fine : ∀ cause, allowed (why cause))
    (result : Except ι α) : FailsIn allowed (result.mapError why) := by
  cases result with
  | error cause => exact failsIn_error (fine cause)
  | ok value => exact failsIn_ok value

theorem FailsIn.map {result : Except ε α} (start : FailsIn allowed result) (change : α → β) :
    FailsIn allowed (result.map change) := by
  cases result with
  | error failure => exact failsIn_error (start failure rfl)
  | ok value => exact failsIn_ok (change value)

theorem FailsIn.bind {first : Except ε α} {next : α → Except ε β} (start : FailsIn allowed first)
    (rest : ∀ value, FailsIn allowed (next value)) : FailsIn allowed (first >>= next) := by
  cases first with
  | error failure => exact failsIn_error (start failure rfl)
  | ok value => exact rest value

theorem FailsIn.mapM {items : List α} {result : α → Except ε β}
    (each : ∀ item ∈ items, FailsIn allowed (result item)) : FailsIn allowed (items.mapM result) := by
  induction items with
  | nil => exact failsIn_ok []
  | cons item rest ih =>
      rw [List.forall_mem_cons] at each
      rw [List.mapM_cons]
      exact each.1.bind fun value => (ih each.2).bind fun values => failsIn_ok _

theorem FailsIn.foldlM {items : List α} {result : β → α → Except ε β}
    (each : ∀ item ∈ items, ∀ start, FailsIn allowed (result start item)) (start : β) :
    FailsIn allowed (items.foldlM result start) := by
  induction items generalizing start with
  | nil => exact failsIn_ok start
  | cons item rest ih =>
      rw [List.forall_mem_cons] at each
      rw [List.foldlM_cons]
      exact (each.1 start).bind fun value => ih each.2 value

theorem FailsIn.forM {items : List α} {check : α → Except ε Unit}
    (each : ∀ item ∈ items, FailsIn allowed (check item)) : FailsIn allowed (items.forM check) := by
  induction items with
  | nil => exact failsIn_ok ()
  | cons item rest ih =>
      rw [List.forall_mem_cons] at each
      exact each.1.bind fun _ => ih each.2

end Outcome

open Outcome (failsIn_ok failsIn_error failsIn_mapError)

theorem Totals.ofResults_failsIn (results : Results) :
    Outcome.FailsIn (· = .timeOverflow) (Totals.ofResults results) := by
  have add (totals : ToolTotals) (verdict : Verdict) :
      Outcome.FailsIn (· = .timeOverflow) (totals.add verdict) := by
    unfold ToolTotals.add
    split
    · exact failsIn_error rfl
    · exact failsIn_ok _
  have addVerdict (map : OrderedMap Kind ToolTotals) (entry : Kind × Verdict) :
      Outcome.FailsIn (· = .timeOverflow) (Totals.addVerdict map entry) :=
    (add _ entry.2).bind fun counted => failsIn_ok _
  refine Outcome.FailsIn.bind ?_ fun tools => failsIn_ok _
  exact .foldlM (fun result _ start => .foldlM (fun entry _ map => addVerdict map entry) start) _

namespace Action

variable {σ α β κ : Type} {allowed : Failure → Prop} {kept : σ → κ}

/-- Whatever the surroundings, it fails in these ways only and leaves this part of them as it is. -/
structure Mild (allowed : Failure → Prop) (kept : σ → κ) (action : Action σ α) : Prop where
  fails : ∀ state, Outcome.FailsIn allowed (action.outcome state).1
  keeps : ∀ state, kept (action.outcome state).2 = kept state

theorem mild_pure (value : α) : Mild allowed kept (pure value : Action σ α) where
  fails _ := failsIn_ok value
  keeps _ := rfl

theorem mild_look {view : σ → Except Failure α}
    (fine : ∀ state, Outcome.FailsIn allowed (view state)) : Mild allowed kept (look view) where
  fails state := fine state
  keeps _ := rfl

theorem mild_ofExcept {result : Except Failure α} (fine : Outcome.FailsIn allowed result) :
    Mild allowed kept (ofExcept result : Action σ α) where
  fails _ := fine
  keeps _ := rfl

theorem mild_throw {failure : Failure} (fine : allowed failure) :
    Mild allowed kept (throw failure : Action σ α) where
  fails _ := failsIn_error fine
  keeps _ := rfl

theorem Mild.bind {action : Action σ α} {next : α → Action σ β} (first : Mild allowed kept action)
    (rest : ∀ value, Mild allowed kept (next value)) : Mild allowed kept (action >>= next) where
  fails state := by
    have start := first.fails state
    rcases reached : action.outcome state with ⟨failure | value, after⟩
    · rw [outcome_bind_error reached]
      exact failsIn_error (start failure (by rw [reached]))
    · rw [outcome_bind_ok reached]
      exact (rest value).fails after
  keeps state := by
    have start := first.keeps state
    rcases reached : action.outcome state with ⟨failure | value, after⟩
    · rw [outcome_bind_error reached]
      rwa [reached] at start
    · rw [outcome_bind_ok reached, (rest value).keeps after]
      rwa [reached] at start

theorem Mild.mapM {items : List α} {action : α → Action σ β}
    (each : ∀ item ∈ items, Mild allowed kept (action item)) :
    Mild allowed kept (items.mapM action) := by
  induction items with
  | nil => exact mild_pure []
  | cons item rest ih =>
      rw [List.forall_mem_cons] at each
      rw [List.mapM_cons]
      exact each.1.bind fun value => (ih each.2).bind fun values => mild_pure (value :: values)

abbrev Fails (allowed : Failure → Prop) (action : Action σ α) : Prop :=
  Mild allowed (fun _ => ()) action

theorem fails_get : Fails allowed (get : Action σ σ) where
  fails state := failsIn_ok state
  keeps _ := rfl

theorem fails_set (after : σ) : Fails allowed (set after : Action σ PUnit) where
  fails _ := failsIn_ok _
  keeps _ := rfl

theorem fails_onFiles {context : String} (fine : ∀ fault, allowed (.file context fault))
    (operation : σ → Except FileFault Unit × σ) : Fails allowed (onFiles context operation) where
  fails _ := failsIn_mapError fine _
  keeps _ := rfl

end Action

open Assay.Action (mild_pure mild_look mild_ofExcept mild_throw fails_get fails_set fails_onFiles)

def Failure.Unreported (failure : Failure) : Prop := ∀ name, failure ≠ .duplicateReport name

section

open Failure (Unreported)

namespace Launcher

theorem openCapture_fails (context : String) (file : Path) :
    (openCapture context file).Fails Unreported := by
  refine fails_get.bind fun host => ?_
  split
  · exact (fails_set _).bind fun _ => mild_pure _
  · exact mild_throw (by simp [Unreported])

theorem createScratch_fails (launcher : Launcher) : launcher.createScratch.Fails Unreported := by
  refine (fails_onFiles (by simp [Unreported]) _).bind fun _ => fails_get.bind fun host => ?_
  refine (fails_set _).bind fun _ => ?_
  exact (fails_onFiles (by simp [Unreported]) _).bind fun _ => mild_pure _

theorem spawn_fails (programs : Programs) (line : CommandLine) (captures : Captures)
    (stdout stderr : Channel) : (spawn programs line captures stdout stderr).Fails Unreported := by
  refine fails_get.bind fun host => ?_
  dsimp only
  split
  · exact mild_throw (by simp [Unreported])
  · exact (fails_set _).bind fun _ => mild_pure _

theorem readCapture_fails (file : Path) : (readCapture file).Fails Unreported := by
  refine mild_look fun host => ?_
  split
  · exact failsIn_ok _
  · exact failsIn_error (by simp [Unreported])

theorem runWithin_fails (programs : Programs) (launcher : Launcher) (line : CommandLine)
    (captures : Captures) : (launcher.runWithin programs line captures).Fails Unreported := by
  refine (openCapture_fails _ _).bind fun stdout => (openCapture_fails _ _).bind fun stderr => ?_
  refine fails_get.bind fun host => (spawn_fails _ _ _ _ _).bind fun number => ?_
  refine fails_get.bind fun spawned => (fails_set _).bind fun _ => ?_
  have watched (fault : WatchFault) : Unreported (watchFailure line.program fault) := by
    cases fault <;> simp [watchFailure, Unreported]
  refine (mild_ofExcept (failsIn_mapError watched _)).bind fun ending => ?_
  exact (readCapture_fails _).bind fun _ => (readCapture_fails _).bind fun _ => mild_pure _

theorem launchWith_fails (programs : Programs) (launcher : Launcher) (line : CommandLine) :
    (launcher.launchWith programs line).Fails Unreported :=
  (createScratch_fails launcher).bind fun captures =>
    { fails := fun host => (runWithin_fails programs launcher line captures).fails host
      keeps := fun _ => rfl }

end Launcher

theorem Corpus.resolveFolder_failsIn (tree : FileTree) (working : Site) (folder : Path) :
    Outcome.FailsIn Unreported (resolveFolder tree working folder) := by
  unfold resolveFolder
  split
  · exact failsIn_mapError (by simp [Unreported]) _
  · exact failsIn_error (by simp [Unreported])

theorem Case.checkInputs_failsIn (isFile : Path → Bool) (case : Case) :
    Outcome.FailsIn Unreported (case.checkInputs isFile) := by
  unfold Case.checkInputs
  split
  · exact failsIn_error (by simp [Unreported])
  · exact failsIn_ok ()

theorem Layout.discoverGroup_failsIn (layout : Layout) (tree : FileTree) (working : Site)
    (group : Path) : Outcome.FailsIn Unreported (layout.discoverGroup tree working group) := by
  have shared (folder : Path) : Outcome.FailsIn Unreported (Corpus.includeFolder working folder) :=
    failsIn_mapError (by simp [Unreported]) _
  cases layout with
  | tripleFile common =>
      refine (Corpus.resolveFolder_failsIn tree working group).bind fun folder =>
        (shared common).bind fun _ => .mapM fun name _ => ?_
      exact (Case.checkInputs_failsIn _ _).bind fun _ => failsIn_ok _
  | defineFlags support =>
      refine (Corpus.resolveFolder_failsIn tree working group).bind fun folder => ?_
      dsimp only
      split
      · exact failsIn_error (by simp [Unreported])
      · exact (shared support).bind fun _ => failsIn_ok _

theorem Suite.discover_failsIn {σ : Type} [Surroundings σ] (suite : Suite) (state : σ) :
    Outcome.FailsIn Unreported (suite.discover state) :=
  (Outcome.FailsIn.mapM fun group _ => suite.layout.discoverGroup_failsIn _ _ group).bind
    fun _ => failsIn_ok _

theorem Verdict.ofRuns_failsIn (runs : List VariantRun) :
    Outcome.FailsIn Unreported (Verdict.ofRuns runs) := by
  refine Outcome.FailsIn.bind (.bind ?_ fun _ => failsIn_ok _) fun _ => failsIn_ok _
  unfold totalTime
  split
  · exact failsIn_ok _
  · exact failsIn_error (by simp [Unreported])

variable {σ κ : Type} {kept : σ → κ}

/-- The analyzer never complains of a report and leaves this part of its surroundings as it is. -/
structure Analyzer.Mild (kept : σ → κ) (analyzer : Analyzer σ) : Prop where
  validate : ∀ state, Outcome.FailsIn Unreported (analyzer.validate state)
  analyze : ∀ options file, (analyzer.analyze options file).Mild Unreported kept

theorem Analyzer.Mild.trial {analyzer : Analyzer σ} (mild : analyzer.Mild kept) (case : Case) :
    (analyzer.trial case).Mild Unreported kept :=
  (Action.Mild.mapM fun variant _ =>
    (mild.analyze variant.options variant.file).bind fun _ => mild_pure _).bind
    fun runs => mild_ofExcept (Verdict.ofRuns_failsIn runs)

variable [Surroundings σ]

theorem Campaign.run_mild {analyzers : List (Analyzer σ)}
    (mild : ∀ analyzer ∈ analyzers, analyzer.Mild kept) (cases : List Case) :
    (Campaign.run analyzers cases).Mild Unreported kept := by
  have checked (state : σ) : Outcome.FailsIn Unreported (checkAll analyzers cases state) :=
    (Outcome.FailsIn.forM fun analyzer member => (mild analyzer member).validate state).bind
      fun _ => .forM fun case _ => Case.checkInputs_failsIn _ case
  refine (mild_look checked).bind fun _ => Action.Mild.bind ?_ fun verdicts => mild_pure _
  refine Action.Mild.mapM fun numbered listed => ?_
  -- The analyzer of a unit is one of those that are run.
  obtain ⟨position, -, picked⟩ := List.mem_filterMap.mp listed
  obtain ⟨unit, found, rfl⟩ := Option.map_eq_some_iff.mp picked
  obtain ⟨case, -, paired⟩ := List.mem_flatMap.mp (List.mem_of_getElem? found)
  obtain ⟨analyzer, enabled, rfl⟩ := List.mem_map.mp paired
  exact ((mild analyzer enabled).trial case).bind fun _ => mild_pure _

theorem Suite.analyze_mild {analyzers : List (Analyzer σ)}
    (mild : ∀ analyzer ∈ analyzers, analyzer.Mild kept) (suite : Suite) :
    (suite.analyze analyzers).Mild Unreported kept :=
  (mild_look suite.discover_failsIn).bind fun cases => Campaign.run_mild mild cases

namespace Analyzer

theorem checkProgram_failsIn (kind : Kind) (program : Path) (state : σ) :
    Outcome.FailsIn Unreported (checkProgram kind program state) := by
  unfold checkProgram
  split
  · exact failsIn_error (by simp [Unreported])
  · exact failsIn_ok ()

theorem ofProgram_mild {launch : CommandLine → Action σ Output}
    (mild : ∀ line, (launch line).Mild Unreported kept) (kind : Kind) (program : Path)
    (keepOutput : Bool) : (ofProgram launch kind program keepOutput).Mild kept where
  validate := checkProgram_failsIn kind program
  analyze _ _ :=
    (mild_look (checkProgram_failsIn kind program)).bind fun _ =>
      (mild _).bind fun _ => mild_pure _

theorem program_failsIn (tools : ToolSettings) (kind : Kind) (state : σ) :
    Outcome.FailsIn Unreported (program tools kind state) := by
  cases kind with
  | reference => exact failsIn_ok _
  | abstractInterpreter => exact failsIn_ok _
  | subject =>
      refine (checkProgram_failsIn _ _ state).bind fun _ => ?_
      split
      · exact failsIn_ok _
      · exact failsIn_error (by simp [Unreported])

theorem addKind_failsIn (kinds : List Kind) (name : String) :
    Outcome.FailsIn Unreported (ToolSettings.addKind kinds name) := by
  unfold ToolSettings.addKind
  split
  · exact failsIn_error (by simp [Unreported])
  · split
    · exact failsIn_error (by simp [Unreported])
    · exact failsIn_ok _

theorem createAll_failsIn (launch : CommandLine → Action σ Output) (tools : ToolSettings)
    (state : σ) : Outcome.FailsIn Unreported (createAll launch tools state) := by
  refine Outcome.FailsIn.bind ?_ fun kinds => .mapM fun kind _ =>
    (program_failsIn tools kind state).bind fun _ => failsIn_ok _
  unfold ToolSettings.kinds
  split
  · exact failsIn_error (by simp [Unreported])
  · exact .foldlM (fun name _ kinds => addKind_failsIn kinds name) []

theorem createAll_mild {launch : CommandLine → Action σ Output}
    (mild : ∀ line, (launch line).Mild Unreported kept) {tools : ToolSettings} {state : σ}
    {analyzers : List (Analyzer σ)} (created : createAll launch tools state = .ok analyzers) :
    ∀ analyzer ∈ analyzers, analyzer.Mild kept := by
  intro analyzer member
  obtain ⟨kinds, -, created⟩ := Outcome.bind_eq_ok_iff.mp created
  obtain ⟨kind, -, made⟩ := Outcome.mapM_reached created analyzer member
  obtain ⟨path, -, made⟩ := Outcome.bind_eq_ok_iff.mp made
  rw [← Except.ok.inj made]
  exact ofProgram_mild mild kind path tools.keepAbstractOutput

end Analyzer

end

end Assay
