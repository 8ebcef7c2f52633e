import Assay.Analyzer.Basic
import Assay.Campaign
import Assay.Surroundings
import Assay.Proofs.Action

/-!
The verdict of a trial, from the outputs of the processes that were launched for it. A report on a
clean variant decides first, then silence on a flagged one; exit codes decide nothing.
-/

namespace Assay

/-!
Surroundings in which the outputs of processes are laid down beforehand. Every launch takes the next
one, whatever its command line.
-/

structure Replay where
  tree : FileTree := .empty
  working : Site := .root
  outputs : List Output := []

namespace Replay

def oneSource : Replay where
  tree := { entries := [(["a.c"], .file 0 .empty false)] }

instance : Surroundings Replay where
  tree := Replay.tree
  working := Replay.working
  createFolder path replay :=
    let (tree, result) := replay.tree.createFolderAll replay.working path
    (result, { replay with tree })
  writeText path text replay :=
    match replay.tree.write replay.working path text.toUTF8 with
    | .ok tree => (.ok (), { replay with tree })
    | .error fault => (.error fault, replay)

def launch (line : CommandLine) : Action Replay Output :=
  ExceptT.mk fun replay =>
    match replay.outputs with
    | output :: rest => (.ok output, { replay with outputs := rest })
    | [] => (.error (.spawn line.program.text .notFound), replay)

end Replay

/-! Outputs and verdicts. -/

/-- What an output says in the stream where analyzers of a kind sum up: a compiler on its standard
error, the abstract interpreter on its standard output. -/
def Output.summary (output : Output) : Kind → Diagnostics
  | .reference => .ofCompilerText output.stderr
  | .subject => .ofCompilerText output.stderr
  | .abstractInterpreter => .ofKernelText output.stdout

def Output.Reports (kind : Kind) (output : Output) : Prop :=
  output.timedOut = false ∧
    ((output.summary kind).errors ≠ 0 ∨ (output.summary kind).warnings ≠ 0)

def Output.Silent (kind : Kind) (output : Output) : Prop :=
  output.timedOut = true ∨ (output.summary kind).found = false ∨
    ((output.summary kind).errors = 0 ∧ (output.summary kind).warnings = 0)

instance (kind : Kind) (output : Output) : Decidable (output.Reports kind) :=
  inferInstanceAs (Decidable (_ ∧ _))

instance (kind : Kind) (output : Output) : Decidable (output.Silent kind) :=
  inferInstanceAs (Decidable (_ ∨ _))

def Output.withoutCode (output : Output) : Output := { output with exitCode := none }

/-- The processes of the variants, launched in order, leave these outputs behind. -/
inductive Delivers {σ : Type} [Surroundings σ] (launch : CommandLine → Action σ Output)
    (kind : Kind) (program : Path) : List Variant → σ → List Output → σ → Prop
  | done {state} : Delivers launch kind program [] state [] state
  | next {variant rest state middle after output outputs} :
      Analyzer.checkProgram kind program state = .ok () →
      (launch (kind.commandLine program variant.options variant.file)).outcome state =
        (.ok output, middle) →
      Delivers launch kind program rest middle outputs after →
      Delivers launch kind program (variant :: rest) state (output :: outputs) after

structure Verdict.Fits (kind : Kind) (variants : List Variant) (outputs : List Output)
    (verdict : Verdict) : Prop where
  falsePositive : verdict.reason = .falsePositive ↔
    ∃ pair ∈ variants.zip outputs, pair.1.expectation = .clean ∧ pair.2.Reports kind
  falseNegative : verdict.reason = .falseNegative ↔
    (¬ ∃ pair ∈ variants.zip outputs, pair.1.expectation = .clean ∧ pair.2.Reports kind) ∧
      ∃ pair ∈ variants.zip outputs, pair.1.expectation = .flagged ∧ pair.2.Silent kind
  nothing : verdict.reason = .nothing ↔
    (¬ ∃ pair ∈ variants.zip outputs, pair.1.expectation = .clean ∧ pair.2.Reports kind) ∧
      ¬ ∃ pair ∈ variants.zip outputs, pair.1.expectation = .flagged ∧ pair.2.Silent kind
  success : verdict.success = true ↔ verdict.reason = .nothing
  labels : verdict.runs.map (fun run => (run.label, run.expectation)) =
    variants.map fun variant => (variant.label, variant.expectation)
  time : verdict.time.nanos = Duration.totalNanos (outputs.map Output.elapsed)

theorem Delivers.length_eq {σ : Type} [Surroundings σ] {launch : CommandLine → Action σ Output}
    {kind : Kind} {program : Path} {variants : List Variant} {state after : σ}
    {outputs : List Output}
    (delivered : Delivers launch kind program variants state outputs after) :
    variants.length = outputs.length := by
  induction delivered with
  | done => rfl
  | next _ _ _ ih => simp [ih]

theorem Replay.delivers {kind : Kind} {program : Path} {variants : List Variant}
    {outputs : List Output} {replay : Replay}
    (checked : Analyzer.checkProgram kind program replay = .ok ())
    (lengths : variants.length = outputs.length) :
    Delivers Replay.launch kind program variants
      { replay with outputs := outputs ++ replay.outputs } outputs replay := by
  induction variants generalizing outputs with
  | nil =>
      obtain rfl := List.length_eq_zero_iff.mp lengths.symm
      exact Delivers.done
  | cons variant rest ih =>
      cases outputs with
      | nil => simp at lengths
      | cons output later => exact Delivers.next checked rfl (ih (by simpa using lengths))

/-! What the summaries say. -/

theorem Diagnostics.compiler_unfound {text : String}
    (unfound : (Diagnostics.ofCompilerText text).found = false) :
    (Diagnostics.ofCompilerText text).errors = 0 ∧
      (Diagnostics.ofCompilerText text).warnings = 0 := by
  simp only [ofCompilerText, Bool.or_eq_false_iff, Option.isSome_eq_false_iff,
    Option.isNone_iff_eq_none] at unfound ⊢
  rw [unfound.1, unfound.2]
  exact ⟨rfl, rfl⟩

theorem Diagnostics.kernel_unfound {text : String}
    (unfound : (Diagnostics.ofKernelText text).found = false) :
    (Diagnostics.ofKernelText text).errors = 0 ∧
      (Diagnostics.ofKernelText text).warnings = 0 := by
  unfold ofKernelText at unfound ⊢
  split at unfound
  · simp at unfound
  · exact ⟨rfl, rfl⟩

theorem Output.summary_unfound {kind : Kind} {output : Output}
    (unfound : (output.summary kind).found = false) :
    (output.summary kind).errors = 0 ∧ (output.summary kind).warnings = 0 := by
  cases kind with
  | reference => exact Diagnostics.compiler_unfound unfound
  | subject => exact Diagnostics.compiler_unfound unfound
  | abstractInterpreter => exact Diagnostics.kernel_unfound unfound

theorem Output.silent_iff (kind : Kind) (output : Output) :
    output.Silent kind ↔ ¬ output.Reports kind := by
  constructor
  · rintro (late | unfound | ⟨noErrors, noWarnings⟩) ⟨inTime, counted⟩
    · simp [late] at inTime
    · exact counted.elim (fun some => some (summary_unfound unfound).1)
        fun some => some (summary_unfound unfound).2
    · exact counted.elim (fun some => some noErrors) fun some => some noWarnings
  · intro unreported
    by_cases late : output.timedOut = true
    · exact Or.inl late
    · have inTime : output.timedOut = false := by simpa using late
      refine Or.inr (Or.inr ⟨?_, ?_⟩)
      · exact Classical.byContradiction fun some => unreported ⟨inTime, Or.inl some⟩
      · exact Classical.byContradiction fun some => unreported ⟨inTime, Or.inr some⟩

/-! From an output to a run, and from runs to a verdict. -/

namespace Kind

def variantRun (kind : Kind) (keepOutput : Bool) (variant : Variant) (output : Output) :
    VariantRun :=
  { label := variant.label, expectation := variant.expectation,
    run := kind.readRun keepOutput output }

theorem diagnose_eq (kind : Kind) (output : Output) :
    kind.diagnose output = output.summary kind := by
  cases kind <;> rfl

theorem readRun_diagnostics (kind : Kind) (keepOutput : Bool) (output : Output) :
    (kind.readRun keepOutput output).diagnostics =
      if output.timedOut then {} else output.summary kind := by
  unfold readRun
  split <;> simp only [Run.ofOutput, diagnose_eq]

theorem readRun_elapsed (kind : Kind) (keepOutput : Bool) (output : Output) :
    (kind.readRun keepOutput output).output.elapsed = output.elapsed := by
  unfold readRun
  split <;> rfl

theorem readRun_reported (kind : Kind) (keepOutput : Bool) (output : Output) :
    (kind.readRun keepOutput output).reported = true ↔ output.Reports kind := by
  unfold Run.reported Diagnostics.reported Output.Reports
  rw [readRun_diagnostics]
  cases output.timedOut with
  | true => simp
  | false => simp [UInt32.pos_iff_ne_zero]

end Kind

namespace Verdict

theorem totalNanos_split (runs : List VariantRun) :
    Duration.totalNanos ((runsOn .clean runs ++ runsOn .flagged runs).map fun run =>
        run.output.elapsed) =
      Duration.totalNanos (runs.map fun variant => variant.run.output.elapsed) := by
  induction runs with
  | nil => rfl
  | cons variant rest ih =>
      simp only [List.map_append, Duration.totalNanos_append] at ih ⊢
      cases expected : variant.expectation <;>
        simp only [runsOn, expected, List.filter_cons, List.map_cons, Duration.totalNanos,
          decide_true, ↓reduceIte, reduceCtorEq, decide_false, Bool.false_eq_true] at ih ⊢ <;>
        omega

def ofTimedRuns (runs : List VariantRun) (time : Duration) : Verdict :=
  let reason := judge (runsOn .clean runs) (runsOn .flagged runs)
  { success := reason = .nothing, reason, time, runs }

theorem ofRuns_eq (runs : List VariantRun) :
    ofRuns runs =
      match Duration.ofNanos?
        (Duration.totalNanos (runs.map fun variant => variant.run.output.elapsed)) with
      | some time => .ok (ofTimedRuns runs time)
      | none => .error .timeOverflow := by
  unfold ofRuns Judgement.ofRuns totalTime
  rw [Duration.sum?_eq, totalNanos_split]
  cases Duration.ofNanos?
    (Duration.totalNanos (runs.map fun variant => variant.run.output.elapsed)) <;> rfl

end Verdict

theorem judge_cases (clean flagged : List Run) :
    (∃ run ∈ clean, run.reported = true) ∧ judge clean flagged = .falsePositive ∨
      (∀ run ∈ clean, run.reported = false) ∧
        ((∃ run ∈ flagged, run.reported = false) ∧ judge clean flagged = .falseNegative ∨
          (∀ run ∈ flagged, run.reported = true) ∧ judge clean flagged = .nothing) := by
  unfold judge
  by_cases loud : clean.any Run.reported = true
  · exact Or.inl ⟨by simpa using loud, by simp [loud]⟩
  · refine Or.inr ⟨by simpa using loud, ?_⟩
    by_cases silent : (flagged.any fun run => !run.reported) = true
    · exact Or.inl ⟨by simpa using silent, by simp [loud, silent]⟩
    · exact Or.inr ⟨by simpa using silent, by simp [loud, silent]⟩

/-! Trials. -/

def Analyzer.runAll {σ : Type} (analyzer : Analyzer σ) (variants : List Variant) :
    Action σ (List VariantRun) :=
  variants.mapM fun variant => do
    let run ← analyzer.analyze variant.options variant.file
    return { label := variant.label, expectation := variant.expectation, run }

theorem Analyzer.trial_eq {σ : Type} (analyzer : Analyzer σ) (case : Case) :
    analyzer.trial case =
      analyzer.runAll case.variants >>= fun runs => Action.ofExcept (Verdict.ofRuns runs) := rfl

variable {σ : Type} [Surroundings σ] {launch : CommandLine → Action σ Output} {kind : Kind}
  {program : Path}

def Kind.variantRuns (kind : Kind) (keepOutput : Bool) (variants : List Variant)
    (outputs : List Output) : List VariantRun :=
  (variants.zip outputs).map fun pair => kind.variantRun keepOutput pair.1 pair.2

theorem Kind.exists_mem_runsOn {keepOutput : Bool} {variants : List Variant}
    {outputs : List Output} {expectation : Expectation} (tells : Run → Prop) :
    (∃ run ∈ Verdict.runsOn expectation (kind.variantRuns keepOutput variants outputs),
        tells run) ↔
      ∃ pair ∈ variants.zip outputs, pair.1.expectation = expectation ∧
        tells (kind.readRun keepOutput pair.2) := by
  simp only [Verdict.runsOn, variantRuns, List.mem_map, List.mem_filter, decide_eq_true_eq]
  constructor
  · rintro ⟨_, ⟨_, ⟨⟨pair, member, rfl⟩, expected⟩, rfl⟩, told⟩
    exact ⟨pair, member, expected, told⟩
  · rintro ⟨pair, member, expected, told⟩
    exact ⟨_, ⟨_, ⟨⟨pair, member, rfl⟩, expected⟩, rfl⟩, told⟩

theorem Kind.variantRuns_labels {keepOutput : Bool} {variants : List Variant}
    {outputs : List Output} (lengths : variants.length = outputs.length) :
    (kind.variantRuns keepOutput variants outputs).map (fun run => (run.label, run.expectation)) =
      variants.map fun variant => (variant.label, variant.expectation) := by
  calc (kind.variantRuns keepOutput variants outputs).map (fun run => (run.label, run.expectation))
      = ((variants.zip outputs).map Prod.fst).map fun variant =>
          (variant.label, variant.expectation) := by simp [variantRuns, variantRun]
    _ = _ := by rw [List.map_fst_zip (by omega)]

theorem Kind.variantRuns_elapsed {keepOutput : Bool} {variants : List Variant}
    {outputs : List Output} (lengths : variants.length = outputs.length) :
    (kind.variantRuns keepOutput variants outputs).map (fun run => run.run.output.elapsed) =
      outputs.map Output.elapsed := by
  calc (kind.variantRuns keepOutput variants outputs).map (fun run => run.run.output.elapsed)
      = ((variants.zip outputs).map Prod.snd).map Output.elapsed := by
        simp [variantRuns, variantRun, readRun_elapsed]
    _ = _ := by rw [List.map_snd_zip (by omega)]

theorem Verdict.ofTimedRuns_fits {keepOutput : Bool} {variants : List Variant}
    {outputs : List Output} {time : Duration} (lengths : variants.length = outputs.length)
    (timed : time.nanos = Duration.totalNanos (outputs.map Output.elapsed)) :
    (ofTimedRuns (kind.variantRuns keepOutput variants outputs) time).Fits kind variants
      outputs := by
  have loud : (∃ pair ∈ variants.zip outputs, pair.1.expectation = .clean ∧
        pair.2.Reports kind) ↔
      ∃ run ∈ runsOn .clean (kind.variantRuns keepOutput variants outputs),
        run.reported = true := by
    rw [Kind.exists_mem_runsOn]
    simp only [Kind.readRun_reported]
  have silent : (∃ pair ∈ variants.zip outputs, pair.1.expectation = .flagged ∧
        pair.2.Silent kind) ↔
      ∃ run ∈ runsOn .flagged (kind.variantRuns keepOutput variants outputs),
        run.reported = false := by
    rw [Kind.exists_mem_runsOn]
    simp only [Output.silent_iff, ← Kind.readRun_reported kind keepOutput, Bool.not_eq_true]
  have judged := judge_cases (runsOn .clean (kind.variantRuns keepOutput variants outputs))
    (runsOn .flagged (kind.variantRuns keepOutput variants outputs))
  constructor
  case success => simp [ofTimedRuns]
  case labels => exact Kind.variantRuns_labels lengths
  case time => exact timed
  all_goals
    rw [loud]
    simp only [silent, ofTimedRuns]
    rcases judged with ⟨found, reason⟩ | ⟨none, ⟨found, reason⟩ | ⟨all, reason⟩⟩ <;>
      simp_all

theorem Verdict.Fits.same {variants : List Variant} {outputs : List Output}
    {left right : Verdict} (fitsLeft : left.Fits kind variants outputs)
    (fitsRight : right.Fits kind variants outputs) :
    left.success = right.success ∧ left.reason = right.reason ∧ left.time = right.time := by
  have reasons : left.reason = right.reason := by
    cases reason : left.reason with
    | nothing => exact (fitsRight.nothing.mpr (fitsLeft.nothing.mp reason)).symm
    | falsePositive => exact (fitsRight.falsePositive.mpr (fitsLeft.falsePositive.mp reason)).symm
    | falseNegative => exact (fitsRight.falseNegative.mpr (fitsLeft.falseNegative.mp reason)).symm
  refine ⟨?_, reasons, ?_⟩
  · rw [Bool.eq_iff_iff, fitsLeft.success, fitsRight.success, reasons]
  · have times := fitsLeft.time.trans fitsRight.time.symm
    cases sameLeft : left.time
    cases sameRight : right.time
    simp_all

theorem Output.elapsed_withoutCode (outputs : List Output) :
    (outputs.map Output.withoutCode).map Output.elapsed = outputs.map Output.elapsed := by
  rw [List.map_map]
  rfl

theorem exists_pair_congr {variants : List Variant} {outputs others : List Output}
    {expectation : Expectation} {tells : Output → Prop}
    (alike : List.Forall₂ (fun output other => tells output ↔ tells other) outputs others) :
    (∃ pair ∈ variants.zip outputs, pair.1.expectation = expectation ∧ tells pair.2) ↔
      ∃ pair ∈ variants.zip others, pair.1.expectation = expectation ∧ tells pair.2 := by
  induction alike generalizing variants with
  | nil => simp
  | cons same _ ih =>
      cases variants with
      | nil => simp
      | cons variant rest =>
          simp only [List.zip_cons_cons, List.exists_mem_cons_iff, same, ih]

theorem Verdict.Fits.transfer {variants : List Variant} {outputs others : List Output}
    {verdict : Verdict} (fits : verdict.Fits kind variants outputs)
    (alike : List.Forall₂ (fun output other => output.Reports kind ↔ other.Reports kind)
      outputs others)
    (elapsed : outputs.map Output.elapsed = others.map Output.elapsed) :
    verdict.Fits kind variants others := by
  have reports := @exists_pair_congr variants _ _ .clean _ alike
  have silent := @exists_pair_congr variants outputs others .flagged (Output.Silent kind)
    (alike.imp fun output other same => by rw [Output.silent_iff, Output.silent_iff, same])
  constructor
  · exact fits.falsePositive.trans reports
  · exact fits.falseNegative.trans (and_congr (not_congr reports) silent)
  · exact fits.nothing.trans (and_congr (not_congr reports) (not_congr silent))
  · exact fits.success
  · exact fits.labels
  · rw [← elapsed]
    exact fits.time

theorem Verdict.Fits.withoutCode {variants : List Variant} {outputs : List Output}
    {verdict : Verdict} (fits : verdict.Fits kind variants outputs) :
    verdict.Fits kind variants (outputs.map Output.withoutCode) := by
  refine fits.transfer ?_ (Output.elapsed_withoutCode outputs).symm
  refine List.forall₂_map_right_iff.mpr (List.forall₂_same.mpr fun output _ => ?_)
  cases kind <;> exact Iff.rfl

theorem Delivers.runs {variants : List Variant} {state after : σ} {outputs : List Output}
    (delivered : Delivers launch kind program variants state outputs after) (keepOutput : Bool) :
    ((Analyzer.ofProgram launch kind program keepOutput).runAll variants).outcome state =
      (.ok (kind.variantRuns keepOutput variants outputs), after) := by
  unfold Analyzer.runAll
  induction delivered with
  | done => rfl
  | @next variant rest state middle after output outputs checked launched _ ih =>
      have analyzed : Action.outcome (do
          let run ← (Analyzer.ofProgram launch kind program keepOutput).analyze variant.options
            variant.file
          return ({ label := variant.label, expectation := variant.expectation, run } :
            VariantRun)) state = (.ok (kind.variantRun keepOutput variant output), middle) := by
        rw [Analyzer.ofProgram, bind_assoc, Action.outcome_look_ok checked, bind_assoc,
          Action.outcome_bind_ok launched]
        rfl
      rw [List.mapM_cons, Action.outcome_bind_ok analyzed, Action.outcome_bind_ok ih]
      rfl

theorem Delivers.trial {case : Case} {state after : σ} {outputs : List Output}
    (delivered : Delivers launch kind program case.variants state outputs after)
    (keepOutput : Bool) :
    ((Analyzer.ofProgram launch kind program keepOutput).trial case).outcome state =
      (Verdict.ofRuns (kind.variantRuns keepOutput case.variants outputs), after) := by
  rw [Analyzer.trial_eq, Action.outcome_bind_ok (delivered.runs keepOutput),
    Action.outcome_ofExcept]

theorem Delivers.trial_fits {case : Case} {state after : σ} {outputs : List Output}
    (delivered : Delivers launch kind program case.variants state outputs after)
    (keepOutput : Bool)
    (bounded : Duration.totalNanos (outputs.map Output.elapsed) < nanosLimit) :
    ∃ verdict, ((Analyzer.ofProgram launch kind program keepOutput).trial case).outcome state =
        (.ok verdict, after) ∧ verdict.Fits kind case.variants outputs := by
  refine ⟨Verdict.ofTimedRuns (kind.variantRuns keepOutput case.variants outputs) ⟨_, bounded⟩,
    ?_, Verdict.ofTimedRuns_fits delivered.length_eq rfl⟩
  rw [delivered.trial keepOutput, Verdict.ofRuns_eq, Kind.variantRuns_elapsed delivered.length_eq]
  simp only [Duration.ofNanos?, bounded, ↓reduceDIte]

/-- A trial ends in the verdict that the outputs of its processes call for, as soon as their times
have a total. Neither exit codes nor keeping the output make a difference to it. -/
theorem Delivers.trial_verdict {case : Case} {state after : σ} {outputs : List Output}
    (delivered : Delivers launch kind program case.variants state outputs after)
    (keepOutput : Bool) :
    (Duration.totalNanos (outputs.map Output.elapsed) < nanosLimit →
      ∃ verdict, ((Analyzer.ofProgram launch kind program keepOutput).trial case).outcome state =
          (.ok verdict, after) ∧
        verdict.Fits kind case.variants outputs ∧
        ∀ otherLaunch otherProgram otherKeep otherState otherOutputs otherAfter,
          Delivers otherLaunch kind otherProgram case.variants otherState otherOutputs
            otherAfter →
          otherOutputs.map Output.withoutCode = outputs.map Output.withoutCode →
          ∃ other : Verdict,
            ((Analyzer.ofProgram otherLaunch kind otherProgram otherKeep).trial case).outcome
                (otherState : σ) = (.ok other, otherAfter) ∧
              other.success = verdict.success ∧ other.reason = verdict.reason ∧
              other.time = verdict.time) ∧
    (¬ Duration.totalNanos (outputs.map Output.elapsed) < nanosLimit →
      ((Analyzer.ofProgram launch kind program keepOutput).trial case).outcome state =
        (.error .timeOverflow, after)) := by
  constructor
  · intro bounded
    obtain ⟨verdict, reached, fits⟩ := delivered.trial_fits keepOutput bounded
    refine ⟨verdict, reached, fits, ?_⟩
    intro otherLaunch otherProgram otherKeep otherState otherOutputs otherAfter otherDelivered alike
    have elapsed : otherOutputs.map Output.elapsed = outputs.map Output.elapsed := by
      rw [← Output.elapsed_withoutCode, alike, Output.elapsed_withoutCode]
    obtain ⟨other, otherReached, otherFits⟩ :=
      otherDelivered.trial_fits otherKeep (by rw [elapsed]; exact bounded)
    have calledFor := otherFits.withoutCode
    rw [alike] at calledFor
    exact ⟨other, otherReached, calledFor.same fits.withoutCode⟩
  · intro unbounded
    rw [delivered.trial keepOutput, Verdict.ofRuns_eq,
      Kind.variantRuns_elapsed delivered.length_eq, Duration.ofNanos?_eq_none unbounded]

namespace Delivers

def mixedCase : Case where
  id := "s01/CWE121_loop_01.c"
  variants := [
    { label := "correct", file := ⟨"/s01/correct.c"⟩, options := [], expectation := .clean },
    { label := "incorrect", file := ⟨"/s01/wrong.c"⟩, options := ["-DBAD"],
      expectation := .flagged },
    { label := "catch_bad", file := ⟨"/s01/caught.c"⟩, options := [], expectation := .clean }]

/-- The first run is ended by its limit after a warning, the second one warns and fails, and the
third one warns in the stream that is not read. -/
def mixedOutputs : List Output := [
  { stdout := "Frama-C kernel: 0 errors 1 warning", timedOut := true },
  { stdout := "[eva] done\nFrama-C kernel: 0 errors 2 warnings", exitCode := some 1 },
  { stderr := "1 warning generated", exitCode := some 0 }]

theorem mixed_verdict :
    Delivers Replay.launch .abstractInterpreter ⟨"frama-c"⟩ mixedCase.variants
        ({ outputs := mixedOutputs } : Replay) mixedOutputs {} ∧
      ∃ verdict, ((Analyzer.ofProgram Replay.launch .abstractInterpreter ⟨"frama-c"⟩ false).trial
          mixedCase).outcome { outputs := mixedOutputs } = (.ok verdict, {}) ∧
        verdict.reason = .nothing := by
  have delivered : Delivers Replay.launch .abstractInterpreter ⟨"frama-c"⟩ mixedCase.variants
      ({ outputs := mixedOutputs } : Replay) mixedOutputs {} :=
    @Replay.delivers .abstractInterpreter ⟨"frama-c"⟩ mixedCase.variants mixedOutputs {} rfl rfl
  refine ⟨delivered, ?_⟩
  obtain ⟨verdict, reached, fits, _⟩ := (Delivers.trial_verdict delivered false).1 (by decide)
  exact ⟨verdict, reached, fits.nothing.mpr (by decide)⟩

end Delivers

end Assay
