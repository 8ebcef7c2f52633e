import Assay.Proofs.Discovery
import Assay.Proofs.Identity
import Assay.Proofs.Publishing
import Assay.Proofs.Selection
import Assay.Proofs.Trial

/-!
Running selected suites. They are run in order up to the first failure; every one before it is
reported and printed once, and no report is ever written twice.
-/

namespace Assay

open Failure (Unreported)
open Outcome (failsIn_ok failsIn_error)

variable {σ : Type} [Surroundings σ]

/-! What is printed is no matter of files. -/

namespace Session

omit [Surroundings σ] in
theorem within_mild {α : Type} {allowed : Failure → Prop} {action : Action σ α}
    (fails : action.Fails allowed) : (within action).Mild allowed printed where
  fails session := fails.fails session.world
  keeps _ := rfl

theorem createFolder_printed {folder : Path} {session after : Session σ}
    {result : Except FileFault Unit}
    (made : Surroundings.createFolder folder session = (result, after)) :
    after.printed = session.printed :=
  (congrArg (fun reached => reached.2.printed) made).symm

theorem writeText_printed {file : Path} {text : String} {session after : Session σ}
    {result : Except FileFault Unit}
    (written : Surroundings.writeText file text session = (result, after)) :
    after.printed = session.printed :=
  (congrArg (fun reached => reached.2.printed) written).symm

end Session

namespace Report

theorem Writes.printed {session after : Session σ} {contents : List (Path × String)}
    (writes : Writes session contents after) : after.printed = session.printed := by
  induction writes with
  | done => rfl
  | next written _ ih => exact ih.trans (Session.writeText_printed written)

namespace Desk.Publishing

variable {name : String} {results : Results}

theorem printed {desk after : Desk (Session σ)} {result : Except Failure Published}
    (course : Publishing name results desk result after) :
    after.world.printed = desk.world.printed := by
  cases course with
  | known _ => rfl
  | noFolder _ made => exact Session.createFolder_printed made
  | noTotals _ made _ => exact Session.createFolder_printed made
  | stopped _ made _ _ writes failed =>
      exact (Session.writeText_printed failed).trans
        (writes.printed.trans (Session.createFolder_printed made))
  | done _ made _ writes => exact writes.printed.trans (Session.createFolder_printed made)

theorem failsIn {desk after : Desk σ} {result : Except Failure Published}
    (course : Publishing name results desk result after) (new : name ∉ desk.writer.written) :
    Outcome.FailsIn Unreported result := by
  cases course with
  | known known => exact absurd known new
  | noFolder => exact failsIn_error (by simp [Unreported])
  | noTotals _ _ counted =>
      have large := Totals.ofResults_failsIn results _ counted
      exact failsIn_error (by simp [Unreported, large])
  | stopped => exact failsIn_error (by simp [Unreported])
  | done => exact failsIn_ok _

end Desk.Publishing

end Report

open Report (Desk Step)

/-! One suite. -/

namespace Suite

variable {analyzers : List (Analyzer (Session σ))}

theorem outcome_publish {σ : Type} [Surroundings σ] {analyzers : List (Analyzer σ)} {suite : Suite}
    {desk : Desk σ} {cases : List Case} (found : suite.discover desk.world = .ok cases) :
    (suite.publish analyzers).outcome desk =
      (do let results ← Desk.outside (Campaign.run analyzers cases)
          let { totals, files } ← Desk.publish suite.name results
          return { name := suite.name, results, totals, files } :
        Action (Desk σ) SuiteOutcome).outcome desk := by
  have analyzed : (suite.analyze analyzers).outcome desk.world =
      (Campaign.run analyzers cases).outcome desk.world := Action.outcome_look_ok found _
  unfold publish
  rw [Action.outcome_bind, Action.outcome_bind, Desk.outcome_outside, Desk.outcome_outside, analyzed]

theorem outcome_publish_undiscovered {σ : Type} [Surroundings σ] (analyzers : List (Analyzer σ))
    {suite : Suite} {desk : Desk σ} {failure : Failure}
    (missed : suite.discover desk.world = .error failure) :
    (suite.publish analyzers).outcome desk = (.error failure, desk) :=
  Action.outcome_bind_error
    (Desk.outcome_outside_eq (Action.outcome_look_error missed (Campaign.run analyzers))) _

/-- Analyzers that leave the printed text alone leave it to whoever has a suite reported, and a suite
whose name is new is not refused for it. -/
theorem publish_mild (mild : ∀ analyzer ∈ analyzers, analyzer.Mild Session.printed)
    (suite : Suite) (desk : Desk (Session σ)) :
    ((suite.publish analyzers).outcome desk).2.world.printed = desk.world.printed ∧
      (suite.name ∉ desk.writer.written →
        Outcome.FailsIn Unreported ((suite.publish analyzers).outcome desk).1) := by
  let request := Report.Request.run analyzers suite
  have performed : (suite.publish analyzers).outcome desk = request.perform.outcome desk := rfl
  have analyzed : request.results.Mild Unreported Session.printed := suite.analyze_mild mild
  rcases reached : request.results.outcome desk.world with ⟨failure | results, world⟩
  · have fails := analyzed.fails desk.world
    have keeps := analyzed.keeps desk.world
    rw [reached] at fails keeps
    rw [performed, Report.Request.outcome_perform_error reached]
    exact ⟨keeps, fun _ => failsIn_error (fails failure rfl)⟩
  · have keeps := analyzed.keeps desk.world
    rw [reached] at keeps
    rw [performed, Report.Request.outcome_perform_ok reached]
    have course := Desk.publish_cases suite.name results { desk with world }
    exact ⟨course.printed.trans keeps, fun new => (course.failsIn new).map _⟩

theorem publish_entered {suite : Suite} {desk after : Desk (Session σ)} {outcome : SuiteOutcome}
    (published : (suite.publish analyzers).outcome desk = (.ok outcome, after)) :
    outcome.name = suite.name ∧ Totals.ofResults outcome.results = .ok outcome.totals ∧
      after.writer = desk.writer.enter suite.name := by
  have sound := Step.of_sound (.run analyzers suite) desk
  obtain ⟨world, stood, -, named, counted, -, -, -, -, entered⟩ :=
    sound.published outcome (congrArg Prod.fst published)
  have ended := (congrArg (fun reached => reached.2.writer) published).symm.trans entered
  rw [named] at ended
  exact ⟨named, counted, ended⟩

theorem publish_unentered {suite : Suite} {desk after : Desk (Session σ)} {failure : Failure}
    (failed : (suite.publish analyzers).outcome desk = (.error failure, after)) :
    after.writer = desk.writer := by
  have sound := Step.of_sound (.run analyzers suite) desk
  have same := sound.failed failure (congrArg Prod.fst failed)
  exact (congrArg (fun reached => reached.2.writer) failed).symm.trans same

end Suite

/-! Suites one after the other. -/

def Report.Desk.printing (desk : Desk (Session σ)) (text : String) : Desk (Session σ) :=
  { desk with world := { desk.world with printed := desk.world.printed ++ text } }

namespace Session

/-- These suites were reported one after the other, and the totals of each printed. -/
inductive Course (analyzers : List (Analyzer (Session σ))) :
    Desk (Session σ) → List Suite → List SuiteOutcome → Desk (Session σ) → Prop
  | done {desk} : Course analyzers desk [] [] desk
  | next {desk middle after suite outcome rest outcomes} :
      (suite.publish analyzers).outcome desk = (.ok outcome, middle) →
      Course analyzers (middle.printing outcome.shown) rest outcomes after →
      Course analyzers desk (suite :: rest) (outcome :: outcomes) after

/-- The names that were entered are those of these suites, and for each of them one line was printed with its
name and the number of its cases, and one line for each analyzer with what it passed and why it failed. -/
structure Reported (desk : Desk (Session σ)) (suites : List Suite) (outcomes : List SuiteOutcome)
    (after : Desk (Session σ)) : Prop where
  named : outcomes.map SuiteOutcome.name = suites.map Suite.name
  counted : ∀ outcome ∈ outcomes, Totals.ofResults outcome.results = .ok outcome.totals
  written : after.writer.written = (suites.map Suite.name).reverse ++ desk.writer.written
  printed : after.world.printed = desk.world.printed ++ String.join (outcomes.map fun outcome =>
    outcome.name ++ " (" ++ toString outcome.totals.cases ++ " cases)\n" ++
      String.join (outcome.totals.tools.entries.map fun (kind, tool) =>
        kind.name ++ ": " ++ toString tool.passed ++ "/" ++ toString tool.total ++ " passed (" ++
          Decimal.withPlaces 1 (tool.passRate.mul (Binary64.ofNat 100)) ++ "%) in " ++
          Decimal.withPlaces 2 tool.runtime.toBinary ++ "s" ++
          String.join (tool.failures.entries.map fun (reason, count) =>
            ", " ++ toString count ++ " " ++ reason.shown) ++ "\n"))

/-- What can come of running suites: all of them are reported, or those before the first that
fails, and then none after it is begun. -/
inductive Ended (analyzers : List (Analyzer (Session σ))) (desk : Desk (Session σ))
    (suites : List Suite) : Except Failure Unit → Desk (Session σ) → Prop
  | all {outcomes after} : Course analyzers desk suites outcomes after →
      Reported desk suites outcomes after → Ended analyzers desk suites (.ok ()) after
  | stopped {before suite rest outcomes middle failure after} :
      suites = before ++ suite :: rest → Course analyzers desk before outcomes middle →
      (suite.publish analyzers).outcome middle = (.error failure, after) →
      failure.Unreported → Reported desk before outcomes after →
      Ended analyzers desk suites (.error failure) after

variable {analyzers : List (Analyzer (Session σ))}

omit [Surroundings σ] in
theorem reported_nil {desk after : Desk (Session σ)} (writer : after.writer = desk.writer)
    (printed : after.world.printed = desk.world.printed) : Reported desk [] [] after where
  named := rfl
  counted := by simp
  written := by
    rw [writer]
    rfl
  printed := by
    rw [printed]
    exact String.append_empty.symm

theorem Reported.cons {desk middle after : Desk (Session σ)} {suite : Suite}
    {outcome : SuiteOutcome} {rest : List Suite} {outcomes : List SuiteOutcome}
    (mild : ∀ analyzer ∈ analyzers, analyzer.Mild Session.printed)
    (published : (suite.publish analyzers).outcome desk = (.ok outcome, middle))
    (others : Reported (middle.printing outcome.shown) rest outcomes after) :
    Reported desk (suite :: rest) (outcome :: outcomes) after := by
  obtain ⟨named, counted, entered⟩ := Suite.publish_entered published
  have kept := (suite.publish_mild mild desk).1
  rw [published] at kept
  refine ⟨?_, List.forall_mem_cons.mpr ⟨counted, others.counted⟩, ?_, ?_⟩
  · rw [List.map_cons, List.map_cons, others.named, named]
  · rw [others.written, Report.Desk.printing, entered, List.map_cons, List.reverse_cons,
      List.append_assoc]
    rfl
  · rw [others.printed, List.map_cons, String.join_cons, ← String.append_assoc, ← kept]
    rfl

theorem Ended.cons {desk middle after : Desk (Session σ)} {suite : Suite}
    {outcome : SuiteOutcome} {rest : List Suite} {result : Except Failure Unit}
    (mild : ∀ analyzer ∈ analyzers, analyzer.Mild Session.printed)
    (published : (suite.publish analyzers).outcome desk = (.ok outcome, middle))
    (others : Ended analyzers (middle.printing outcome.shown) rest result after) :
    Ended analyzers desk (suite :: rest) result after := by
  cases others with
  | all course reported => exact .all (.next published course) (reported.cons mild published)
  | stopped split course failed unreported reported =>
      rw [split]
      exact .stopped rfl (.next published course) failed unreported (reported.cons mild published)

theorem outcome_publishAll_cons (analyzers : List (Analyzer (Session σ))) (suite : Suite)
    (rest : List Suite) (desk : Desk (Session σ)) :
    (publishAll analyzers (suite :: rest)).outcome desk =
      match (suite.publish analyzers).outcome desk with
      | (.ok outcome, middle) =>
        (publishAll analyzers rest).outcome (middle.printing outcome.shown)
      | (.error failure, after) => (.error failure, after) := by
  have split : publishAll analyzers (suite :: rest) =
      (suite.publish analyzers >>= fun outcome => Desk.outside (print outcome.shown)) >>=
        fun _ => publishAll analyzers rest := rfl
  rw [split, Action.outcome_bind, Action.outcome_bind]
  rcases (suite.publish analyzers).outcome desk with ⟨failure | outcome, middle⟩ <;> rfl

theorem publishAll_ended (mild : ∀ analyzer ∈ analyzers, analyzer.Mild Session.printed)
    {suites : List Suite} (distinct : (suites.map Suite.name).Nodup) {desk : Desk (Session σ)}
    (new : ∀ suite ∈ suites, suite.name ∉ desk.writer.written) :
    Ended analyzers desk suites ((publishAll analyzers suites).outcome desk).1
      ((publishAll analyzers suites).outcome desk).2 := by
  induction suites generalizing desk with
  | nil => exact .all .done (reported_nil rfl rfl)
  | cons suite rest ih =>
      rw [List.map_cons, List.nodup_cons] at distinct
      rw [List.forall_mem_cons] at new
      obtain ⟨kept, unrefused⟩ := suite.publish_mild mild desk
      rw [outcome_publishAll_cons]
      rcases published : (suite.publish analyzers).outcome desk with ⟨failure | outcome, middle⟩
      · rw [published] at kept unrefused
        exact .stopped rfl .done published (unrefused new.1 failure rfl)
          (reported_nil (Suite.publish_unentered published) kept)
      · -- The name that has just been entered is none of those to come.
        refine Ended.cons mild published (ih distinct.2 fun other member => ?_)
        have entered := (Suite.publish_entered published).2.2
        rw [Report.Desk.printing, entered, Report.Writer.enter, List.mem_cons, not_or]
        exact ⟨fun same => distinct.1 (same ▸ List.mem_map_of_mem member), new.2 other member⟩

/-! Runs. -/

section

variable (launch : Launcher → CommandLine → Action σ Output) (settings : Settings)

/-- What can come of a run. Nothing is done without the suites, nor without the analyzers. -/
inductive Ran (names : List String) (session : Session σ) :
    Except Failure Unit → Session σ → Prop
  | unselected {failure} : settings.selectAll names = .error failure →
      Ran names session (.error failure) session
  | unequipped {suites failure} : settings.selectAll names = .ok suites →
      Analyzer.createAll (fun line => within (launch settings.launcher line)) settings.tools
        session = .error failure →
      Ran names session (.error failure) session
  | ended {suites analyzers result after} : settings.selectAll names = .ok suites →
      Analyzer.createAll (fun line => within (launch settings.launcher line)) settings.tools
        session = .ok analyzers →
      (publishAll analyzers suites).outcome
        { world := session, writer := { folder := settings.outputFolder } } = (result, after) →
      Ended analyzers { world := session, writer := { folder := settings.outputFolder } } suites
        result after →
      Ran names session result after.world

end

variable {launch : Launcher → CommandLine → Action σ Output} {settings : Settings}

theorem runSuites_ran (valid : settings.check = .ok ())
    (ordinary : ∀ line, (launch settings.launcher line).Fails Unreported) (names : List String)
    (session : Session σ) :
    Ran launch settings names session ((runSuites launch settings names).outcome session).1
      ((runSuites launch settings names).outcome session).2 := by
  unfold runSuites
  cases selected : settings.selectAll names with
  | error failure =>
      rw [Action.outcome_bind_error (Action.outcome_ofExcept _ _)]
      exact .unselected selected
  | ok suites =>
      rw [Action.outcome_bind_ok (Action.outcome_ofExcept _ _)]
      cases created : Analyzer.createAll (fun line => within (launch settings.launcher line))
          settings.tools session with
      | error failure =>
          rw [Action.outcome_look_error created]
          exact .unequipped selected created
      | ok analyzers =>
          have mild := Analyzer.createAll_mild (fun line => within_mild (ordinary line)) created
          have distinct := (selected ▸ settings.selectAll_selection names).distinct valid
          have ended := @publishAll_ended σ _ analyzers mild suites distinct
            { world := session, writer := { folder := settings.outputFolder } }
            fun _ _ => List.not_mem_nil
          rw [Action.outcome_look_ok created, Action.outcome_bind, Desk.outcome_lend]
          rcases published : (publishAll analyzers suites).outcome
            { world := session, writer := { folder := settings.outputFolder } } with
              ⟨failure | _, after⟩
          · rw [published] at ended
            exact .ended selected created published ended
          · rw [published] at ended
            exact .ended selected created published ended

theorem Ran.failsIn {names : List String} {session after : Session σ}
    {result : Except Failure Unit} (ran : Ran launch settings names session result after) :
    Outcome.FailsIn Unreported result := by
  cases ran with
  | unselected selected =>
      have selection := selected ▸ settings.selectAll_selection names
      cases selection with
      | unknown => exact failsIn_error (by simp [Unreported])
  | unequipped _ created => exact failsIn_error (Analyzer.createAll_failsIn _ _ _ _ created)
  | ended _ _ _ ended =>
      cases ended with
      | all => exact failsIn_ok ()
      | stopped _ _ _ unreported _ => exact failsIn_error unreported

/-- Selected suites are run in order, each once, up to the first failure, which is never that a
report is there already. -/
theorem runSuites_once (valid : settings.check = .ok ())
    (ordinary : ∀ line, (launch settings.launcher line).Fails Unreported) (names : List String)
    (session : Session σ) :
    settings.Selection names (settings.selectAll names) ∧
    ((∃ failure, settings.selectAll names = .error failure) ↔
      ∃ name ∈ names, ¬ settings.Configured name) ∧
    (∀ suites, settings.selectAll names = .ok suites → (suites.map Suite.name).Nodup) ∧
    Ran launch settings names session ((runSuites launch settings names).outcome session).1
      ((runSuites launch settings names).outcome session).2 ∧
    ∀ name, ((runSuites launch settings names).outcome session).1 ≠
      .error (.duplicateReport name) := by
  have selection := settings.selectAll_selection names
  have ran := runSuites_ran valid ordinary names session
  exact ⟨selection, selection.failed_iff, fun suites selected => (selected ▸ selection).distinct valid,
    ran, fun name refused => ran.failsIn _ refused name rfl⟩

def threeSuites : Settings where
  tools := { enabled := ["clang"] }
  outputFolder := ⟨"out"⟩
  suites := [("a", "/s02"), ("b", "/s01"), ("c", "/s01")].map fun (name, group) =>
    { name, layout := .defineFlags ⟨"support"⟩, groups := [⟨group⟩] }

def oneFolder : Replay where
  tree := { entries := [
    (["s01"], .folder), (["s01", "CWE126_a_01.c"], .file 0 .empty false),
    (["s01", "Makefile"], .file 1 .empty false)] }
  outputs := [{}, { stderr := "1 warning generated.", elapsed := .ofSeconds 2 }, {}, {}]

def replaying (_ : Launcher) : CommandLine → Action Replay Output := Replay.launch

def compiler : Analyzer (Session Replay) :=
  .ofProgram (fun line => within (Replay.launch line)) .reference ⟨"clang"⟩ true

def opening : Desk (Session Replay) where
  world := { world := oneFolder }
  writer := { folder := ⟨"out"⟩ }

theorem replaying_fails (launcher : Launcher) (line : CommandLine) :
    (replaying launcher line).Fails Unreported where
  fails replay := by
    obtain ⟨tree, working, _ | ⟨output, rest⟩⟩ := replay
    · exact failsIn_error (by simp [Unreported])
    · exact failsIn_ok output
  keeps _ := rfl

theorem discover_oneFolder : threeSuites.suites[1].discover opening.world =
    .ok [Corpus.Defines.caseOf Suite.s01 ["-I", "/support", "-DINCLUDEMAIN"] "CWE126_a_01.c"] := by
  have listed : Corpus.fileNames oneFolder.tree Suite.s01 = ["CWE126_a_01.c", "Makefile"] :=
    Corpus.fileNames_of_perm (.refl _) (by decide)
  have resolved : Corpus.resolveFolder oneFolder.tree oneFolder.working ⟨"/s01"⟩ = .ok Suite.s01 := rfl
  have given : Corpus.includeFolder [] ⟨"support"⟩ = .ok ⟨"/support"⟩ := rfl
  exact Layout.discover_singleton (Corpus.Defines.discover_eq resolved rfl given listed)

def opened : Except Failure SuiteOutcome × Desk (Session Replay) :=
  (do let results ← Desk.outside (Campaign.run [compiler]
        [Corpus.Defines.caseOf Suite.s01 ["-I", "/support", "-DINCLUDEMAIN"] "CWE126_a_01.c"])
      let { totals, files } ← Desk.publish "b" results
      return { name := "b", results, totals, files } :
    Action (Desk (Session Replay)) SuiteOutcome).outcome opening

def Halfway (desk : Desk (Session Replay)) : Prop :=
  (["a", "b", "c"].map fun name =>
    desk.world.world.tree.isFile [] ⟨"out/" ++ name ++ "_results.json"⟩) = [false, true, false] ∧
  desk.world.world.outputs.length = 2

instance (desk : Desk (Session Replay)) : Decidable (Halfway desk) :=
  inferInstanceAs (Decidable (_ ∧ _))

theorem publish_opening :
    ∃ outcome middle,
      (threeSuites.suites[1].publish [compiler]).outcome opening = (.ok outcome, middle) ∧
      outcome.shown = "b (1 cases)\nreference: 1/1 passed (100.0%) in 2.00s\n" ∧
      middle.world.printed = "" ∧ Halfway middle ∧
      threeSuites.suites[0].discover middle.world = .error (.missingInput "/s02" ⟨"/s02"⟩) := by
  have facts : opened.1.toOption.map SuiteOutcome.shown =
        some "b (1 cases)\nreference: 1/1 passed (100.0%) in 2.00s\n" ∧
      opened.2.world.printed = "" ∧ Halfway opened.2 ∧
      threeSuites.suites[0].discover opened.2.world =
        .error (.missingInput "/s02" ⟨"/s02"⟩) := by decide +kernel
  have published : (threeSuites.suites[1].publish [compiler]).outcome opening = opened :=
    Suite.outcome_publish discover_oneFolder
  rcases ended : opened with ⟨failure | outcome, middle⟩
  · rw [ended] at facts
    simp [Except.toOption] at facts
  · rw [ended] at facts published
    obtain ⟨shown, rest⟩ := facts
    exact ⟨outcome, middle, published, Option.some_inj.mp shown, rest⟩

/-- A suite is asked for twice and reported once, the next one fails, and the last is not begun. -/
theorem runSuites_once_halfway :
    threeSuites.check = .ok () ∧ (∀ line, (replaying threeSuites.launcher line).Fails Unreported) ∧
    (threeSuites.selectAll ["b", "a", "b", "c"]).map (List.map Suite.name) = .ok ["b", "a", "c"] ∧
    ∃ outcome after,
      (runSuites replaying threeSuites ["b", "a", "b", "c"]).outcome opening.world =
        (.error (.missingInput "/s02" ⟨"/s02"⟩), after.world) ∧
      Reported opening [threeSuites.suites[1]] [outcome] after ∧ after.writer.written = ["b"] ∧
      after.world.printed = "b (1 cases)\nreference: 1/1 passed (100.0%) in 2.00s\n" ∧
      Halfway after := by
  have valid : threeSuites.check = .ok () := by decide
  have ordinary := replaying_fails threeSuites.launcher
  have selected : threeSuites.selectAll ["b", "a", "b", "c"] =
      .ok [threeSuites.suites[1], threeSuites.suites[0], threeSuites.suites[2]] := rfl
  have created : Analyzer.createAll (fun line => within (replaying threeSuites.launcher line))
      threeSuites.tools opening.world = .ok [compiler] := rfl
  obtain ⟨outcome, middle, second, shown, printed, half, missed⟩ := publish_opening
  have first : (threeSuites.suites[0].publish [compiler]).outcome (middle.printing outcome.shown) =
      (.error (.missingInput "/s02" ⟨"/s02"⟩), middle.printing outcome.shown) :=
    Suite.outcome_publish_undiscovered [compiler] missed
  obtain ⟨-, -, -, ran, -⟩ := runSuites_once valid ordinary ["b", "a", "b", "c"] opening.world
  refine ⟨valid, ordinary, by rw [selected]; rfl, ?_⟩
  rcases ended : (runSuites replaying threeSuites ["b", "a", "b", "c"]).outcome opening.world
    with ⟨result, last⟩
  rw [ended] at ran
  cases ran with
  | unselected refused =>
      rw [selected] at refused
      cases refused
  | unequipped chosen refused =>
      rw [created] at refused
      cases refused
  | ended chosen equipped published course =>
      obtain rfl := Except.ok.inj (selected.symm.trans chosen)
      obtain rfl := Except.ok.inj (created.symm.trans equipped)
      -- The steps are those that were computed: the second suite is reported, and the first one fails.
      cases course with
      | all steps _ =>
          obtain - | ⟨done, later⟩ := steps
          cases second.symm.trans done
          obtain - | ⟨done, -⟩ := later
          cases first.symm.trans done
      | stopped split steps failed _ reported =>
          obtain - | ⟨done, later⟩ := steps
          · cases split
            cases second.symm.trans failed
          · obtain ⟨rfl, others⟩ := List.cons.inj split
            cases second.symm.trans done
            obtain - | ⟨done, -⟩ := later
            · obtain ⟨rfl, -⟩ := List.cons.inj others
              cases first.symm.trans failed
              refine ⟨outcome, _, rfl, reported, reported.written, ?_, half⟩
              rw [Report.Desk.printing, printed, shown]
              rfl
            · obtain ⟨rfl, -⟩ := List.cons.inj others
              cases first.symm.trans done

end Session

end Assay
