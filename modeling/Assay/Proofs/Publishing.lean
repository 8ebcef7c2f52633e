import Assay.Proofs.Failing

/-!
A writer over any number of requests, in a world where every file operation may fail. Its names are
those of the requests that succeeded, and a request that fails, at whatever stage, enters none.
-/

namespace Assay.Report

variable {σ α : Type}

/-! Actions at a desk. -/

namespace Desk

theorem outcome_outside (action : Action σ α) (desk : Desk σ) :
    (outside action).outcome desk =
      ((action.outcome desk.world).1, { desk with world := (action.outcome desk.world).2 }) := rfl

theorem outcome_outside_eq {action : Action σ α} {desk : Desk σ} {result : Except Failure α}
    {world : σ} (given : action.outcome desk.world = (result, world)) :
    (outside action).outcome desk = (result, { desk with world }) := by
  rw [outcome_outside, given]

theorem outcome_lend (writer : Writer) (action : Action (Desk σ) α) (world : σ) :
    (lend writer action).outcome world =
      let ended := action.outcome { world, writer }
      (ended.1.map fun value => (value, ended.2.writer), ended.2.world) := rfl

end Desk

variable [Surroundings σ]

theorem outcome_writeFile {file : Path} {content : String} {world after : σ}
    {result : Except FileFault Unit}
    (given : Surroundings.writeText file content world = (result, after)) :
    (writeFile file content).outcome world =
      (result.mapError (.file ("writing " ++ file.text)), after) :=
  Action.outcome_onFiles given

/-- These files were written one after the other, each without a fault. -/
inductive Writes : σ → List (Path × String) → σ → Prop
  | done {world} : Writes world [] world
  | next {world middle after file content rest} :
      Surroundings.writeText file content world = (.ok (), middle) → Writes middle rest after →
      Writes world ((file, content) :: rest) after

theorem writeAll_cases (contents : List (Path × String)) (world : σ) :
    (∃ after, Writes world contents after ∧ (writeAll contents).outcome world = (.ok (), after)) ∨
      ∃ front file content back middle fault after, contents = front ++ (file, content) :: back ∧
        Writes world front middle ∧
        Surroundings.writeText file content middle = (.error fault, after) ∧
        (writeAll contents).outcome world =
          (.error (.file ("writing " ++ file.text) fault), after) := by
  induction contents generalizing world with
  | nil => exact Or.inl ⟨world, .done, rfl⟩
  | cons item rest ih =>
      obtain ⟨file, content⟩ := item
      have split : (writeAll ((file, content) :: rest) : Action σ Unit) =
          writeFile file content >>= fun _ => writeAll rest := rfl
      rw [split]
      rcases written : Surroundings.writeText file content world with ⟨fault | _, middle⟩
      · refine Or.inr ⟨[], file, content, rest, world, fault, middle, rfl, .done, written, ?_⟩
        exact Action.outcome_bind_error (outcome_writeFile written) _
      · rw [Action.outcome_bind_ok (outcome_writeFile written)]
        rcases ih middle with ⟨after, others, ended⟩ |
          ⟨front, other, text, back, last, fault, after, rfl, others, failed, ended⟩
        · exact Or.inl ⟨after, .next written others, ended⟩
        · exact Or.inr ⟨(file, content) :: front, other, text, back, last, fault, after, rfl,
            .next written others, failed, ended⟩

namespace Desk

inductive Publishing (name : String) (results : Results) (desk : Desk σ) :
    Except Failure Published → Desk σ → Prop
  | known : name ∈ desk.writer.written →
      Publishing name results desk (.error (.duplicateReport name)) desk
  | noFolder {fault world} : name ∉ desk.writer.written →
      Surroundings.createFolder desk.writer.folder desk.world = (.error fault, world) →
      Publishing name results desk
        (.error (.file ("creating " ++ desk.writer.folder.text) fault)) { desk with world }
  | noTotals {failure world} : name ∉ desk.writer.written →
      Surroundings.createFolder desk.writer.folder desk.world = (.ok (), world) →
      Totals.ofResults results = .error failure →
      Publishing name results desk (.error failure) { desk with world }
  | stopped {totals front file content back world middle fault after} :
      name ∉ desk.writer.written →
      Surroundings.createFolder desk.writer.folder desk.world = (.ok (), world) →
      Totals.ofResults results = .ok totals →
      (Files.named desk.writer.folder name).contents results totals =
        front ++ (file, content) :: back →
      Writes world front middle →
      Surroundings.writeText file content middle = (.error fault, after) →
      Publishing name results desk (.error (.file ("writing " ++ file.text) fault))
        { desk with world := after }
  | done {totals world after} : name ∉ desk.writer.written →
      Surroundings.createFolder desk.writer.folder desk.world = (.ok (), world) →
      Totals.ofResults results = .ok totals →
      Writes world ((Files.named desk.writer.folder name).contents results totals) after →
      Publishing name results desk
        (.ok { totals, files := Files.named desk.writer.folder name })
        { world := after, writer := desk.writer.enter name }

theorem publishNew_cases {name : String} (results : Results) {desk : Desk σ}
    (new : name ∉ desk.writer.written) :
    Publishing name results desk ((publishNew name results).outcome desk).1
      ((publishNew name results).outcome desk).2 := by
  unfold publishNew
  rw [Action.outcome_bind_ok (Action.outcome_get desk)]
  rcases made : Surroundings.createFolder desk.writer.folder desk.world with ⟨fault | _, world⟩
  · have failed : (outside (Action.onFiles ("creating " ++ desk.writer.folder.text)
        (Surroundings.createFolder desk.writer.folder))).outcome desk =
          (.error (.file ("creating " ++ desk.writer.folder.text) fault), { desk with world }) :=
      outcome_outside_eq (Action.outcome_onFiles made)
    rw [Action.outcome_bind_error failed]
    exact .noFolder new made
  · have opened : (outside (Action.onFiles ("creating " ++ desk.writer.folder.text)
        (Surroundings.createFolder desk.writer.folder))).outcome desk =
          (.ok (), { desk with world }) :=
      outcome_outside_eq (Action.outcome_onFiles made)
    rw [Action.outcome_bind_ok opened]
    cases counted : Totals.ofResults results with
    | error failure =>
        rw [Action.outcome_bind_error (Action.outcome_ofExcept _ _)]
        exact .noTotals new made counted
    | ok totals =>
        rw [Action.outcome_bind_ok (Action.outcome_ofExcept _ _)]
        rcases writeAll_cases ((Files.named desk.writer.folder name).contents results totals) world
          with ⟨after, written, ended⟩ |
            ⟨front, file, content, back, middle, fault, after, split, written, failed, ended⟩
        · have finished := @outcome_outside_eq σ _ _ { desk with world } _ _ ended
          rw [Action.outcome_bind_ok finished]
          exact .done new made counted written
        · have stopped := @outcome_outside_eq σ _ _ { desk with world } _ _ ended
          rw [Action.outcome_bind_error stopped]
          exact .stopped new made counted split written failed

theorem publish_cases (name : String) (results : Results) (desk : Desk σ) :
    Publishing name results desk ((publish name results).outcome desk).1
      ((publish name results).outcome desk).2 := by
  have start : (publish name results).outcome desk =
      if name ∈ desk.writer.written then (.error (.duplicateReport name), desk)
      else (publishNew name results).outcome desk := by
    unfold publish
    rw [Action.outcome_bind_ok (Action.outcome_get desk)]
    split <;> rfl
  rw [start]
  split
  · next known => exact .known known
  · next new => exact publishNew_cases results new

namespace Publishing

variable {name : String} {results : Results} {desk after : Desk σ}

theorem writer_of_error {failure : Failure}
    (course : Publishing name results desk (.error failure) after) : after.writer = desk.writer := by
  cases course <;> rfl

theorem new_of_error {failure : Failure}
    (course : Publishing name results desk (.error failure) after)
    (other : failure ≠ .duplicateReport name) : name ∉ desk.writer.written := by
  cases course with
  | known _ => exact absurd rfl other
  | noFolder new => exact new
  | noTotals new => exact new
  | stopped new => exact new

theorem eq_of_known {result : Except Failure Published}
    (course : Publishing name results desk result after) (known : name ∈ desk.writer.written) :
    result = .error (.duplicateReport name) ∧ after = desk := by
  cases course with
  | known _ => exact ⟨rfl, rfl⟩
  | noFolder new => exact absurd known new
  | noTotals new => exact absurd known new
  | stopped new => exact absurd known new
  | done new => exact absurd known new

theorem of_ok {published : Published}
    (course : Publishing name results desk (.ok published) after) :
    name ∉ desk.writer.written ∧ Totals.ofResults results = .ok published.totals ∧
      published.files = Files.named desk.writer.folder name ∧
      after.writer = desk.writer.enter name ∧
      ∃ stood, Surroundings.createFolder desk.writer.folder desk.world = (.ok (), stood) ∧
        Writes stood (published.files.contents results published.totals) after.world := by
  cases course with
  | done new made counted written => exact ⟨new, counted, rfl, rfl, _, made, written⟩

theorem known_iff {result : Except Failure Published}
    (course : Publishing name results desk result after) :
    result = .error (.duplicateReport name) ↔ name ∈ desk.writer.written := by
  refine ⟨fun refused => ?_, fun known => (course.eq_of_known known).1⟩
  cases course with
  | known known => exact known
  | noFolder => simp at refused
  | noTotals _ _ counted =>
      have large := Totals.ofResults_failsIn results _ counted
      simp [large] at refused
  | stopped => simp at refused
  | done => simp at refused

end Publishing

theorem publish_refused_iff (name : String) (results : Results) (desk : Desk σ) :
    ((publish name results).outcome desk).1 = .error (.duplicateReport name) ↔
      name ∈ desk.writer.written :=
  (publish_cases name results desk).known_iff

end Desk

/-! Requests. -/

inductive Request (σ : Type)
  | write (name : String) (results : Results)
  | run (analyzers : List (Analyzer σ)) (suite : Suite)

namespace Request

def name : Request σ → String
  | write name _ => name
  | run _ suite => suite.name

/-- How the results come about that are to be reported. Those of a suite need discovery, the checks and
the analysis. -/
def results : Request σ → Action σ Results
  | write _ results => pure results
  | run analyzers suite => suite.analyze analyzers

def perform : Request σ → Action (Desk σ) SuiteOutcome
  | write name results => do
    let { totals, files } ← Desk.publish name results
    return { name, results, totals, files }
  | run analyzers suite => suite.publish analyzers

theorem outcome_perform_error {request : Request σ} {desk : Desk σ} {failure : Failure} {world : σ}
    (failed : request.results.outcome desk.world = (.error failure, world)) :
    request.perform.outcome desk = (.error failure, { desk with world }) := by
  cases request with
  | write name given => simp [Request.results] at failed
  | run analyzers suite => exact Action.outcome_bind_error (Desk.outcome_outside_eq failed) _

theorem outcome_perform_ok {request : Request σ} {desk : Desk σ} {results : Results} {world : σ}
    (given : request.results.outcome desk.world = (.ok results, world)) :
    request.perform.outcome desk =
      let ended := (Desk.publish request.name results).outcome { desk with world }
      (ended.1.map fun published =>
        { name := request.name, results, totals := published.totals, files := published.files },
        ended.2) := by
  have publish (name : String) (results : Results) (start : Desk σ) :
      (do let { totals, files } ← Desk.publish name results
          return { name, results, totals, files } : Action (Desk σ) SuiteOutcome).outcome start =
        let ended := (Desk.publish name results).outcome start
        (ended.1.map fun published =>
          { name, results, totals := published.totals, files := published.files }, ended.2) := by
    rw [Action.outcome_bind]
    rcases (Desk.publish name results).outcome start with ⟨failure | published, after⟩ <;> rfl
  cases request with
  | write name written =>
      obtain ⟨rfl, rfl⟩ := Action.outcome_pure_eq_ok given
      exact publish name written desk
  | run analyzers suite =>
      have reached : (suite.publish analyzers).outcome desk = _ :=
        Action.outcome_bind_ok (Desk.outcome_outside_eq given) _
      exact reached.trans (publish suite.name results { desk with world })

end Request

structure Step (σ : Type) where
  request : Request σ
  before : Desk σ
  result : Except Failure SuiteOutcome
  after : Desk σ

namespace Step

def of (request : Request σ) (desk : Desk σ) : Step σ where
  request
  before := desk
  result := (request.perform.outcome desk).1
  after := (request.perform.outcome desk).2

structure Sound (step : Step σ) : Prop where
  /-- Without results the writer does nothing: the world is left as the analysis left it. -/
  unfinished : ∀ failure world,
    step.request.results.outcome step.before.world = (.error failure, world) →
    step.result = .error failure ∧ step.after = { step.before with world }
  known : ∀ results world,
    step.request.results.outcome step.before.world = (.ok results, world) →
    step.request.name ∈ step.before.writer.written →
    step.result = .error (.duplicateReport step.request.name) ∧
      step.after = { step.before with world }
  failed : ∀ failure, step.result = .error failure → step.after.writer = step.before.writer
  retried : ∀ results world failure,
    step.request.results.outcome step.before.world = (.ok results, world) →
    step.result = .error failure → failure ≠ .duplicateReport step.request.name →
    ∀ others, ((Desk.publish step.request.name others).outcome step.after).1 ≠
      .error (.duplicateReport step.request.name)
  /-- A success has written the details, the totals and the table, each to its own file below the folder, and
  gives the totals that stand in one of them. -/
  published : ∀ outcome, step.result = .ok outcome → ∃ world stood,
    step.request.results.outcome step.before.world = (.ok outcome.results, world) ∧
    outcome.name = step.request.name ∧
    Totals.ofResults outcome.results = .ok outcome.totals ∧
    outcome.files = {
      details := step.before.writer.folder / ⟨outcome.name ++ "_results.json"⟩
      totals := step.before.writer.folder / ⟨outcome.name ++ "_results_summary.json"⟩
      table := step.before.writer.folder / ⟨outcome.name ++ "_results_table.tex"⟩ } ∧
    outcome.name ∉ step.before.writer.written ∧
    Surroundings.createFolder step.before.writer.folder world = (.ok (), stood) ∧
    Writes stood [
      (step.before.writer.folder / ⟨outcome.name ++ "_results.json"⟩,
        (Results.casesToJson outcome.results.cases).long),
      (step.before.writer.folder / ⟨outcome.name ++ "_results_summary.json"⟩,
        outcome.totals.toJson.long),
      (step.before.writer.folder / ⟨outcome.name ++ "_results_table.tex"⟩,
        Table.render outcome.results)] step.after.world ∧
    step.after.writer =
      { step.before.writer with written := outcome.name :: step.before.writer.written }

theorem sound_of_error {step : Step σ} {failure : Failure} {world : σ}
    (reached : step.request.results.outcome step.before.world = (.error failure, world))
    (result : step.result = .error failure) (after : step.after = { step.before with world }) :
    step.Sound where
  unfinished other place again := by
    obtain ⟨same, rfl⟩ := Prod.mk.inj (reached.symm.trans again)
    rw [← Except.error.inj same]
    exact ⟨result, after⟩
  known results place again := by simp [reached] at again
  failed other _ := by rw [after]
  retried results place other again := by simp [reached] at again
  published outcome succeeded := by simp [result] at succeeded

theorem sound_of_publishing {step : Step σ} {results : Results} {world : σ}
    {published : Except Failure Published}
    (reached : step.request.results.outcome step.before.world = (.ok results, world))
    (course : Desk.Publishing step.request.name results { step.before with world } published
      step.after)
    (result : step.result = published.map fun published =>
      { name := step.request.name, results, totals := published.totals,
        files := published.files }) : step.Sound where
  unfinished failure place again := by simp [reached] at again
  known others place again known := by
    obtain ⟨-, rfl⟩ := Prod.mk.inj (reached.symm.trans again)
    obtain ⟨refused, same⟩ := course.eq_of_known known
    rw [result, refused]
    exact ⟨rfl, same⟩
  failed failure failed := by
    cases published with
    | error other => exact course.writer_of_error
    | ok published => simp [result, Except.map] at failed
  retried others place failure again failed other more := by
    cases published with
    | error cause =>
        obtain rfl : cause = failure := by simpa [result, Except.map] using failed
        rw [Ne, Desk.publish_refused_iff, course.writer_of_error]
        exact course.new_of_error other
    | ok published => simp [result, Except.map] at failed
  published outcome succeeded := by
    cases published with
    | error failure => simp [result, Except.map] at succeeded
    | ok published =>
        obtain rfl := Except.ok.inj (result.symm.trans succeeded)
        obtain ⟨new, counted, named, entered, stood, made, written⟩ := course.of_ok
        rw [named] at written
        exact ⟨world, stood, reached, rfl, counted, named, new, made, written, entered⟩

theorem of_sound (request : Request σ) (desk : Desk σ) : (Step.of request desk).Sound := by
  rcases reached : request.results.outcome desk.world with ⟨failure | results, world⟩
  · have ended := Request.outcome_perform_error reached
    exact sound_of_error reached (congrArg Prod.fst ended) (congrArg Prod.snd ended)
  · have ended := Request.outcome_perform_ok reached
    have course := Desk.publish_cases request.name results { desk with world }
    refine sound_of_publishing reached ?_ (congrArg Prod.fst ended)
    rw [← congrArg Prod.snd ended] at course
    exact course

end Step

/-! Histories. -/

def Desk.history (desk : Desk σ) : List (Request σ) → List (Step σ)
  | [] => []
  | request :: rest => Step.of request desk :: history (Step.of request desk).after rest

def Desk.serve (desk : Desk σ) (requests : List (Request σ)) : Desk σ :=
  requests.foldl (fun desk request => (Step.of request desk).after) desk

def Step.success (step : Step σ) : List String :=
  match step.result with
  | .ok _ => [step.request.name]
  | .error _ => []

def succeeded (history : List (Step σ)) : List String := history.flatMap Step.success

omit [Surroundings σ] in
theorem succeeded_cons (step : Step σ) (rest : List (Step σ)) :
    succeeded (step :: rest) = step.success ++ succeeded rest := List.flatMap_cons

theorem Step.Sound.written_eq {step : Step σ} (sound : step.Sound) :
    step.after.writer.written = step.success ++ step.before.writer.written := by
  unfold success
  cases ended : step.result with
  | error failure => rw [sound.failed failure ended, List.nil_append]
  | ok outcome =>
      obtain ⟨_, _, -, named, -, -, -, -, -, entered⟩ := sound.published outcome ended
      rw [entered, named]
      rfl

theorem Step.Sound.success_new {step : Step σ} (sound : step.Sound) :
    step.success.Nodup ∧ ∀ name ∈ step.success, name ∉ step.before.writer.written := by
  unfold success
  cases ended : step.result with
  | error failure => simp
  | ok outcome =>
      obtain ⟨_, _, -, named, -, -, new, -⟩ := sound.published outcome ended
      simpa [← named] using new

namespace Desk

theorem sound_of_mem_history {desk : Desk σ} {requests : List (Request σ)} {step : Step σ}
    (member : step ∈ desk.history requests) : step.Sound := by
  induction requests generalizing desk with
  | nil => simp [history] at member
  | cons request rest ih =>
      rcases List.mem_cons.mp member with rfl | later
      · exact Step.of_sound request desk
      · exact ih later

theorem written_serve (desk : Desk σ) (requests : List (Request σ)) :
    (desk.serve requests).writer.written =
      (succeeded (desk.history requests)).reverse ++ desk.writer.written := by
  induction requests generalizing desk with
  | nil => rfl
  | cons request rest ih =>
      have sound := Step.of_sound request desk
      have single : (Step.of request desk).success.reverse = (Step.of request desk).success := by
        unfold Step.success
        split <;> rfl
      rw [serve, List.foldl_cons, ← serve, ih, sound.written_eq, history, succeeded_cons,
        List.reverse_append, single, List.append_assoc]
      rfl

theorem succeeded_new (desk : Desk σ) (requests : List (Request σ)) :
    (succeeded (desk.history requests)).Nodup ∧
      ∀ name ∈ succeeded (desk.history requests), name ∉ desk.writer.written := by
  induction requests generalizing desk with
  | nil => simp [history, succeeded]
  | cons request rest ih =>
      have sound := Step.of_sound request desk
      obtain ⟨single, new⟩ := sound.success_new
      obtain ⟨distinct, others⟩ := ih (Step.of request desk).after
      simp only [sound.written_eq, List.mem_append, not_or] at others
      rw [history, succeeded_cons]
      refine ⟨List.nodup_append.mpr ⟨single, distinct, fun name first other later same => ?_⟩, ?_⟩
      · exact (others other later).1 (same ▸ first)
      · intro name member
        rcases List.mem_append.mp member with first | later
        · exact new name first
        · exact (others name later).2

/-- Over any requests and whatever faults occur, the names of a writer are exactly those that
succeeded, each of them once, and every single request keeps its promises. -/
theorem history_sound (desk : Desk σ) (requests : List (Request σ)) :
    (∀ name, name ∈ (desk.serve requests).writer.written ↔
      name ∈ desk.writer.written ∨ name ∈ succeeded (desk.history requests)) ∧
    (succeeded (desk.history requests)).Nodup ∧
    (∀ name ∈ succeeded (desk.history requests), name ∉ desk.writer.written) ∧
    ∀ step ∈ desk.history requests, step.Sound := by
  obtain ⟨distinct, new⟩ := succeeded_new desk requests
  refine ⟨fun name => ?_, distinct, new, fun step member => sound_of_mem_history member⟩
  rw [written_serve, List.mem_append, List.mem_reverse, or_comm]

end Desk

end Assay.Report
