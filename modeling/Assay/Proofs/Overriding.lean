import Assay.Session
import Assay.Proofs.Settings
import Assay.Proofs.Validity

/-!
Settings from a file or by default, with overrides. What stands before the overrides has to pass the check
by itself, and then nothing but a request for no jobs at all can spoil it.
-/

namespace Assay

namespace Settings

theorem load_ok_iff {tree : FileTree} {working : Location} {file : Path} {settings : Settings} :
    load tree working file = .ok settings ↔ ∃ content text, tree.read working file = .ok content ∧
      String.fromUTF8? content = some text ∧ Json.Reader.parse reader text = .ok settings ∧
        settings.check = .ok () := by
  unfold load
  rw [Outcome.bind_eq_ok_iff]
  simp only [Outcome.mapError_eq_ok_iff]
  constructor
  · rintro ⟨content, held, loaded⟩
    split at loaded
    · cases loaded
    · next text decoded =>
        obtain ⟨found, parsed, loaded⟩ := Outcome.bind_eq_ok_iff.mp loaded
        obtain ⟨⟨⟩, checked, same⟩ := Outcome.bind_eq_ok_iff.mp loaded
        obtain rfl := Except.ok.inj same
        exact ⟨content, text, held, decoded, Outcome.mapError_eq_ok_iff.mp parsed, checked⟩
  · rintro ⟨content, text, held, decoded, parsed, checked⟩
    refine ⟨content, held, ?_⟩
    rw [decoded]
    dsimp only
    rw [parsed, Except.mapError, Outcome.ok_bind, checked]
    rfl

/-- The settings before any override: those that a file holds, if they pass their check by themselves, and
without a file the default ones. -/
inductive Stands (overrides : Overrides) (tree : FileTree) (working : Location) : Settings → Prop
  | file {file content text settings} : overrides.settingsFile = some file →
      tree.read working file = .ok content → String.fromUTF8? content = some text →
      Json.Reader.parse reader text = .ok settings → settings.check = .ok () →
      Stands overrides tree working settings
  | default : overrides.settingsFile = none → Stands overrides tree working {}

theorem check_default : ({} : Settings).check = .ok () := by decide

theorem Stands.check {overrides : Overrides} {tree : FileTree} {working : Location} {base : Settings}
    (stands : Stands overrides tree working base) : base.check = .ok () := by
  cases stands with
  | file _ _ _ _ passed => exact passed
  | default => exact check_default

def base (overrides : Overrides) (tree : FileTree) (working : Location) : Except Failure Settings :=
  match overrides.settingsFile with
  | some file => load tree working file
  | none => .ok {}

theorem loadOverridden_eq (overrides : Overrides) (tree : FileTree) (working : Location) :
    loadOverridden overrides tree working = base overrides tree working >>= fun before =>
      (before.override overrides).check.map fun _ => before.override overrides := by
  have checked (before : Settings) :
      (before.override overrides).check.map (fun _ => before.override overrides) =
        (before.override overrides).check >>= fun _ => pure (before.override overrides) := by
    cases (before.override overrides).check <;> rfl
  simp only [checked]
  unfold loadOverridden base
  cases overrides.settingsFile <;> rfl

theorem base_ok_iff {overrides : Overrides} {tree : FileTree} {working : Location}
    {before : Settings} :
    base overrides tree working = .ok before ↔ Stands overrides tree working before := by
  unfold base
  cases given : overrides.settingsFile with
  | none =>
      constructor
      · rintro ⟨⟩
        exact .default given
      · rintro (⟨named⟩ | _)
        · simp [given] at named
        · rfl
  | some file =>
      dsimp only
      rw [load_ok_iff]
      constructor
      · rintro ⟨content, text, held, decoded, parsed, passed⟩
        exact .file given held decoded parsed passed
      · rintro (⟨named, held, decoded, parsed, passed⟩ | unnamed)
        · rw [given, Option.some.injEq] at named
          exact ⟨_, _, named ▸ held, decoded, parsed, passed⟩
        · simp [given] at unnamed

def Replaced {α : Type} (given : Option α) (before after : α) : Prop :=
  (∀ value, given = some value → after = value) ∧ (given = none → after = before)

theorem replaced_iff {α : Type} {given : Option α} {before after : α} :
    Replaced given before after ↔ after = given.getD before := by
  cases given <;> simp [Replaced]

/-- The settings differ from those before in what is overridden, and in nothing else. -/
structure Overridden (base : Settings) (overrides : Overrides) (settings : Settings) : Prop where
  subject : Replaced overrides.subject base.tools.subjectPath settings.tools.subjectPath
  jobs : Replaced (overrides.jobs.map some) base.jobs settings.jobs
  timeout : Replaced overrides.timeout base.timeoutSeconds settings.timeoutSeconds
  outputFolder : Replaced overrides.outputFolder base.outputFolder settings.outputFolder
  enabled : settings.tools.enabled = base.tools.enabled
  referenceCommand : settings.tools.referenceCommand = base.tools.referenceCommand
  abstractCommand : settings.tools.abstractCommand = base.tools.abstractCommand
  keepAbstractOutput : settings.tools.keepAbstractOutput = base.tools.keepAbstractOutput
  scratchFolder : settings.scratchFolder = base.scratchFolder
  suites : settings.suites = base.suites

theorem overridden_iff {base settings : Settings} {overrides : Overrides} :
    Overridden base overrides settings ↔ settings = base.override overrides := by
  constructor
  · intro overridden
    obtain ⟨⟨enabled, reference, subject, abstract, keep⟩, scratch, output, timeout, jobs, suites⟩ :=
      settings
    obtain ⟨subject', jobs', timeout', output', rfl, rfl, rfl, rfl, rfl, rfl⟩ := overridden
    rw [replaced_iff] at subject' jobs' timeout' output'
    dsimp only at subject' jobs' timeout' output'
    rw [override, subject', jobs', timeout', output']
    cases overrides.jobs <;> rfl
  · rintro rfl
    constructor
    case jobs => rw [replaced_iff, override]; cases overrides.jobs <;> rfl
    all_goals first | rfl | exact replaced_iff.mpr rfl

theorem check_override_iff {base : Settings} (valid : base.check = .ok ()) (overrides : Overrides) :
    (base.override overrides).check = .ok () ↔ overrides.jobs ≠ some 0 := by
  obtain ⟨enabled, tools, jobs, suites⟩ := check_ok_iff.mp valid
  rw [check_ok_iff]
  have number : (base.override overrides).jobs ≠ some 0 ↔ overrides.jobs ≠ some 0 := by
    rw [override]
    cases overrides.jobs with
    | none => simpa using jobs
    | some given => simp
  rw [← number]
  exact ⟨fun passed => passed.2.2.1, fun some => ⟨enabled, tools, some, suites⟩⟩

theorem check_override_noJobs {base : Settings} (valid : base.check = .ok ()) {overrides : Overrides}
    (none : overrides.jobs = some 0) :
    (base.override overrides).check = .error (.settings .noJobs) := by
  obtain ⟨enabled, ⟨kinds, tools⟩, -, -⟩ := check_ok_iff.mp valid
  rw [check_iff]
  refine .noJobs (ToolSettings.kinds_iff.mp (ToolSettings.kinds_ok_iff.mpr ⟨enabled, tools⟩)) ?_
  rw [override, none]
  rfl

theorem loadOverridden_ok_iff {overrides : Overrides} {tree : FileTree} {working : Location}
    {settings : Settings} :
    loadOverridden overrides tree working = .ok settings ↔ overrides.jobs ≠ some 0 ∧
      ∃ base, Stands overrides tree working base ∧ Overridden base overrides settings := by
  rw [loadOverridden_eq, Outcome.bind_eq_ok_iff]
  simp only [base_ok_iff, overridden_iff]
  constructor
  · rintro ⟨base, stands, checked⟩
    cases passed : (base.override overrides).check with
    | error failure => simp [passed, Except.map] at checked
    | ok _ =>
        rw [passed] at checked
        exact ⟨(check_override_iff stands.check overrides).mp passed, base, stands,
          (Except.ok.inj checked).symm⟩
  · rintro ⟨some, base, stands, rfl⟩
    refine ⟨base, stands, ?_⟩
    rw [(check_override_iff stands.check overrides).mpr some]
    rfl

/-- Overridden settings are to be had exactly when what stands before passes the check by itself and at
least one job is asked for. They pass the check, hold what the overrides say and are otherwise as
before. Without them, what is wrong with the file is reported first. -/
theorem loadOverridden_exact (overrides : Overrides) (tree : FileTree) (working : Location) :
    ((∃ settings, loadOverridden overrides tree working = .ok settings) ↔
      (∃ base, Stands overrides tree working base) ∧ overrides.jobs ≠ some 0) ∧
    (∀ settings, loadOverridden overrides tree working = .ok settings →
      settings.check = .ok () ∧
        ∃ base, Stands overrides tree working base ∧ Overridden base overrides settings) ∧
    (∀ file failure, overrides.settingsFile = some file → load tree working file = .error failure →
      loadOverridden overrides tree working = .error failure) ∧
    (∀ base, Stands overrides tree working base → overrides.jobs = some 0 →
      loadOverridden overrides tree working = .error (.settings .noJobs)) := by
  refine ⟨?_, ?_, ?_, ?_⟩
  · simp only [loadOverridden_ok_iff]
    constructor
    · rintro ⟨settings, some, base, stands, -⟩
      exact ⟨⟨base, stands⟩, some⟩
    · rintro ⟨⟨base, stands⟩, some⟩
      exact ⟨base.override overrides, some, base, stands, overridden_iff.mpr rfl⟩
  · intro settings loaded
    obtain ⟨some, base, stands, overridden⟩ := loadOverridden_ok_iff.mp loaded
    refine ⟨?_, base, stands, overridden⟩
    rw [overridden_iff.mp overridden]
    exact (check_override_iff stands.check overrides).mpr some
  · intro file failure given failed
    rw [loadOverridden_eq, base, given]
    dsimp only
    rw [failed]
    rfl
  · intro base stands none
    rw [loadOverridden_eq, base_ok_iff.mpr stands, Outcome.ok_bind,
      check_override_noJobs stands.check none]
    rfl

def benchOverrides : Overrides where
  settingsFile := some ⟨"bench.json"⟩
  subject := some ⟨"bin/subject"⟩
  jobs := some 3

theorem loadOverridden_exact_bench :
    Stands benchOverrides extremeTree [] extreme ∧
    (∃ settings, loadOverridden benchOverrides extremeTree [] = .ok settings ∧
      settings.check = .ok ()) ∧
    loadOverridden { benchOverrides with jobs := some 0 } extremeTree [] =
      .error (.settings .noJobs) := by
  have stands (jobs : Option UInt64) :
      Stands { benchOverrides with jobs } extremeTree [] extreme :=
    .file rfl (show extremeTree.read [] ⟨"bench.json"⟩ = .ok extreme.toJson.long.toUTF8 from rfl)
      (Text.fromUTF8?_toUTF8 _) extreme.parse_long (by decide)
  have exact := loadOverridden_exact benchOverrides extremeTree []
  obtain ⟨settings, loaded⟩ := exact.1.mpr ⟨⟨extreme, stands (some 3)⟩, by decide⟩
  refine ⟨stands (some 3), ⟨settings, loaded, (exact.2.1 settings loaded).1⟩, ?_⟩
  exact (loadOverridden_exact _ extremeTree []).2.2.2 extreme (stands (some 0)) rfl

end Settings

end Assay
