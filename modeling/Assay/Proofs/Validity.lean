import Mathlib.Data.List.Induction
import Mathlib.Data.List.Nodup
import Mathlib.Data.List.Perm.Subperm
import Mathlib.Data.Option.Basic
import Assay.Settings.Basic
import Assay.Proofs.Action

/-!
Which settings pass their check, and why the others do not. The analyzers and the suites are each scanned
for marks that have to differ; a scan stops at the first item that has no mark or one met before.
-/

namespace Assay

namespace Outcome

variable {α β ε : Type}

def collect [DecidableEq β] (mark : α → Option β) (unmarked : α → ε) (twice : β → ε)
    (seen : List β) (item : α) : Except ε (List β) :=
  match mark item with
  | none => .error (unmarked item)
  | some found => if found ∈ seen then .error (twice found) else .ok (seen ++ [found])

def Marked (mark : α → Option β) (items : List α) (marks : List β) : Prop :=
  items.map mark = marks.map some ∧ marks.Nodup

/-- What can come of collecting the marks of a list: the first item that has no mark, or that of an
earlier one, decides. -/
inductive Collected (mark : α → Option β) (unmarked : α → ε) (twice : β → ε) :
    List α → Except ε (List β) → Prop
  | unmarked {before item after marks} : Marked mark before marks → mark item = none →
      Collected mark unmarked twice (before ++ item :: after) (.error (unmarked item))
  | twice {before item after marks found} : Marked mark before marks → mark item = some found →
      found ∈ marks → Collected mark unmarked twice (before ++ item :: after) (.error (twice found))
  | all {items marks} : Marked mark items marks → Collected mark unmarked twice items (.ok marks)

variable {mark : α → Option β} {unmarked : α → ε} {twice : β → ε}

theorem marked_concat {items : List α} {marks : List β} {item : α} {found : β}
    (marked : Marked mark items marks) (given : mark item = some found) (new : found ∉ marks) :
    Marked mark (items ++ [item]) (marks ++ [found]) := by
  constructor
  · rw [List.map_append, List.map_append, marked.1, List.map_singleton, given]
    rfl
  · rw [← List.concat_eq_append]
    exact marked.2.concat new

theorem exists_marked_iff {items : List α} :
    (∃ marks, Marked mark items marks) ↔
      (∀ item ∈ items, ∃ found, mark item = some found) ∧ (items.map mark).Nodup := by
  constructor
  · rintro ⟨marks, given, distinct⟩
    constructor
    · intro item member
      have inside : mark item ∈ marks.map some := given ▸ List.mem_map_of_mem member
      obtain ⟨found, -, same⟩ := List.mem_map.mp inside
      exact ⟨found, same.symm⟩
    · rw [given]
      exact distinct.map (Option.some_injective β)
  · rintro ⟨each, distinct⟩
    have given : items.map mark = (items.filterMap mark).map some := by
      clear distinct
      induction items with
      | nil => rfl
      | cons item rest ih =>
          obtain ⟨⟨found, own⟩, others⟩ := List.forall_mem_cons.mp each
          rw [List.map_cons, ih others, List.filterMap_cons_some own, own, List.map_cons]
    refine ⟨items.filterMap mark, given, ?_⟩
    rw [given] at distinct
    exact distinct.of_map some

variable [DecidableEq β]

theorem foldlM_collect_of_marked {items : List α} {marks : List β}
    (marked : Marked mark items marks) :
    items.foldlM (collect mark unmarked twice) [] = .ok marks := by
  obtain ⟨given, distinct⟩ := marked
  induction items using List.reverseRecOn generalizing marks with
  | nil =>
      have none : marks = [] := by simpa using given.symm
      rw [none]
      rfl
  | append_singleton items item ih =>
      rcases List.eq_nil_or_concat marks with rfl | ⟨earlier, found, rfl⟩
      · simp at given
      · rw [List.concat_eq_append] at given distinct ⊢
        rw [List.map_append, List.map_append] at given
        obtain ⟨front, last⟩ := List.append_inj' given rfl
        have own : mark item = some found := by simpa using last
        have new : found ∉ earlier := by
          intro again
          exact List.disjoint_of_nodup_append distinct again (by simp)
        rw [List.foldlM_append, ih front distinct.of_append_left, ok_bind, List.foldlM_cons, collect,
          own]
        simp only [if_neg new]
        rfl

theorem collected_foldlM (items : List α) :
    Collected mark unmarked twice items (items.foldlM (collect mark unmarked twice) []) := by
  induction items using List.reverseRecOn with
  | nil => exact .all ⟨rfl, List.nodup_nil⟩
  | append_singleton items item ih =>
      rw [List.foldlM_append]
      generalize items.foldlM (collect mark unmarked twice) [] = result at ih
      cases ih with
      | unmarked marked missing =>
          rw [List.append_assoc]
          exact .unmarked marked missing
      | twice marked given again =>
          rw [List.append_assoc]
          exact .twice marked given again
      | all marked =>
          rw [ok_bind, List.foldlM_cons, collect]
          cases given : mark item with
          | none => exact .unmarked marked given
          | some found =>
              dsimp only
              split
              · next again => exact .twice marked given again
              · next new => exact .all (marked_concat marked given new)

theorem collected_iff {items : List α} {result : Except ε (List β)} :
    items.foldlM (collect mark unmarked twice) [] = result ↔
      Collected mark unmarked twice items result := by
  constructor
  · rintro rfl
    exact collected_foldlM items
  · intro collected
    cases collected with
    | unmarked marked missing =>
        rw [List.foldlM_append, foldlM_collect_of_marked marked, ok_bind, List.foldlM_cons, collect,
          missing]
        rfl
    | twice marked given again =>
        rw [List.foldlM_append, foldlM_collect_of_marked marked, ok_bind, List.foldlM_cons, collect,
          given]
        simp only [if_pos again]
        rfl
    | all marked => exact foldlM_collect_of_marked marked

theorem collected_ok_iff {items : List α} {marks : List β} :
    items.foldlM (collect mark unmarked twice) [] = .ok marks ↔ Marked mark items marks := by
  rw [collected_iff]
  constructor
  · rintro ⟨⟩
    assumption
  · exact .all

end Outcome

open Outcome (Marked Collected collect)

namespace Kind

/-- The name is one that the kind goes by, without regard to the case of ASCII letters. -/
def GoesBy (kind : Kind) (name : String) : Prop :=
  String.ofList (name.toList.map Char.toLower) ∈ kind.aliases

theorem eq_of_mem_aliases {first second : Kind} {text : String} (one : text ∈ first.aliases)
    (other : text ∈ second.aliases) : first = second := by
  have apart : ∀ text ∈ first.aliases, text ∈ second.aliases → first = second := by
    cases first <;> cases second <;> decide
  exact apart text one other

theorem named?_eq_some_iff {name : String} {kind : Kind} :
    named? name = some kind ↔ kind.GoesBy name := by
  constructor
  · intro found
    simpa [GoesBy] using List.find?_some found
  · intro goes
    cases found : named? name with
    | none => exact absurd (List.contains_iff_mem.mpr goes) (List.find?_eq_none.mp found kind kind.mem_all)
    | some other =>
        have listed : other.GoesBy name := by simpa [GoesBy] using List.find?_some found
        rw [eq_of_mem_aliases goes listed]

theorem parsed_differ_iff {first second : String} {kind : Kind} (goes : kind.GoesBy first) :
    named? first ≠ named? second ↔ ∀ either : Kind, ¬ (either.GoesBy first ∧ either.GoesBy second) := by
  have parsed := named?_eq_some_iff.mpr goes
  constructor
  · rintro differ either ⟨one, other⟩
    exact differ ((named?_eq_some_iff.mpr one).trans (named?_eq_some_iff.mpr other).symm)
  · intro apart same
    exact apart kind ⟨goes, named?_eq_some_iff.mp (same ▸ parsed)⟩

/-- Names can be parsed into different kinds exactly when each is one that some kind goes by, and no two
are names of the same kind. -/
theorem exists_marked_iff {names : List String} :
    (∃ kinds, Marked named? names kinds) ↔
      (∀ name ∈ names, ∃ kind : Kind, kind.GoesBy name) ∧
        names.Pairwise fun first second =>
          ∀ kind : Kind, ¬ (kind.GoesBy first ∧ kind.GoesBy second) := by
  rw [Outcome.exists_marked_iff]
  simp only [named?_eq_some_iff]
  refine and_congr_right fun each => ?_
  rw [List.Nodup, List.pairwise_map]
  refine List.Pairwise.iff_of_mem fun first _ => ?_
  obtain ⟨kind, goes⟩ := each _ first
  exact parsed_differ_iff goes

theorem forall₂_of_marked {names : List String} {kinds : List Kind}
    (marked : Marked named? names kinds) :
    List.Forall₂ (fun name kind => kind.GoesBy name) names kinds := by
  have parsed : List.Forall₂ (fun name kind => named? name = some kind) names kinds := by
    rw [← List.forall₂_map_right_iff (f := some), ← List.forall₂_map_left_iff (f := named?),
      marked.1]
    exact List.forall₂_refl _
  exact parsed.imp fun _ _ => named?_eq_some_iff.mp

theorem length_le_of_nodup {kinds : List Kind} (distinct : kinds.Nodup) : kinds.length ≤ 3 :=
  (List.subperm_of_subset distinct fun kind _ => kind.mem_all).length_le

end Kind

namespace ToolSettings

theorem addKind_eq : addKind =
    collect Kind.named? Failure.unknownTool fun kind => .settings (.toolTwice kind) := by
  funext kinds name
  unfold addKind collect
  split <;> simp_all

inductive Checked (tools : ToolSettings) : Except Failure (List Kind) → Prop
  | noTools : tools.enabled = [] → Checked tools (.error (.settings .noTools))
  | scanned {result} : tools.enabled ≠ [] →
      Collected Kind.named? Failure.unknownTool (fun kind => .settings (.toolTwice kind))
        tools.enabled result → Checked tools result

theorem kinds_iff {tools : ToolSettings} {result : Except Failure (List Kind)} :
    tools.kinds = result ↔ tools.Checked result := by
  unfold kinds
  rw [addKind_eq]
  split
  · next none =>
      constructor
      · rintro rfl
        exact .noTools none
      · rintro (_ | ⟨some, _⟩)
        · rfl
        · exact absurd none some
  · next some =>
      rw [Outcome.collected_iff]
      constructor
      · exact .scanned some
      · rintro (none | ⟨_, scanned⟩)
        · exact absurd none some
        · exact scanned

theorem kinds_ok_iff {tools : ToolSettings} {kinds : List Kind} :
    tools.kinds = .ok kinds ↔ tools.enabled ≠ [] ∧ Marked Kind.named? tools.enabled kinds := by
  rw [kinds_iff, ← Outcome.collected_ok_iff, Outcome.collected_iff]
  constructor
  · rintro ⟨⟩
    exact ⟨‹_›, ‹_›⟩
  · rintro ⟨some, scanned⟩
    exact .scanned some scanned

end ToolSettings

namespace Suite

def mark? (suite : Suite) : Option String := if suite.name = "" then none else some suite.name

theorem mark?_eq_some_iff {suite : Suite} {name : String} :
    suite.mark? = some name ↔ suite.name ≠ "" ∧ suite.name = name := by
  unfold mark?
  split <;> simp_all

def Named (suites : List Suite) : Prop :=
  (∀ suite ∈ suites, suite.name ≠ "") ∧ (suites.map name).Nodup

theorem exists_marked_iff_named {suites : List Suite} :
    (∃ names, Marked mark? suites names) ↔ Named suites := by
  rw [Outcome.exists_marked_iff]
  simp only [mark?_eq_some_iff, exists_and_left, exists_eq', and_true]
  refine and_congr_right fun each => ?_
  have marks : suites.map mark? = (suites.map name).map some := by
    rw [List.map_map]
    refine List.map_congr_left fun suite member => ?_
    exact if_neg (each suite member)
  rw [marks]
  exact List.nodup_map_iff (Option.some_injective String)

def Scanned : List Suite → Except Failure (List String) → Prop :=
  Collected mark? (fun _ => .settings .unnamedSuite) fun name => .settings (.duplicateSuite name)

theorem addSuiteName_eq : Settings.addSuiteName =
    collect mark? (fun _ => .settings .unnamedSuite) fun name => .settings (.duplicateSuite name) := by
  funext names suite
  unfold Settings.addSuiteName collect mark?
  split <;> simp_all

theorem scanned_iff {suites : List Suite} {result : Except Failure (List String)} :
    suites.foldlM Settings.addSuiteName [] = result ↔ Scanned suites result := by
  rw [addSuiteName_eq, Outcome.collected_iff]
  exact Iff.rfl

theorem scanned_ok_iff {suites : List Suite} {names : List String} :
    Scanned suites (.ok names) ↔ Marked mark? suites names := by
  rw [← scanned_iff, addSuiteName_eq, Outcome.collected_ok_iff]

end Suite

namespace Settings

/-- What can come of checking settings. The analyzers are looked at first, then the number of jobs, then
the suites. -/
inductive Checked (settings : Settings) : Except Failure Unit → Prop
  | tools {failure} : settings.tools.Checked (.error failure) → Checked settings (.error failure)
  | noJobs {kinds} : settings.tools.Checked (.ok kinds) → settings.jobs = some 0 →
      Checked settings (.error (.settings .noJobs))
  | suites {kinds failure} : settings.tools.Checked (.ok kinds) → settings.jobs ≠ some 0 →
      Suite.Scanned settings.suites (.error failure) → Checked settings (.error failure)
  | passed {kinds names} : settings.tools.Checked (.ok kinds) → settings.jobs ≠ some 0 →
      Suite.Scanned settings.suites (.ok names) → Checked settings (.ok ())

theorem check_iff {settings : Settings} {result : Except Failure Unit} :
    settings.check = result ↔ settings.Checked result := by
  unfold check
  constructor
  · rintro rfl
    rcases kinds : settings.tools.kinds with failure | kinds
    · exact .tools (ToolSettings.kinds_iff.mp kinds)
    · have tools := ToolSettings.kinds_iff.mp kinds
      rw [Outcome.ok_bind]
      split
      · next none => exact .noJobs tools none
      · next some =>
          rcases names : settings.suites.foldlM addSuiteName [] with failure | names
          · exact .suites tools some (Suite.scanned_iff.mp names)
          · exact .passed tools some (Suite.scanned_iff.mp names)
  · intro checked
    cases checked with
    | tools amiss =>
        rw [ToolSettings.kinds_iff.mpr amiss]
        rfl
    | noJobs tools none =>
        rw [ToolSettings.kinds_iff.mpr tools, Outcome.ok_bind, if_pos none]
        rfl
    | suites tools some amiss =>
        rw [ToolSettings.kinds_iff.mpr tools, Outcome.ok_bind, if_neg some,
          Suite.scanned_iff.mpr amiss]
        rfl
    | passed tools some named =>
        rw [ToolSettings.kinds_iff.mpr tools, Outcome.ok_bind, if_neg some,
          Suite.scanned_iff.mpr named]
        rfl

theorem check_ok_iff {settings : Settings} :
    settings.check = .ok () ↔ settings.tools.enabled ≠ [] ∧
      (∃ kinds, Marked Kind.named? settings.tools.enabled kinds) ∧ settings.jobs ≠ some 0 ∧
        Suite.Named settings.suites := by
  rw [check_iff, ← Suite.exists_marked_iff_named]
  constructor
  · rintro ⟨⟩
    next kinds names tools some suites =>
      have passed := ToolSettings.kinds_ok_iff.mp (ToolSettings.kinds_iff.mpr tools)
      exact ⟨passed.1, ⟨kinds, passed.2⟩, some, names, Suite.scanned_ok_iff.mp suites⟩
  · rintro ⟨enabled, ⟨kinds, tools⟩, some, names, suites⟩
    exact .passed (ToolSettings.kinds_iff.mp (ToolSettings.kinds_ok_iff.mpr ⟨enabled, tools⟩)) some
      (Suite.scanned_ok_iff.mpr suites)

theorem suite?_eq_some_iff {settings : Settings} (named : Suite.Named settings.suites)
    {name : String} {suite : Suite} :
    settings.suite? name = some suite ↔ suite ∈ settings.suites ∧ suite.name = name := by
  constructor
  · intro found
    exact ⟨List.mem_of_find?_eq_some found, by simpa using List.find?_some found⟩
  · rintro ⟨member, rfl⟩
    cases found : settings.suite? suite.name with
    | none => exact absurd (decide_eq_true rfl) (List.find?_eq_none.mp found suite member)
    | some other =>
        have listed := List.mem_of_find?_eq_some found
        have same : other.name = suite.name := by simpa using List.find?_some found
        rw [List.inj_on_of_nodup_map named.2 listed member same]

/-- The check is exact: it says what is amiss first, it passes settings with nothing amiss, and of settings
that pass, the analyzers are those named, in their order, and suites are found by their names. -/
theorem check_exact (settings : Settings) :
    (∀ result, settings.check = result ↔ settings.Checked result) ∧
    (settings.check = .ok () ↔
      settings.tools.enabled ≠ [] ∧
      (∀ name ∈ settings.tools.enabled, ∃ kind : Kind, kind.GoesBy name) ∧
      (settings.tools.enabled.Pairwise fun first second =>
        ∀ kind : Kind, ¬ (kind.GoesBy first ∧ kind.GoesBy second)) ∧
      settings.jobs ≠ some 0 ∧
      (∀ suite ∈ settings.suites, suite.name ≠ "") ∧ (settings.suites.map Suite.name).Nodup) ∧
    (3 < settings.tools.enabled.length → settings.check ≠ .ok ()) ∧
    (settings.check = .ok () →
      (∃ kinds, settings.tools.kinds = .ok kinds ∧
        List.Forall₂ (fun name kind => kind.GoesBy name) settings.tools.enabled kinds) ∧
      ∀ name suite, settings.suite? name = some suite ↔
        suite ∈ settings.suites ∧ suite.name = name) := by
  have passes : settings.check = .ok () ↔ _ := check_ok_iff
  refine ⟨fun result => check_iff, ?_, ?_, ?_⟩
  · rw [passes, Kind.exists_marked_iff, Suite.Named, and_assoc]
  · intro many passed
    obtain ⟨-, ⟨kinds, marked⟩, -⟩ := passes.mp passed
    have few := Kind.length_le_of_nodup marked.2
    have same := (Kind.forall₂_of_marked marked).length_eq
    omega
  · intro passed
    obtain ⟨some, ⟨kinds, marked⟩, -, named⟩ := passes.mp passed
    refine ⟨⟨kinds, ToolSettings.kinds_ok_iff.mpr ⟨some, marked⟩, Kind.forall₂_of_marked marked⟩, ?_⟩
    intro name suite
    exact suite?_eq_some_iff named

def aliased : Settings where
  tools := { enabled := ["CLANG", "Frama-C"] }
  jobs := some 1
  suites := [{ name := "a", layout := .defineFlags ⟨"i"⟩, groups := [] }, .juliet]

theorem check_exact_aliased :
    aliased.check = .ok () ∧
    (∃ kinds, aliased.tools.kinds = .ok kinds ∧
      List.Forall₂ (fun name kind => kind.GoesBy name) aliased.tools.enabled kinds) ∧
    (3 < ("subject" :: "pvs" :: aliased.tools.enabled).length ∧
      { aliased with tools.enabled := "subject" :: "pvs" :: aliased.tools.enabled }.check ≠ .ok ()) ∧
    aliased.suite? "juliet" = some .juliet := by
  have passed : aliased.check = .ok () := by decide
  have exact := check_exact aliased
  refine ⟨passed, (exact.2.2.2 passed).1, ⟨by decide, ?_⟩, ?_⟩
  · exact (check_exact _).2.2.1 (by decide)
  · exact ((exact.2.2.2 passed).2 _ _).mpr ⟨by decide, rfl⟩

end Settings

end Assay
