import Mathlib.Data.List.Induction
import Mathlib.Data.List.Nodup
import Assay.Session
import Assay.Proofs.Validity

/-!
The suites that a list of names selects: all of them for the empty list, else the named ones in the
order of first mention, each once.
-/

namespace Assay

section

variable {α : Type} [DecidableEq α]

theorem eraseDups_concat (items : List α) (item : α) :
    (items ++ [item]).eraseDups =
      if item ∈ items then items.eraseDups else items.eraseDups ++ [item] := by
  rw [List.eraseDups_append]
  by_cases known : item ∈ items
  · simp [List.removeAll, known]
  · simp [List.removeAll, known, List.eraseDups_cons]

theorem nodup_eraseDups (items : List α) : items.eraseDups.Nodup := by
  induction items using List.reverseRecOn with
  | nil => exact List.nodup_nil
  | append_singleton items last ih =>
      rw [eraseDups_concat]
      split
      · exact ih
      · next new =>
          rw [← List.concat_eq_append]
          exact ih.concat fun known => new (List.mem_eraseDups.mp known)

end

namespace Settings

theorem distinct_of_check {settings : Settings} (valid : settings.check = .ok ()) :
    (settings.suites.map Suite.name).Nodup :=
  (check_ok_iff.mp valid).2.2.2.2

def Configured (settings : Settings) (name : String) : Prop :=
  ∃ suite ∈ settings.suites, suite.name = name

inductive Selection (settings : Settings) (names : List String) :
    Except Failure (List Suite) → Prop
  | unknown {before name after} : names = before ++ name :: after →
      (∀ earlier ∈ before, settings.Configured earlier) → ¬ settings.Configured name →
      Selection settings names (.error (.settings (.unknownSuite name)))
  | all : names = [] → Selection settings names (.ok settings.suites)
  | named {suites} : names ≠ [] → (∀ name ∈ names, settings.Configured name) →
      suites.map Suite.name = names.eraseDups →
      (∀ suite ∈ suites, settings.suite? suite.name = some suite) →
      Selection settings names (.ok suites)

theorem name_of_suite? {settings : Settings} {name : String} {suite : Suite}
    (found : settings.suite? name = some suite) : suite.name = name := by
  simpa using List.find?_some found

theorem configured_of_suite? {settings : Settings} {name : String} {suite : Suite}
    (found : settings.suite? name = some suite) : settings.Configured name :=
  ⟨suite, List.mem_of_find?_eq_some found, name_of_suite? found⟩

theorem not_configured_of_suite? {settings : Settings} {name : String}
    (missing : settings.suite? name = none) : ¬ settings.Configured name := by
  rintro ⟨suite, member, named⟩
  have other := List.find?_eq_none.mp missing suite member
  exact other (decide_eq_true named)

structure Chosen (settings : Settings) (seen : List String) (chosen : List Suite) : Prop where
  configured : ∀ name ∈ seen, settings.Configured name
  named : chosen.map Suite.name = seen.eraseDups
  found : ∀ suite ∈ chosen, settings.suite? suite.name = some suite

theorem chosen_nil (settings : Settings) : settings.Chosen [] [] where
  configured := by simp
  named := rfl
  found := by simp

theorem Chosen.select {settings : Settings} {seen : List String} {chosen : List Suite}
    (before : settings.Chosen seen chosen) {name : String} {suite : Suite}
    (found : settings.suite? name = some suite) :
    ∃ after, settings.select chosen name = .ok after ∧ settings.Chosen (seen ++ [name]) after := by
  -- A suite is chosen already exactly when its name has been seen.
  have named := name_of_suite? found
  have configured : ∀ other ∈ seen ++ [name], settings.Configured other := by
    intro other member
    rcases List.mem_append.mp member with earlier | last
    · exact before.configured other earlier
    · exact List.mem_singleton.mp last ▸ configured_of_suite? found
  have known : chosen.any (·.name = suite.name) = true ↔ name ∈ seen := by
    rw [← List.mem_eraseDups, ← before.named, List.mem_map, List.any_eq_true, named]
    simp
  refine ⟨_, by rw [Settings.select, found], ?_⟩
  split
  · next again =>
      refine ⟨configured, ?_, before.found⟩
      rw [eraseDups_concat, if_pos (known.mp again), before.named]
  · next new =>
      refine ⟨configured, ?_, ?_⟩
      · rw [eraseDups_concat, if_neg fun again => new (known.mpr again), ← before.named,
          List.map_append, List.map_singleton, named]
      · intro other member
        rcases List.mem_append.mp member with earlier | last
        · exact before.found other earlier
        · rw [List.mem_singleton.mp last, named, found]

theorem foldlM_select_cases {settings : Settings} {seen : List String} {chosen : List Suite}
    (start : settings.Chosen seen chosen) (names : List String) :
    (∃ suites, names.foldlM settings.select chosen = .ok suites ∧
        settings.Chosen (seen ++ names) suites) ∨
      ∃ before name after, names = before ++ name :: after ∧
        (∀ earlier ∈ before, settings.Configured earlier) ∧ ¬ settings.Configured name ∧
        names.foldlM settings.select chosen = .error (.settings (.unknownSuite name)) := by
  induction names generalizing seen chosen with
  | nil => exact Or.inl ⟨chosen, rfl, by simpa using start⟩
  | cons name rest ih =>
      rw [List.foldlM_cons]
      cases found : settings.suite? name with
      | none =>
          refine Or.inr ⟨[], name, rest, rfl, by simp, not_configured_of_suite? found, ?_⟩
          rw [select, found]
          rfl
      | some suite =>
          obtain ⟨middle, taken, chosen⟩ := start.select found
          rw [taken]
          rcases ih chosen with ⟨suites, ended, all⟩ |
            ⟨before, unknown, after, split, earlier, missing, ended⟩
          · exact Or.inl ⟨suites, ended, by simpa using all⟩
          · refine Or.inr ⟨name :: before, unknown, after, by rw [split]; rfl, ?_, missing, ended⟩
            exact List.forall_mem_cons.mpr ⟨configured_of_suite? found, earlier⟩

theorem selectAll_selection (settings : Settings) (names : List String) :
    settings.Selection names (settings.selectAll names) := by
  unfold selectAll
  split
  · next none => exact .all none
  · next some =>
      rcases foldlM_select_cases (chosen_nil settings) names with ⟨suites, ended, chosen⟩ |
        ⟨before, name, after, split, earlier, missing, ended⟩
      · rw [ended]
        rw [List.nil_append] at chosen
        exact .named some chosen.configured chosen.named chosen.found
      · rw [ended]
        exact .unknown split earlier missing

theorem Selection.failed_iff {settings : Settings} {names : List String}
    {result : Except Failure (List Suite)} (selection : settings.Selection names result) :
    (∃ failure, result = .error failure) ↔ ∃ name ∈ names, ¬ settings.Configured name := by
  cases selection with
  | unknown split _ missing =>
      exact iff_of_true ⟨_, rfl⟩ ⟨_, by simp [split], missing⟩
  | all none => simp [none]
  | named _ configured =>
      refine iff_of_false (by simp) ?_
      rintro ⟨name, member, missing⟩
      exact missing (configured name member)

theorem Selection.distinct {settings : Settings} {names : List String} {suites : List Suite}
    (selection : settings.Selection names (.ok suites)) (valid : settings.check = .ok ()) :
    (suites.map Suite.name).Nodup := by
  cases selection with
  | all => exact distinct_of_check valid
  | named _ _ named => exact named ▸ nodup_eraseDups names

end Settings

end Assay
