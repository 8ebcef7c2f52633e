import Assay.Proofs.Calls
import Assay.Proofs.Identity
import Assay.Proofs.Tree

/-!
Whether the cases that discovery returns have their inputs. A triple-file group is refused as long as
an input is missing. A define-flag group goes by the names in its folder alone, where a name may also
stand for a link that leads to no file.
-/

namespace Assay

open Campaign (isThere checkInputs_ok_iff)

namespace Corpus

theorem Triple.discover_checked {tree : FileTree} {working : Site} {group common : Path}
    {cases : List Case} (found : Triple.discover tree working group common = .ok cases) :
    ∀ case ∈ cases, case.checkInputs (tree.isFile working) = .ok () := by
  obtain ⟨folder, -, found⟩ := Outcome.bind_eq_ok_iff.mp found
  obtain ⟨shared, -, found⟩ := Outcome.bind_eq_ok_iff.mp found
  intro case member
  obtain ⟨name, -, reached⟩ := Outcome.mapM_reached found case member
  obtain ⟨_, checked, same⟩ := Outcome.bind_eq_ok_iff.mp reached
  rw [← Except.ok.inj same]
  exact checked

end Corpus

namespace Layout

variable {layout : Layout} {tree : FileTree} {working : Site}

/-- What stands there is listed as a file, but no regular file is found under its path. Only a layout
that does not look its files up takes such an entry for a case. -/
def Astray (layout : Layout) (tree : FileTree) (working : Site) (location : Location) : Prop :=
  match layout with
  | tripleFile _ => False
  | defineFlags _ =>
    match tree.entry? location with
    | some (.file ..) => FileTree.pathLimit < location.path.text.utf8ByteSize
    | _ => tree.isFile working location.path = false

theorem not_astray_iff {supportInclude : Path} {location : Location} (inner : location ≠ []) :
    ¬ (defineFlags supportInclude).Astray tree working location ↔
      tree.isFile working location.path = true := by
  simp only [Astray]
  split
  · next found => rw [FileTree.isFile_path_iff inner found, Nat.not_lt]
  · rw [Bool.not_eq_false]

theorem discover_checked {commonInclude : Path} {groups : List Path} {cases : List Case}
    (found : (tripleFile commonInclude).discover tree working groups = .ok cases) :
    ∀ case ∈ cases, case.checkInputs (tree.isFile working) = .ok () := by
  obtain ⟨lists, found, flat⟩ := Outcome.bind_eq_ok_iff.mp found
  rw [← Except.ok.inj flat]
  intro case member
  obtain ⟨list, listed, inside⟩ := List.mem_flatten.mp member
  obtain ⟨group, -, reached⟩ := Outcome.mapM_reached found list listed
  exact Corpus.Triple.discover_checked reached case inside

end Layout

namespace Suite

variable {σ : Type} [Surroundings σ]

/-- The cases of a triple-file suite always have their inputs. Those of a define-flag suite have them
exactly when none of the selected entries is a link or a device without a regular file behind it, or a
file too deep to be looked up. -/
theorem discover_inputs_iff {suite : Suite} {state : σ} {cases : List Case}
    (found : suite.discover state = .ok cases) :
    ∃ folders, suite.groups.mapM
        (Corpus.resolveFolder (Surroundings.tree state) (Surroundings.working state)) =
          .ok folders ∧
      ((∀ case ∈ cases, checkInputs case state = .ok ()) ↔
        ∀ folder ∈ folders, ∀ name, suite.layout.Holds (Surroundings.tree state) folder name →
          ¬ suite.layout.Astray (Surroundings.tree state) (Surroundings.working state)
            (folder.location ++ [name])) := by
  obtain ⟨folders, shared, resolved, -, listed⟩ := Layout.discover_ok found
  refine ⟨folders, resolved, ?_⟩
  obtain ⟨suiteName, layout, groups⟩ := suite
  cases layout with
  | tripleFile commonInclude =>
      exact iff_of_true (Layout.discover_checked found) fun _ _ _ _ astray => astray
  | defineFlags supportInclude =>
      -- Both variants of a case are one file, which stands in the folder of its group.
      have each (folder : Site) (name : String)
          (holds : (Layout.defineFlags supportInclude).Holds (Surroundings.tree state) folder name) :
          checkInputs ((Layout.defineFlags supportInclude).caseOf shared folder name) state = .ok () ↔
            ¬ (Layout.defineFlags supportInclude).Astray (Surroundings.tree state)
              (Surroundings.working state) (folder.location ++ [name]) := by
        obtain ⟨⟨entry, there, -⟩, -⟩ := holds
        have written := FileTree.written_of_found there
        rw [Layout.not_astray_iff (by simp), checkInputs_ok_iff,
          ← Location.path_join folder.written (written name (by simp)).2]
        simp [Layout.caseOf, Corpus.Defines.caseOf, isThere]
      rw [listed]
      constructor
      · intro checked folder member name holds
        refine (each folder name holds).mp (checked _ ?_)
        exact List.mem_flatMap.mpr ⟨folder, member, List.mem_map.mpr
          ⟨name, Layout.mem_caseNames_iff.mpr holds, rfl⟩⟩
      · intro sound case member
        obtain ⟨folder, inside, member⟩ := List.mem_flatMap.mp member
        obtain ⟨name, named, rfl⟩ := List.mem_map.mp member
        have holds := Layout.mem_caseNames_iff.mp named
        exact (each folder name holds).mpr (sound folder inside name holds)

/-- A group with a file, a link that leads to it, and a link that leads nowhere. -/
def linked : Replay where
  tree := { entries := [
    (["s01"], .folder), (["s01", "CWE126_a.c"], .file 0 .empty false),
    (["s01", "CWE126_b.c"], .link ⟨"CWE126_a.c"⟩), (["s01", "CWE126_c.c"], .link ⟨"gone.c"⟩),
    (["s01", "Makefile"], .file 1 .empty false)] }

def linkedGroup : Suite where
  name := "juliet"
  layout := .defineFlags ⟨"support"⟩
  groups := [⟨"/s01"⟩]

def linkedCases : List Case :=
  ["CWE126_a.c", "CWE126_b.c", "CWE126_c.c"].map
    (Corpus.Defines.caseOf s01 ["-I", "/support", "-DINCLUDEMAIN"])

theorem discover_linkedGroup : linkedGroup.discover linked = .ok linkedCases := by
  have listed : Corpus.fileNames linked.tree s01 =
      ["CWE126_a.c", "CWE126_b.c", "CWE126_c.c", "Makefile"] :=
    Corpus.fileNames_of_perm (.refl _) (by decide)
  have resolved : Corpus.resolveFolder linked.tree linked.working ⟨"/s01"⟩ = .ok s01 := rfl
  have given : Corpus.includeFolder [] ⟨"support"⟩ = .ok ⟨"/support"⟩ := rfl
  exact Layout.discover_singleton (Corpus.Defines.discover_eq resolved rfl given listed)

theorem linkedGroup_astray :
    linkedGroup.discover linked = .ok linkedCases ∧
      ¬ ∀ case ∈ linkedCases, checkInputs case linked = .ok () := by
  refine ⟨discover_linkedGroup, fun checked => ?_⟩
  obtain ⟨folders, resolved, sound⟩ := discover_inputs_iff discover_linkedGroup
  obtain rfl : [s01] = folders := Except.ok.inj resolved
  exact sound.mp checked s01 (by simp) "CWE126_c.c" ⟨⟨_, rfl, rfl⟩, rfl⟩ rfl

/-- Discovery succeeds, but the file of a case that it returns is not there. -/
theorem linkedGroup_lacks_input :
    linkedGroup.discover linked = .ok linkedCases ∧
      ∃ case ∈ linkedCases, checkInputs case linked =
        .error (.missingInput "CWE126_c.c" ⟨"/s01/CWE126_c.c"⟩) := by
  refine ⟨discover_linkedGroup, linkedCases[2], by simp, rfl⟩

end Suite

end Assay
