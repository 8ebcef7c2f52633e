import Assay.Proofs.Identity
import Assay.Proofs.Tree

/-!
The options that reach a preprocessor. They are joined by spaces into one argument and cut at the spaces
again, so what arrives is what was sent exactly when no option has a space of its own. Those of a suite
have one only in the paths of its folders.
-/

namespace Assay

def CommandLine.forwarded? (line : CommandLine) : Option (List String) :=
  line.arguments.findSome? fun argument =>
    ("-cpp-extra-args=".toList.isPrefixOf? argument.toList).map fun joined =>
      (joined.splitOn ' ').map String.ofList

theorem forwarded?_commandLine (program : Path) (options : List String) (file : Path) :
    (Kind.commandLine .abstractInterpreter program options file).forwarded? =
      some (((" ".intercalate options).toList.splitOn ' ').map String.ofList) := by
  have skipped : "-cpp-extra-args=".toList.isPrefixOf? "-eva".toList = none := by decide
  unfold CommandLine.forwarded? Kind.commandLine
  rw [List.findSome?_cons, skipped, Option.map_none, List.findSome?_cons, String.toList_append,
    List.isPrefixOf?_eq_some_iff_append_eq.mpr rfl]
  rfl

theorem splitOn_joined_iff (options : List String) :
    ((" ".intercalate options).toList.splitOn ' ').map String.ofList = options ↔
      options ≠ [] ∧ ∀ option ∈ options, ' ' ∉ option.toList := by
  constructor
  · intro same
    refine ⟨fun none => ?_, fun option member => ?_⟩
    · rw [none, List.map_eq_nil_iff] at same
      exact List.splitOn_ne_nil _ _ same
    · rw [← same] at member
      obtain ⟨piece, inside, rfl⟩ := List.mem_map.mp member
      rw [String.toList_ofList]
      exact notMem_of_mem_splitOn inside
  · rintro ⟨some, spaceless⟩
    have space : " ".toList = [' '] := rfl
    rw [String.toList_intercalate, space,
      List.splitOn_intercalate ' ' (by simpa using spaceless) (by simpa using some)]
    simp [Function.comp_def]

def Layout.Spaceless (layout : Layout) (shared : Path) (folder : Site) : Prop :=
  ' ' ∉ shared.text.toList ∧
    match layout with
    | tripleFile _ => ' ' ∉ folder.location.path.text.toList
    | defineFlags _ => True

theorem Layout.forwarded_iff (layout : Layout) (shared : Path) (folder : Site) (name : String)
    (program : Path) : ∀ variant ∈ (layout.caseOf shared folder name).variants,
      (Kind.commandLine .abstractInterpreter program variant.options variant.file).forwarded? =
          some variant.options ↔ layout.Spaceless shared folder := by
  intro variant member
  rw [forwarded?_commandLine, Option.some.injEq, splitOn_joined_iff]
  cases layout with
  | tripleFile _ =>
      simp only [caseOf, Corpus.Triple.caseOf, List.mem_map] at member
      obtain ⟨part, -, rfl⟩ := member
      simp [Spaceless, Corpus.includeOptions, and_comm]
  | defineFlags _ =>
      simp only [caseOf, Corpus.Defines.caseOf, List.mem_cons, List.not_mem_nil, or_false] at member
      rcases member with rfl | rfl <;> simp [Spaceless, Corpus.includeOptions]

theorem Layout.exists_variant (layout : Layout) (shared : Path) (folder : Site) (name : String) :
    ∃ variant, variant ∈ (layout.caseOf shared folder name).variants := by
  cases layout with
  | tripleFile _ => exact ⟨_, List.mem_cons_self⟩
  | defineFlags _ => exact ⟨_, List.mem_cons_self⟩

namespace Suite

variable {σ : Type} [Surroundings σ]

/-- All options of a suite reach the preprocessor as they are, exactly when there is no space in the path
of the folder that is shared, nor, with triple files, in that of any group with a case. -/
theorem discover_forwarded_iff {suite : Suite} {state : σ} {cases : List Case}
    (found : suite.discover state = .ok cases) (program : Path) :
    ∃ folders shared, suite.groups.mapM
        (Corpus.resolveFolder (Surroundings.tree state) (Surroundings.working state)) =
          .ok folders ∧
      (folders ≠ [] → Corpus.includeFolder (Surroundings.working state) suite.layout.includePath =
        .ok shared) ∧
      ((∀ case ∈ cases, ∀ variant ∈ case.variants,
          (Kind.commandLine .abstractInterpreter program variant.options
            variant.file).forwarded? = some variant.options) ↔
        ∀ folder ∈ folders, (∃ name, suite.layout.Holds (Surroundings.tree state) folder name) →
          suite.layout.Spaceless shared folder) := by
  obtain ⟨folders, shared, resolved, given, rfl⟩ := Layout.discover_ok found
  refine ⟨folders, shared, resolved, given, ?_⟩
  constructor
  · rintro arrive folder inside ⟨name, holds⟩
    have listed := Layout.mem_caseNames_iff.mpr holds
    have case : suite.layout.caseOf shared folder name ∈ folders.flatMap fun folder =>
        (suite.layout.caseNames (Surroundings.tree state) folder).map
          (suite.layout.caseOf shared folder) :=
      List.mem_flatMap.mpr ⟨folder, inside, List.mem_map_of_mem listed⟩
    obtain ⟨variant, member⟩ := suite.layout.exists_variant shared folder name
    exact (suite.layout.forwarded_iff shared folder name program variant member).mp
      (arrive _ case variant member)
  · intro spaceless case member variant there
    obtain ⟨folder, inside, member⟩ := List.mem_flatMap.mp member
    obtain ⟨name, listed, rfl⟩ := List.mem_map.mp member
    have holds := Layout.mem_caseNames_iff.mp listed
    exact (suite.layout.forwarded_iff shared folder name program variant there).mpr
      (spaceless folder inside ⟨name, holds⟩)

theorem discover_forwarded_twoGroups :
    twoGroups.discover sameName = .ok twoCases ∧
      ∀ case ∈ twoCases, ∀ variant ∈ case.variants,
        (Kind.commandLine .abstractInterpreter ⟨"frama-c"⟩ variant.options
          variant.file).forwarded? = some variant.options := by
  refine ⟨discover_twoGroups, ?_⟩
  obtain ⟨folders, shared, resolved, given, arrive⟩ :=
    discover_forwarded_iff discover_twoGroups ⟨"frama-c"⟩
  obtain rfl : [s01, s02] = folders := Except.ok.inj resolved
  obtain rfl : (⟨"/support"⟩ : Path) = shared := Except.ok.inj (given (by simp))
  exact arrive.mpr fun folder _ _ => ⟨by decide, trivial⟩

def spacedGroup : Suite where
  name := "juliet"
  layout := .defineFlags ⟨"my support"⟩
  groups := [⟨"/s01"⟩]

def spacedCase : Case :=
  Corpus.Defines.caseOf s01 ["-I", "/my support", "-DINCLUDEMAIN"] "CWE126_a_01.c"

theorem discover_spacedGroup : spacedGroup.discover sameName = .ok [spacedCase] := by
  have listed : Corpus.fileNames sameName.tree s01 = ["CWE126_a_01.c", "Makefile"] :=
    Corpus.fileNames_of_perm (.refl _) (by decide)
  have resolved : Corpus.resolveFolder sameName.tree sameName.working ⟨"/s01"⟩ = .ok s01 := rfl
  have given : Corpus.includeFolder [] ⟨"my support"⟩ = .ok ⟨"/my support"⟩ := rfl
  exact Layout.discover_singleton (Corpus.Defines.discover_eq resolved rfl given listed)

/-- One option arrives as two. -/
theorem spacedGroup_torn :
    spacedGroup.discover sameName = .ok [spacedCase] ∧
      ∃ variant ∈ spacedCase.variants,
        variant.options = ["-I", "/my support", "-DINCLUDEMAIN", "-DOMITBAD"] ∧
        (Kind.commandLine .abstractInterpreter ⟨"frama-c"⟩ variant.options
          variant.file).forwarded? = some ["-I", "/my", "support", "-DINCLUDEMAIN", "-DOMITBAD"] := by
  refine ⟨discover_spacedGroup, _, List.mem_cons_self, rfl, ?_⟩
  decide

end Suite

end Assay
