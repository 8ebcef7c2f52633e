import Assay.SuiteRun
import Assay.Proofs.Batch
import Assay.Proofs.Discovery
import Assay.Proofs.Trial

/-!
When the ids of a suite tell its cases apart. Ids are made group by group, and results are kept by
id: where two groups make the same id, the results have one case less than the suite.
-/

namespace Assay

namespace Layout

def Holds (layout : Layout) (tree : FileTree) (folder : Site) (name : String) : Prop :=
  (∃ entry, tree.entry? (folder.location ++ [name]) = some entry ∧ Corpus.isListed entry = true) ∧
    layout.isCaseName name = true

/-- Both folders hold a case of one name, and nothing in front of the name tells the two apart. -/
def Clash (layout : Layout) (tree : FileTree) (first second : Site) : Prop :=
  (∃ name, layout.Holds tree first name ∧ layout.Holds tree second name) ∧
    match layout with
    | tripleFile _ => Corpus.Triple.groupName first = Corpus.Triple.groupName second
    | defineFlags _ => True

def Apart (layout : Layout) (tree : FileTree) (folders : List Site) : Prop :=
  folders.Pairwise fun first second => ¬ layout.Clash tree first second

variable {layout : Layout} {tree : FileTree}

theorem mem_caseNames_iff {folder : Site} {name : String} :
    name ∈ layout.caseNames tree folder ↔ layout.Holds tree folder name := by
  rw [caseNames, List.mem_filter, Corpus.mem_fileNames_iff, Holds]

theorem append_slash_inj {left right name other : List Char} (noSlash : '/' ∉ name)
    (noOther : '/' ∉ other) (same : left ++ '/' :: name = right ++ '/' :: other) :
    left = right ∧ name = other := by
  rcases List.append_eq_append_iff.mp same with ⟨rest, front, back⟩ | ⟨rest, front, back⟩
  · cases rest with
    | nil => exact ⟨by simpa using front.symm, (List.cons.inj back).2⟩
    | cons c more =>
        have inside : '/' ∈ name := by simp [(List.cons.inj back).2]
        exact absurd inside noSlash
  · cases rest with
    | nil => exact ⟨by simpa using front, (List.cons.inj back).2.symm⟩
    | cons c more =>
        have inside : '/' ∈ other := by simp [(List.cons.inj back).2]
        exact absurd inside noOther

theorem caseId_eq_iff {first second : Site} {name other : String} (noSlash : '/' ∉ name.toList)
    (noOther : '/' ∉ other.toList) :
    layout.caseId first name = layout.caseId second other ↔ name = other ∧
      match layout with
      | tripleFile _ => Corpus.Triple.groupName first = Corpus.Triple.groupName second
      | defineFlags _ => True := by
  cases layout with
  | tripleFile _ =>
      constructor
      · intro same
        have chars := congrArg String.toList same
        simp only [caseId, String.toList_append, List.append_assoc] at chars
        obtain ⟨groups, names⟩ := append_slash_inj noSlash noOther chars
        exact ⟨String.toList_inj.mp names, String.toList_inj.mp groups⟩
      · rintro ⟨rfl, groups⟩
        simp only [caseId, groups]
  | defineFlags _ => simp [caseId]

theorem ids_nodup_iff (folders : List Site) (shared : Path) :
    ((folders.flatMap fun folder =>
        (layout.caseNames tree folder).map (layout.caseOf shared folder)).map Case.id).Nodup ↔
      layout.Apart tree folders := by
  have noSlash {folder : Site} {name : String} (member : name ∈ layout.caseNames tree folder) :
      '/' ∉ name.toList :=
    Corpus.slash_notMem_of_mem_fileNames (List.mem_filter.mp member).1
  have ids : (folders.flatMap fun folder =>
        (layout.caseNames tree folder).map (layout.caseOf shared folder)).map Case.id =
      folders.flatMap fun folder => (layout.caseNames tree folder).map (layout.caseId folder) := by
    simp only [List.map_flatMap, List.map_map, Function.comp_def, caseOf_id]
  have inFolder (folder : Site) :
      ((layout.caseNames tree folder).map (layout.caseId folder)).Nodup := by
    refine List.Nodup.map_on (fun name member other otherMember same => ?_)
      ((Corpus.fileNames_nodup tree folder).filter _)
    exact ((caseId_eq_iff (noSlash member) (noSlash otherMember)).mp same).1
  have between (first second : Site) :
      List.Disjoint ((layout.caseNames tree first).map (layout.caseId first))
          ((layout.caseNames tree second).map (layout.caseId second)) ↔
        ¬ layout.Clash tree first second := by
    constructor
    · rintro apart ⟨⟨name, inFirst, inSecond⟩, groups⟩
      have member := mem_caseNames_iff.mpr inFirst
      have otherMember := mem_caseNames_iff.mpr inSecond
      refine apart (List.mem_map.mpr ⟨name, member, rfl⟩) (List.mem_map.mpr ⟨name, otherMember, ?_⟩)
      exact ((caseId_eq_iff (noSlash member) (noSlash otherMember)).mpr ⟨rfl, groups⟩).symm
    · intro clear id inFirst inSecond
      obtain ⟨name, member, rfl⟩ := List.mem_map.mp inFirst
      obtain ⟨other, otherMember, same⟩ := List.mem_map.mp inSecond
      obtain ⟨rfl, groups⟩ :=
        (caseId_eq_iff (noSlash member) (noSlash otherMember)).mp same.symm
      exact clear ⟨⟨name, mem_caseNames_iff.mp member,
        mem_caseNames_iff.mp otherMember⟩, groups⟩
  rw [ids, List.nodup_flatMap, and_iff_right fun folder _ => inFolder folder, Apart]
  exact List.Pairwise.iff fun first second => between first second

end Layout

namespace Suite

variable {σ : Type} [Surroundings σ]

/-- The cases of a suite have different ids exactly when no two of its folders clash, and only then
has every case its own entry in the results and its own place in the number of cases. -/
theorem discover_apart_iff {suite : Suite} {state : σ} {cases : List Case}
    (found : suite.discover state = .ok cases) :
    ∃ folders, suite.groups.mapM
        (Corpus.resolveFolder (Surroundings.tree state) (Surroundings.working state)) =
          .ok folders ∧
      ((cases.map Case.id).Nodup ↔ suite.layout.Apart (Surroundings.tree state) folders) ∧
      ∀ (analyzers : List (Analyzer σ)) order (start : σ) results, analyzers ≠ [] →
        Campaign.Complete order (Campaign.units analyzers cases) →
        ((Campaign.runIn order analyzers cases).outcome start).1 = .ok results →
        (results.cases.keys.Perm (cases.map Case.id) ↔
          suite.layout.Apart (Surroundings.tree state) folders) ∧
        ∀ totals, Totals.ofResults results = .ok totals →
          (totals.cases = cases.length ↔
            suite.layout.Apart (Surroundings.tree state) folders) := by
  obtain ⟨folders, shared, resolved, -, listed⟩ := Layout.discover_ok found
  have distinct : (cases.map Case.id).Nodup ↔
      suite.layout.Apart (Surroundings.tree state) folders := by
    rw [listed]
    exact Layout.ids_nodup_iff folders shared
  refine ⟨folders, resolved, distinct, ?_⟩
  intro analyzers order start results enabled complete given
  have keys := Campaign.runIn_keys enabled complete given
  constructor
  · rw [← distinct]
    constructor
    · intro perm
      exact perm.nodup_iff.mp results.cases.keys_nodup
    · intro nodup
      exact (List.perm_ext_iff_of_nodup results.cases.keys_nodup nodup).mpr keys
  · intro totals counted
    obtain ⟨tools, _, counted⟩ := Outcome.bind_eq_ok_iff.mp counted
    rw [← Except.ok.inj counted, ← distinct, ← OrderedMap.size_eq_length_iff keys, List.length_map]

def sameName : Replay where
  tree := { entries := [
    (["s01"], .folder), (["s01", "CWE126_a_01.c"], .file 0 .empty false),
    (["s01", "Makefile"], .file 1 .empty false),
    (["s02"], .folder), (["s02", "CWE126_a_01.c"], .file 2 .empty false),
    (["s02", "Makefile"], .file 3 .empty false)] }

def twoGroups : Suite where
  name := "juliet"
  layout := .defineFlags ⟨"support"⟩
  groups := [⟨"/s01"⟩, ⟨"/s02"⟩]

def s01 : Site := { location := ["s01"] }

def s02 : Site := { location := ["s02"] }

def twoCases : List Case :=
  [s01, s02].map fun folder =>
    Corpus.Defines.caseOf folder ["-I", "/support", "-DINCLUDEMAIN"] "CWE126_a_01.c"

theorem discover_twoGroups : twoGroups.discover sameName = .ok twoCases := by
  have ordered : ["CWE126_a_01.c", "Makefile"].Pairwise fun earlier later =>
      (compare earlier later).isLE := by decide
  have first : Corpus.fileNames sameName.tree s01 = ["CWE126_a_01.c", "Makefile"] :=
    Corpus.fileNames_of_perm (.refl _) ordered
  have second : Corpus.fileNames sameName.tree s02 = ["CWE126_a_01.c", "Makefile"] :=
    Corpus.fileNames_of_perm (.refl _) ordered
  have group (path : Path) (folder : Site)
      (resolved : Corpus.resolveFolder sameName.tree sameName.working path = .ok folder)
      (made : sameName.tree.isFile sameName.working (folder.location.path / ⟨"Makefile"⟩))
      (listed : Corpus.fileNames sameName.tree folder = ["CWE126_a_01.c", "Makefile"]) :
      twoGroups.layout.discoverGroup sameName.tree sameName.working path =
        .ok [Corpus.Defines.caseOf folder ["-I", "/support", "-DINCLUDEMAIN"] "CWE126_a_01.c"] := by
    have given : Corpus.includeFolder [] ⟨"support"⟩ = .ok ⟨"/support"⟩ := rfl
    exact Corpus.Defines.discover_eq resolved made given listed
  unfold Suite.discover Layout.discover
  change ([⟨"/s01"⟩, ⟨"/s02"⟩].mapM
    (twoGroups.layout.discoverGroup sameName.tree sameName.working) >>= _) = _
  rw [List.mapM_cons, group ⟨"/s01"⟩ s01 rfl rfl first, List.mapM_cons,
    group ⟨"/s02"⟩ s02 rfl rfl second]
  rfl

theorem twoGroups_clash :
    twoGroups.discover sameName = .ok twoCases ∧
      ∃ folders, twoGroups.groups.mapM
          (Corpus.resolveFolder (Surroundings.tree sameName) (Surroundings.working sameName)) =
            .ok folders ∧
        ¬ twoGroups.layout.Apart (Surroundings.tree sameName) folders := by
  obtain ⟨folders, resolved, distinct, _⟩ := discover_apart_iff discover_twoGroups
  exact ⟨discover_twoGroups, folders, resolved,
    fun apart => absurd (distinct.mpr apart) (by decide)⟩

def silent : Analyzer Replay := .ofProgram (fun _ => pure {}) .reference ⟨"clang"⟩ true

/-- The folders are different and discovery succeeds, but the results have one of the two cases. -/
theorem twoGroups_lose_case :
    twoGroups.groups.mapM
        (Corpus.resolveFolder (Surroundings.tree sameName) (Surroundings.working sameName)) =
          .ok [s01, s02] ∧ s01 ≠ s02 ∧
      twoGroups.discover sameName = .ok twoCases ∧ ¬ (twoCases.map Case.id).Nodup ∧
      ∃ results totals, ((Campaign.run [silent] twoCases).outcome sameName).1 = .ok results ∧
        results.cases.keys = ["CWE126_a_01.c"] ∧ Totals.ofResults results = .ok totals ∧
        totals.cases = 1 ∧ twoCases.length = 2 := by
  refine ⟨rfl, by decide, discover_twoGroups, by decide, ?_⟩
  exact ⟨_, _, rfl, rfl, rfl, rfl, rfl⟩

end Suite

end Assay
