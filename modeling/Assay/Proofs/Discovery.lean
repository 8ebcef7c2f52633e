import Mathlib.Data.List.Nodup
import Assay.Corpus.Layout
import Assay.Proofs.Action
import Assay.Proofs.Text.Order

/-!
What discovery finds: for every group, in the order of the groups, one case for each file name in
its folder that the layout takes for the name of a case.
-/

namespace Assay

theorem Case.checkInputs_ok_iff {isFile : Path → Bool} {case : Case} :
    case.checkInputs isFile = .ok () ↔ ∀ variant ∈ case.variants, isFile variant.file = true := by
  unfold checkInputs
  split
  · next missing found =>
      refine iff_of_false (by simp) fun there => ?_
      have present := there missing (List.mem_of_find?_eq_some found)
      have absent := List.find?_some found
      simp [present] at absent
  · next found =>
      refine iff_of_true rfl fun variant member => ?_
      simpa using List.find?_eq_none.mp found variant member

theorem Case.checkInputs_error {isFile : Path → Bool} {case : Case} {failure : Failure}
    (failed : case.checkInputs isFile = .error failure) :
    ∃ earlier variant later, case.variants = earlier ++ variant :: later ∧
      (∀ other ∈ earlier, isFile other.file = true) ∧ isFile variant.file = false ∧
      failure = .missingInput case.id variant.file := by
  unfold checkInputs at failed
  split at failed
  · next missing found =>
      obtain ⟨absent, earlier, later, split, there⟩ := List.find?_eq_some_iff_append.mp found
      refine ⟨earlier, missing, later, split, fun other member => ?_, ?_,
        (Except.error.inj failed).symm⟩
      · simpa using there other member
      · simpa using absent
  · simp at failed

namespace FileTree

theorem childName?_eq_some_iff {folder location : Location} {name : String} :
    childName? folder location = some name ↔ location = folder ++ [name] := by
  unfold childName?
  constructor
  · intro found
    split at found
    · next above =>
        rw [← above]
        exact (List.dropLast_append_getLast? name found).symm
    · simp at found
  · rintro rfl
    simp

theorem mem_children_iff {tree : FileTree} {folder : Location} {name : String} {entry : Entry} :
    (name, entry) ∈ tree.children folder ↔ (folder ++ [name], entry) ∈ tree.entries := by
  simp only [children, List.mem_filterMap, Option.map_eq_some_iff, childName?_eq_some_iff,
    Prod.mk.injEq]
  constructor
  · rintro ⟨item, member, _, above, rfl, rfl⟩
    rwa [← above]
  · intro member
    exact ⟨_, member, name, rfl, rfl, rfl⟩

theorem entry_eq_some_iff {tree : FileTree} {location : Location} {entry : Entry}
    (inner : location ≠ []) :
    tree.entry? location = some entry ↔ (location, entry) ∈ tree.entries := by
  have distinct := tree.housed.distinct
  refine ⟨mem_of_found inner, fun member => ?_⟩
  unfold entry?
  rw [if_neg inner]
  generalize tree.entries = entries at *
  induction entries with
  | nil => simp at member
  | cons item rest ih =>
      rw [List.map_cons, List.nodup_cons] at distinct
      rw [List.lookup_cons]
      rcases List.mem_cons.mp member with rfl | later
      · simp
      · have other : (location == item.1) = false := by
          rw [beq_eq_false_iff_ne]
          rintro rfl
          exact distinct.1 (List.mem_map.mpr ⟨_, later, rfl⟩)
        rw [other]
        exact ih distinct.2 later

theorem children_nodup (tree : FileTree) (folder : Location) :
    ((tree.children folder).map Prod.fst).Nodup := by
  have names : (tree.children folder).map Prod.fst =
      (tree.entries.map Prod.fst).filterMap (childName? folder) := by
    simp only [children, List.map_filterMap, List.filterMap_map, Option.map_map, Function.comp_def,
      Option.map_id']
  rw [names]
  refine tree.housed.distinct.filterMap fun first second name inFirst inSecond => ?_
  rw [childName?_eq_some_iff.mp inFirst, childName?_eq_some_iff.mp inSecond]

end FileTree

namespace Corpus

theorem fileNames_eq (tree : FileTree) (folder : Site) :
    fileNames tree folder =
      (((tree.children folder).filter fun child => isListed child.2).map Prod.fst).mergeSort
        fun left right => (compare left right).isLE := by
  have texts : (((tree.children folder).map fun child => (child.1.toUTF8, child.2)).filter
      fun child => isListed child.2).filterMap (fun child => String.fromUTF8? child.1) =
        ((tree.children folder).filter fun child => isListed child.2).map Prod.fst := by
    rw [List.filter_map, List.filterMap_map, ← List.filterMap_eq_map]
    exact List.filterMap_congr fun child _ => Text.fromUTF8?_toUTF8 child.1
  have strays (others : List Stray) : ((others.map fun stray => (stray.name, stray.entry)).filter
      fun child => isListed child.2).filterMap (fun child => String.fromUTF8? child.1) = [] := by
    rw [List.filter_map, List.filterMap_map, List.filterMap_eq_nil_iff]
    exact fun stray _ => stray.nameless
  simp only [fileNames, FileTree.listing, List.filter_append, List.filterMap_append, texts, strays,
    List.append_nil]

theorem mem_fileNames_iff {tree : FileTree} {folder : Site} {name : String} :
    name ∈ fileNames tree folder ↔
      ∃ entry, tree.entry? (folder.location ++ [name]) = some entry ∧ isListed entry = true := by
  simp only [fileNames_eq, List.mem_mergeSort, List.mem_map, List.mem_filter]
  constructor
  · rintro ⟨child, ⟨member, listed⟩, rfl⟩
    have inside := FileTree.mem_children_iff.mp member
    exact ⟨child.2, (FileTree.entry_eq_some_iff (by simp)).mpr inside, listed⟩
  · rintro ⟨entry, found, listed⟩
    exact ⟨(name, entry),
      ⟨FileTree.mem_children_iff.mpr (FileTree.mem_of_found (by simp) found), listed⟩, rfl⟩

theorem fileNames_nodup (tree : FileTree) (folder : Site) :
    (fileNames tree folder).Nodup := by
  rw [fileNames_eq]
  refine (List.mergeSort_perm _ _).nodup_iff.mpr ?_
  exact (tree.children_nodup folder).sublist (List.filter_sublist.map Prod.fst)

theorem slash_notMem_of_mem_fileNames {tree : FileTree} {folder : Site} {name : String}
    (listed : name ∈ fileNames tree folder) : '/' ∉ name.toList := by
  obtain ⟨entry, found, _⟩ := mem_fileNames_iff.mp listed
  exact (FileTree.written_of_found found name (by simp)).2

theorem fileNames_ordered (tree : FileTree) (folder : Site) :
    (fileNames tree folder).Pairwise fun earlier later => (compare earlier later).isLE := by
  refine List.pairwise_mergeSort (fun _ _ _ => Std.TransCmp.isLE_trans) (fun first second => ?_) _
  have turned : compare second first = (compare first second).swap := Std.OrientedCmp.eq_swap
  rw [turned]
  cases compare first second <;> rfl

theorem fileNames_of_perm {tree : FileTree} {folder : Site} {names : List String}
    (listed : (((tree.children folder).filter fun child => isListed child.2).map Prod.fst).Perm names)
    (ordered : names.Pairwise fun earlier later => (compare earlier later).isLE) :
    fileNames tree folder = names := by
  have perm : (fileNames tree folder).Perm names := by
    rw [fileNames_eq]
    exact (List.mergeSort_perm _ _).trans listed
  refine perm.eq_of_pairwise (fun first second _ _ below above => ?_)
    (fileNames_ordered tree folder) ordered
  have same : compare first second = .eq := Std.OrientedCmp.isLE_antisymm below above
  exact Std.LawfulEqCmp.eq_of_compare same

theorem Defines.discover_eq {tree : FileTree} {working folder : Site} {group support shared : Path}
    {names : List String} (resolved : resolveFolder tree working group = .ok folder)
    (made : tree.isFile working (folder.location.path / ⟨"Makefile"⟩) = true)
    (given : includeFolder working support = .ok shared) (listed : fileNames tree folder = names) :
    discover tree working group support =
      .ok ((names.filter fun name => isCaseName name.toList).map
        (caseOf folder (includeOptions [shared] ++ ["-DINCLUDEMAIN"]))) := by
  subst listed
  unfold discover
  simp only [resolved, bind, Except.bind, made, given]
  rfl

end Corpus

namespace Layout

def includePath : Layout → Path
  | tripleFile commonInclude => commonInclude
  | defineFlags supportInclude => supportInclude

def isCaseName (layout : Layout) (name : String) : Bool :=
  match layout with
  | tripleFile _ => Corpus.Triple.isCaseName name.toList
  | defineFlags _ => Corpus.Defines.isCaseName name.toList

def caseNames (layout : Layout) (tree : FileTree) (folder : Site) : List String :=
  (Corpus.fileNames tree folder).filter layout.isCaseName

def caseOf (layout : Layout) (shared : Path) (folder : Site) (name : String) : Case :=
  match layout with
  | tripleFile _ =>
    Corpus.Triple.caseOf folder (Corpus.includeOptions [folder.location.path, shared]) name
  | defineFlags _ =>
    Corpus.Defines.caseOf folder (Corpus.includeOptions [shared] ++ ["-DINCLUDEMAIN"]) name

def caseId (layout : Layout) (folder : Site) (name : String) : String :=
  match layout with
  | tripleFile _ => Corpus.Triple.groupName folder ++ "/" ++ name
  | defineFlags _ => name

theorem caseOf_id (layout : Layout) (shared : Path) (folder : Site) (name : String) :
    (layout.caseOf shared folder name).id = layout.caseId folder name := by
  cases layout <;> rfl

variable {layout : Layout} {tree : FileTree} {working : Site}

theorem discoverGroup_ok {group : Path} {cases : List Case}
    (found : layout.discoverGroup tree working group = .ok cases) :
    ∃ folder shared, Corpus.resolveFolder tree working group = .ok folder ∧
      Corpus.includeFolder working layout.includePath = .ok shared ∧
      cases = (layout.caseNames tree folder).map (layout.caseOf shared folder) := by
  cases layout with
  | tripleFile commonInclude =>
      obtain ⟨folder, resolved, found⟩ := Outcome.bind_eq_ok_iff.mp found
      obtain ⟨shared, given, found⟩ := Outcome.bind_eq_ok_iff.mp found
      refine ⟨folder, shared, resolved, given, Outcome.eq_map_of_mapM_ok ?_ found⟩
      intro name case reached
      obtain ⟨_, _, reached⟩ := Outcome.bind_eq_ok_iff.mp reached
      exact (Except.ok.inj reached).symm
  | defineFlags supportInclude =>
      obtain ⟨folder, resolved, found⟩ := Outcome.bind_eq_ok_iff.mp found
      simp only [] at found
      split at found
      · simp [Outcome.bind_eq_ok_iff] at found
      · obtain ⟨shared, given, found⟩ := Outcome.bind_eq_ok_iff.mp found
        exact ⟨folder, shared, resolved, given, (Except.ok.inj found).symm⟩

theorem discover_singleton {group : Path} {cases : List Case}
    (found : layout.discoverGroup tree working group = .ok cases) :
    layout.discover tree working [group] = .ok cases := by
  unfold discover
  rw [List.mapM_cons, found]
  exact congrArg Except.ok (List.append_nil cases)

theorem discover_ok {groups : List Path} {cases : List Case}
    (found : layout.discover tree working groups = .ok cases) :
    ∃ folders shared, groups.mapM (Corpus.resolveFolder tree working) = .ok folders ∧
      (folders ≠ [] → Corpus.includeFolder working layout.includePath = .ok shared) ∧
      cases = folders.flatMap fun folder =>
        (layout.caseNames tree folder).map (layout.caseOf shared folder) := by
  induction groups generalizing cases with
  | nil => exact ⟨[], default, rfl, by simp, (Except.ok.inj found).symm⟩
  | cons group rest ih =>
      obtain ⟨lists, found, flat⟩ := Outcome.bind_eq_ok_iff.mp found
      rw [List.mapM_cons] at found
      obtain ⟨first, foundFirst, found⟩ := Outcome.bind_eq_ok_iff.mp found
      obtain ⟨others, foundOthers, found⟩ := Outcome.bind_eq_ok_iff.mp found
      obtain ⟨folder, shared, resolved, given, firstCases⟩ := discoverGroup_ok foundFirst
      have foundRest : layout.discover tree working rest = .ok others.flatten :=
        Outcome.bind_eq_ok_iff.mpr ⟨others, foundOthers, rfl⟩
      obtain ⟨folders, sharedRest, resolvedRest, givenRest, restCases⟩ := ih foundRest
      have same : folders.flatMap (fun folder =>
            (layout.caseNames tree folder).map (layout.caseOf sharedRest folder)) =
          folders.flatMap fun folder =>
            (layout.caseNames tree folder).map (layout.caseOf shared folder) := by
        cases folders with
        | nil => rfl
        | cons another more =>
            have alike := givenRest (by simp)
            rw [given] at alike
            rw [Except.ok.inj alike]
      refine ⟨folder :: folders, shared, ?_, fun _ => given, ?_⟩
      · rw [List.mapM_cons, resolved, resolvedRest]
        rfl
      · rw [← Except.ok.inj flat, ← Except.ok.inj found, List.flatten_cons, restCases, firstCases,
          same, List.flatMap_cons]

end Layout

end Assay
