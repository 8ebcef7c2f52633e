import Mathlib.Data.List.DropRight
import Assay.Proofs.Text.Order
import Assay.Proofs.Tree

/-!
What is found in one group. The names in a folder are taken in the order of their bytes, and those that
name a case make one each; the first case that is not complete is the one that is complained of.
-/

namespace Assay

/-- Cases that are checked one after the other are all complete, or the first one that is not stops it
with the first of its files that is missing. -/
theorem Case.checkEach_cases (isFile : Path → Bool) (cases : List Case) :
    ((∀ case ∈ cases, ∀ variant ∈ case.variants, isFile variant.file = true) ∧
        cases.mapM (fun case => do case.checkInputs isFile; return case) = .ok cases) ∨
      ∃ before case after front missing back, cases = before ++ case :: after ∧
        (∀ earlier ∈ before, ∀ variant ∈ earlier.variants, isFile variant.file = true) ∧
        case.variants = front ++ missing :: back ∧
        (∀ variant ∈ front, isFile variant.file = true) ∧ isFile missing.file = false ∧
        cases.mapM (fun case => do case.checkInputs isFile; return case) =
          .error (.missingInput case.id missing.file) := by
  rcases Outcome.forM_cases cases fun case => case.checkInputs isFile with
    ⟨passed, -⟩ | ⟨before, case, after, failure, split, passed, failed, -⟩
  · refine Or.inl ⟨fun case member => checkInputs_ok_iff.mp (passed case member), ?_⟩
    conv_rhs => rw [← List.map_id cases]
    refine Outcome.mapM_ok fun case member => ?_
    rw [passed case member]
    rfl
  · obtain ⟨front, missing, back, variants, there, absent, rfl⟩ := checkInputs_error failed
    refine Or.inr ⟨before, case, after, front, missing, back, split,
      fun earlier member => checkInputs_ok_iff.mp (passed earlier member), variants, there, absent,
      ?_⟩
    rw [split]
    refine Outcome.mapM_first_error (fun earlier member => ⟨earlier, ?_⟩) ?_
    · rw [passed earlier member]
      rfl
    · rw [failed]
      rfl

namespace Corpus

theorem resolveFolder_of_isFolder {tree : FileTree} {working : Site} {group : Path}
    (there : tree.isFolder working group = true) :
    ∃ folder : Site, tree.resolve working group = .ok folder.location ∧
      resolveFolder tree working group = .ok folder := by
  obtain ⟨location, resolved⟩ : ∃ location, tree.resolve working group = .ok location := by
    unfold FileTree.isFolder FileTree.target? at there
    unfold FileTree.resolve
    cases located : tree.locate working true group with
    | error fault => simp [located] at there
    | ok spot =>
        cases spot with
        | vacant location folderOnly => simp [located] at there
        | present location entry => exact ⟨location, rfl⟩
  obtain ⟨folder, rfl, found⟩ := FileTree.resolveSite_of_resolve resolved
  refine ⟨folder, resolved, ?_⟩
  rw [resolveFolder, if_pos there, found]
  rfl

end Corpus

theorem Path.isAbsolute_join {base : Path} (absolute : base.isAbsolute = true) (rest : Path) :
    (base / rest).isAbsolute = true := by
  change (join base rest).isAbsolute = true
  have keeps (text : String) : Path.isAbsolute ⟨base.text ++ text⟩ = true := by
    rw [isAbsolute, decide_eq_true_eq] at absolute ⊢
    rw [String.toList_append, List.head?_append, absolute]
    rfl
  unfold join
  split
  · next alone =>
      rcases Bool.or_eq_true_iff.mp alone with whole | empty
      · exact whole
      · rw [String.isEmpty_iff] at empty
        simp [isAbsolute, empty] at absolute
  · split
    · exact keeps rest.text
    · rw [String.append_assoc]
      exact keeps ("/" ++ rest.text)

theorem Location.isAbsolute_path (location : Location) : location.path.isAbsolute = true := by
  simp [Location.path, Path.isAbsolute]

theorem Location.absolute_of_ne (working : Location) {path : Path} (written : path.text ≠ "") :
    ∃ whole, working.absolute path = .ok whole ∧ whole.isAbsolute = true := by
  have below {front : Path} (absolute : front.isAbsolute = true) (names : List String) :
      (names.foldl (fun above name => above / ⟨name⟩) front).isAbsolute = true := by
    induction names generalizing front with
    | nil => exact absolute
    | cons name rest ih => exact ih (Path.isAbsolute_join absolute _)
  have front : (if path.isAbsolute then
      if "//".isPrefixOf path.text && !"///".isPrefixOf path.text then (⟨"//"⟩ : Path) else ⟨"/"⟩
      else working.path).isAbsolute = true := by
    split
    · split <;> rfl
    · exact isAbsolute_path working
  unfold absolute
  rw [if_neg written]
  refine ⟨_, rfl, ?_⟩
  split
  · exact Path.isAbsolute_join (below front _) _
  · exact below front _

namespace Corpus

theorem fileNames_sorted (tree : FileTree) (folder : Site) :
    (fileNames tree folder).Pairwise fun earlier later => Text.bytes earlier < Text.bytes later := by
  refine ((fileNames_ordered tree folder).and (fileNames_nodup tree folder)).imp
    fun {earlier later} both => ?_
  refine Text.bytes_lt_of_lt (Decidable.byContradiction fun larger => ?_)
  rcases both with ⟨small, other⟩
  change (compareOfLessAndEq earlier later).isLE = true at small
  rw [compareOfLessAndEq, if_neg larger, if_neg other] at small
  cases small

theorem isListed_iff {entry : Entry} : isListed entry = true ↔ entry ≠ .folder := by
  cases entry <;> simp [isListed]

/-- The names of the files in a folder that are of some kind, each once, in the order of their bytes. -/
def Lists (tree : FileTree) (folder : Site) (kind : List Char → Prop) (names : List String) : Prop :=
  names.Pairwise (fun earlier later => Text.bytes earlier < Text.bytes later) ∧
    ∀ name, name ∈ names ↔
      (∃ entry, tree.entry? (folder.location ++ [name]) = some entry ∧ entry ≠ .folder) ∧ kind name.toList

theorem lists_filter (tree : FileTree) (folder : Site)
    {test : List Char → Bool} {kind : List Char → Prop}
    (agrees : ∀ chars, test chars = true ↔ kind chars) :
    Lists tree folder kind ((fileNames tree folder).filter fun name => test name.toList) := by
  constructor
  · exact (fileNames_sorted tree folder).filter _
  · intro name
    simp only [List.mem_filter, mem_fileNames_iff, isListed_iff, agrees]

namespace Triple

def Numbered (chars : List Char) : Prop :=
  ∃ first second, first.isDigit = true ∧ second.isDigit = true ∧ [first, second, '_'] <:+: chars

theorem isCaseName_iff (chars : List Char) : isCaseName chars = true ↔ Numbered chars := by
  fun_induction isCaseName chars with
  | case1 first second third rest ih =>
      rw [Bool.or_eq_true, ih]
      constructor
      · rintro (here | ⟨left, right, digit, digitToo, inside⟩)
        · simp only [Bool.and_eq_true, decide_eq_true_eq] at here
          obtain ⟨⟨digit, digitToo⟩, rfl⟩ := here
          exact ⟨first, second, digit, digitToo, [], rest, rfl⟩
        · exact ⟨left, right, digit, digitToo, List.infix_cons inside⟩
      · rintro ⟨left, right, digit, digitToo, inside⟩
        rcases List.infix_cons_iff.mp inside with here | later
        · simp only [List.cons_prefix_cons] at here
          obtain ⟨rfl, rfl, rfl, -⟩ := here
          simp [digit, digitToo]
        · exact Or.inr ⟨left, right, digit, digitToo, later⟩
  | case2 chars short =>
      refine iff_of_false (by simp) ?_
      rintro ⟨left, right, -, -, before, after, rfl⟩
      match before with
      | [] => exact short left right '_' after rfl
      | [one] => exact short one left right _ rfl
      | [one, two] => exact short one two left _ rfl
      | one :: two :: three :: _ => exact short one two three _ rfl

/-- The case of a name in a group: the same file name in three folders beside it, with the same
options. -/
def caseAt (folder : Site) (shared : Path) (name : String) : Case :=
  let options := ["-I", folder.location.path.text, "-I", shared.text]
  { id := "/".intercalate (folder.location.path.components.rtake 2) ++ "/" ++ name,
    variants := [
      { label := "correct", file := Location.path (folder.location ++ ["test_correct", name]), options,
        expectation := .clean },
      { label := "catch_bad", file := Location.path (folder.location ++ ["test_correct_catch_bad", name]),
        options, expectation := .clean },
      { label := "incorrect", file := Location.path (folder.location ++ ["test_incorrect", name]), options,
        expectation := .flagged }] }

theorem caseOf_eq_caseAt (folder : Site) (shared : Path) {name : String}
    (slashless : '/' ∉ name.toList) :
    caseOf folder (includeOptions [folder.location.path, shared]) name = caseAt folder shared name := by
  have below (inner : String) (fine : inner ≠ "" ∧ '/' ∉ inner.toList) :
      folder.location.path / ⟨inner⟩ / ⟨name⟩ = Location.path (folder.location ++ [inner, name]) := by
    rw [Location.path_join folder.written fine.2,
      Location.path_join (folder.written.concat fine) slashless,
      List.append_assoc]
    rfl
  simp only [caseOf, layout, List.map_cons, List.map_nil, below "test_correct" (by decide),
    below "test_correct_catch_bad" (by decide), below "test_incorrect" (by decide)]
  rfl

theorem discover_eq {tree : FileTree} {working folder : Site} {group common shared : Path}
    (resolved : resolveFolder tree working group = .ok folder)
    (given : includeFolder working common = .ok shared) :
    discover tree working group common =
      (((fileNames tree folder).filter fun name => isCaseName name.toList).map
        (caseOf folder (includeOptions [folder.location.path, shared]))).mapM fun case => do
          case.checkInputs (tree.isFile working)
          return case := by
  unfold discover
  rw [resolved, given, List.mapM_map]
  rfl

def IsComplete (tree : FileTree) (working : Location) (case : Case) : Prop :=
  ∀ variant ∈ case.variants, tree.isFile working variant.file = true

/-- A group that is there has one case for every numbered name in it. Either all of them are complete,
or the first one that is not is complained of, with the first of its files that is missing. -/
theorem discover_exact {tree : FileTree} {working : Site} {group common : Path}
    (there : tree.isFolder working group = true) (named : common.text ≠ "") :
    ∃ (folder : Site) (shared : Path) (names : List String),
      tree.resolve working group = .ok folder.location ∧
      working.location.absolute common = .ok shared ∧ folder.location.path.isAbsolute = true ∧
      shared.isAbsolute = true ∧
      (∀ name, ∀ variant ∈ (caseAt folder shared name).variants, variant.file.isAbsolute = true) ∧
      Lists tree folder Numbered names ∧
      ((∀ name ∈ names, IsComplete tree working (caseAt folder shared name)) ∧
          discover tree working group common = .ok (names.map (caseAt folder shared)) ∨
        ∃ before name after front missing back, names = before ++ name :: after ∧
          (∀ earlier ∈ before, IsComplete tree working (caseAt folder shared earlier)) ∧
          (caseAt folder shared name).variants = front ++ missing :: back ∧
          (∀ variant ∈ front, tree.isFile working variant.file = true) ∧
          tree.isFile working missing.file = false ∧
          discover tree working group common =
            .error (.missingInput (caseAt folder shared name).id missing.file)) := by
  obtain ⟨folder, resolved, found⟩ := resolveFolder_of_isFolder there
  obtain ⟨shared, whole, absolute⟩ := Location.absolute_of_ne working named
  have given : includeFolder working common = .ok shared := by
    rw [includeFolder, whole]
    rfl
  obtain ⟨names, listed, checked⟩ : ∃ names, Lists tree folder Numbered names ∧
      discover tree working group common =
        (names.map (caseAt folder shared)).mapM fun case => do
          case.checkInputs (tree.isFile working)
          return case := by
    refine ⟨_, lists_filter tree folder isCaseName_iff, (discover_eq found given).trans ?_⟩
    rw [List.map_congr_left fun name member => caseOf_eq_caseAt folder shared
      (slash_notMem_of_mem_fileNames (List.mem_filter.mp member).1)]
  refine ⟨folder, shared, names, resolved, whole, folder.location.isAbsolute_path, absolute, ?_, listed, ?_⟩
  · simp [caseAt, Location.isAbsolute_path]
  rcases Case.checkEach_cases (tree.isFile working) (names.map (caseAt folder shared)) with
    ⟨complete, passed⟩ | ⟨_, _, _, front, missing, back, split, complete, variants, present, absent,
      failed⟩
  · exact Or.inl ⟨List.forall_mem_map.mp complete, checked.trans passed⟩
  · obtain ⟨before, _, rfl, rfl, rest⟩ := List.map_eq_append_iff.mp split
    obtain ⟨name, after, rfl, rfl, rfl⟩ := List.map_eq_cons_iff.mp rest
    exact Or.inr ⟨before, name, after, front, missing, back, rfl, List.forall_mem_map.mp complete,
      variants, present, absent, checked.trans failed⟩

/-- Two cases, and beside them a folder and a file that are none. The second case has one file. -/
def leak : FileTree where
  entries := [
    (["ts"], .folder), (["ts", "leak"], .folder),
    (["ts", "leak", "02_b.c"], .file 0 .empty false),
    (["ts", "leak", "01_a.c"], .link ⟨"02_b.c"⟩),
    (["ts", "leak", "03_c.c"], .folder),
    (["ts", "leak", "notes.txt"], .file 1 .empty false),
    (["ts", "leak", "test_correct"], .folder),
    (["ts", "leak", "test_correct", "01_a.c"], .link ⟨"../02_b.c"⟩),
    (["ts", "leak", "test_correct", "02_b.c"], .file 2 .empty false),
    (["ts", "leak", "test_correct_catch_bad"], .folder),
    (["ts", "leak", "test_correct_catch_bad", "01_a.c"], .file 3 .empty false),
    (["ts", "leak", "test_incorrect"], .link ⟨"test_correct_catch_bad"⟩)]

def leakBase : Site := { location := ["ts"] }

def leakFolder : Site := { location := ["ts", "leak"] }

theorem fileNames_leak :
    fileNames leak leakFolder = ["01_a.c", "02_b.c", "notes.txt", "test_incorrect"] :=
  fileNames_of_perm (by decide) (by decide)

/-- The second case is complained of, with the first of the two files that it lacks. -/
theorem discover_exact_leak :
    leak.isFolder leakBase ⟨"./leak"⟩ = true ∧ "common" ≠ "" ∧
      discover leak leakBase ⟨"./leak"⟩ ⟨"common"⟩ =
        .error (.missingInput "ts/leak/02_b.c" ⟨"/ts/leak/test_correct_catch_bad/02_b.c"⟩) ∧
      ∃ names, Lists leak leakFolder Numbered names ∧
        ¬ ∀ name ∈ names,
          IsComplete leak leakBase (caseAt leakFolder ⟨"/ts/common"⟩ name) := by
  have found : discover leak leakBase ⟨"./leak"⟩ ⟨"common"⟩ =
      .error (.missingInput "ts/leak/02_b.c" ⟨"/ts/leak/test_correct_catch_bad/02_b.c"⟩) := by
    have resolved : resolveFolder leak leakBase ⟨"./leak"⟩ = .ok leakFolder := rfl
    have given : includeFolder ["ts"] ⟨"common"⟩ = .ok ⟨"/ts/common"⟩ := rfl
    rw [discover_eq resolved given, fileNames_leak]
    decide +kernel
  have there : leak.isFolder leakBase ⟨"./leak"⟩ = true := rfl
  have named : (⟨"common"⟩ : Path).text ≠ "" := by decide
  refine ⟨there, named, found, ?_⟩
  obtain ⟨folder, shared, names, resolved, whole, -, -, -, listed, outcome⟩ :=
    discover_exact there named
  obtain rfl : leakFolder = folder := Site.ext (Except.ok.inj resolved)
  obtain rfl : (⟨"/ts/common"⟩ : Path) = shared := Except.ok.inj whole
  refine ⟨names, listed, fun complete => ?_⟩
  rcases outcome with ⟨-, passed⟩ | ⟨before, name, after, front, missing, back, split, -, variants, -,
    absent, -⟩
  · rw [found] at passed
    cases passed
  · have there := complete name (by simp [split]) missing (by simp [variants])
    rw [absent] at there
    cases there

end Triple

end Corpus

end Assay
