import Mathlib.Data.List.ProdSigma
import Assay.Analyzer.Basic
import Assay.Proofs.AddedFlags
import Assay.Proofs.Groups
import Assay.Proofs.Identity

/-!
The command lines of a suite. Every variant is told to an analyzer by its own command line: the file
gives away the group, the case and the folder of the variant, and what is left is told by the last
option, which no flag and no joining of options can hide.
-/

namespace Assay

namespace Kind

def front (kind : Kind) (options : List String) : List String :=
  match kind with
  | reference => "--analyze" :: withFlags options [suppressReturnType]
  | subject => withFlags options [suppressReturnType, checkOnly]
  | abstractInterpreter => ["-eva", "-cpp-extra-args=" ++ " ".intercalate options]

def Carries (kind : Kind) (options arguments : List String) : Prop :=
  match kind with
  | abstractInterpreter => arguments = ["-eva", "-cpp-extra-args=" ++ " ".intercalate options]
  | _ => options <:+: arguments

theorem commandLine_arguments (kind : Kind) (program : Path) (options : List String) (file : Path) :
    (kind.commandLine program options file).arguments = kind.front options ++ [file.text] := by
  cases kind <;> rfl

theorem carries_front (kind : Kind) (options : List String) :
    kind.Carries options (kind.front options) := by
  cases kind with
  | reference => exact (withFlags_begins options _).isInfix.trans (List.infix_cons List.infix_rfl)
  | subject => exact (withFlags_begins options _).isInfix
  | abstractInterpreter => rfl

theorem concat_inj_of_begins {base : List String} {first second : String} {whole : List String}
    (one : base ++ [first] <+: whole) (other : base ++ [second] <+: whole) : first = second := by
  obtain ⟨rest, same⟩ := one
  obtain ⟨more, rfl⟩ := other
  rw [List.append_assoc, List.append_assoc, List.append_cancel_left_eq] at same
  exact (List.cons.inj same).1

theorem joined_inj (base : List String) {first second : String}
    (same : " ".intercalate (base ++ [first]) = " ".intercalate (base ++ [second])) :
    first = second := by
  by_cases alone : base = []
  · simpa [alone] using same
  · rw [String.intercalate_append_of_ne_nil alone (by simp),
      String.intercalate_append_of_ne_nil alone (by simp)] at same
    simpa [String.ext_iff] using same

theorem front_concat_inj {kind : Kind} {base : List String} {first second : String}
    (same : kind.front (base ++ [first]) = kind.front (base ++ [second])) : first = second := by
  cases kind with
  | reference =>
      have other := withFlags_begins (base ++ [second]) [suppressReturnType]
      rw [← (List.cons.inj same).2] at other
      exact concat_inj_of_begins (withFlags_begins _ _) other
  | subject =>
      have other := withFlags_begins (base ++ [second]) [suppressReturnType, checkOnly]
      rw [← show withFlags _ _ = withFlags _ _ from same] at other
      exact concat_inj_of_begins (withFlags_begins _ _) other
  | abstractInterpreter =>
      refine joined_inj base ?_
      simpa [front, String.ext_iff] using same

theorem commandLine_concat_inj {kind : Kind} {program file other : Path} {base : List String}
    {first second : String}
    (same : kind.commandLine program (base ++ [first]) file =
      kind.commandLine program (base ++ [second]) other) : first = second := by
  have arguments := congrArg CommandLine.arguments same
  rw [commandLine_arguments, commandLine_arguments] at arguments
  exact front_concat_inj (List.append_inj_left' arguments rfl)

theorem file_of_commandLine {kind : Kind} {program file other : Path} {options more : List String}
    (same : kind.commandLine program options file = kind.commandLine program more other) :
    file = other := by
  have arguments := congrArg CommandLine.arguments same
  rw [commandLine_arguments, commandLine_arguments] at arguments
  have texts := List.append_inj_right' arguments rfl
  cases file
  cases other
  simpa using texts

end Kind

namespace Layout

/-- The folders between a group and the file of a variant, and its last option. -/
def parts (layout : Layout) (shared : Path) : List (Location × String) :=
  match layout with
  | tripleFile _ => [(["test_correct"], shared.text), (["test_correct_catch_bad"], shared.text),
      (["test_incorrect"], shared.text)]
  | defineFlags _ => [([], "-DOMITBAD"), ([], "-DOMITGOOD")]

def leading (layout : Layout) (shared : Path) (folder : Site) : List String :=
  match layout with
  | tripleFile _ => ["-I", folder.location.path.text, "-I"]
  | defineFlags _ => ["-I", shared.text, "-DINCLUDEMAIN"]

variable {layout : Layout} {shared : Path}

theorem parts_nodup : (layout.parts shared).Nodup := by
  cases layout <;> simp [parts]

theorem parts_written {part : Location × String} (member : part ∈ layout.parts shared) :
    part.1.Written := by
  cases layout with
  | tripleFile _ =>
      simp only [parts, List.mem_cons, List.not_mem_nil, or_false] at member
      rcases member with rfl | rfl | rfl <;> simp [Location.Written]
  | defineFlags _ =>
      simp only [parts, List.mem_cons, List.not_mem_nil, or_false] at member
      rcases member with rfl | rfl <;> simp [Location.Written]

theorem parts_length {part other : Location × String} (member : part ∈ layout.parts shared)
    (listed : other ∈ layout.parts shared) : part.1.length = other.1.length := by
  cases layout with
  | tripleFile _ =>
      simp only [parts, List.mem_cons, List.not_mem_nil, or_false] at member listed
      rcases member with rfl | rfl | rfl <;> rcases listed with rfl | rfl | rfl <;> rfl
  | defineFlags _ =>
      simp only [parts, List.mem_cons, List.not_mem_nil, or_false] at member listed
      rcases member with rfl | rfl <;> rcases listed with rfl | rfl <;> rfl

theorem caseOf_variants {folder : Site} {name : String} (slashless : '/' ∉ name.toList) :
    (layout.caseOf shared folder name).variants.map
        (fun variant => (variant.options, variant.file)) =
      (layout.parts shared).map fun part =>
        (layout.leading shared folder ++ [part.2],
          Location.path (folder.location ++ part.1 ++ [name])) := by
  cases layout with
  | tripleFile _ =>
      have case := Corpus.Triple.caseOf_eq_caseAt folder shared slashless
      simp only [caseOf, case, parts, List.map_cons, List.map_nil, List.append_assoc]
      rfl
  | defineFlags _ =>
      have here := Location.path_join folder.written slashless
      simp only [caseOf, Corpus.Defines.caseOf, List.map_cons, List.map_nil, here, parts,
        List.append_nil]
      rfl

theorem position_of_commandLine {kind : Kind} {program : Path} {folder elsewhere : Site}
    {name other : String} {part another : Location × String} (slashless : '/' ∉ name.toList)
    (slashlessToo : '/' ∉ other.toList) (member : part ∈ layout.parts shared)
    (listed : another ∈ layout.parts shared)
    (same : kind.commandLine program (layout.leading shared folder ++ [part.2])
        (Location.path (folder.location ++ part.1 ++ [name])) =
      kind.commandLine program (layout.leading shared elsewhere ++ [another.2])
        (Location.path (elsewhere.location ++ another.1 ++ [other]))) :
    folder = elsewhere ∧ name = other ∧ part = another := by
  have pure {front inner : Location} {last : String} (one : front.Written) (two : inner.Written)
      (three : '/' ∉ last.toList) : ∀ name ∈ front ++ inner ++ [last], '/' ∉ name.toList := by
    intro name member
    simp only [List.mem_append, List.mem_singleton, or_assoc] at member
    rcases member with above | between | rfl
    · exact (one name above).2
    · exact (two name between).2
    · exact three
  have places := Location.path_inj
    (pure folder.written (parts_written member) slashless)
    (pure elsewhere.written (parts_written listed) slashlessToo) (by simp) (by simp)
    (Kind.file_of_commandLine same)
  have names := List.append_inj_right' places rfl
  have folders := List.append_inj' (List.append_inj_left' places rfl) (parts_length member listed)
  obtain rfl : folder = elsewhere := Site.ext folders.1
  exact ⟨rfl, (List.cons.inj names).1, Prod.ext folders.2 (Kind.commandLine_concat_inj same)⟩

/-- Where the variants of a suite stand: in which group, for which case and as which part of it. -/
def positions (layout : Layout) (tree : FileTree) (shared : Path) (folders : List Site) :
    List (Σ _ : Site, String × Location × String) :=
  folders.sigma fun folder => layout.caseNames tree folder ×ˢ layout.parts shared

theorem slashless_of_mem_caseNames {tree : FileTree} {folder : Site} {name : String}
    (listed : name ∈ layout.caseNames tree folder) : '/' ∉ name.toList :=
  Corpus.slash_notMem_of_mem_fileNames (List.mem_filter.mp listed).1

theorem commandLines_eq (tree : FileTree) (folders : List Site) (kind : Kind) (program : Path) :
    ((folders.flatMap fun folder => (layout.caseNames tree folder).map
        (layout.caseOf shared folder)).flatMap Case.variants).map
          (fun variant => kind.commandLine program variant.options variant.file) =
      (layout.positions tree shared folders).map fun position =>
        kind.commandLine program (layout.leading shared position.1 ++ [position.2.2.2])
          (Location.path (position.1.location ++ position.2.2.1 ++ [position.2.1])) := by
  calc _ = folders.flatMap fun folder => (layout.caseNames tree folder).flatMap fun name =>
          ((layout.caseOf shared folder name).variants.map fun variant =>
            (variant.options, variant.file)).map fun told => kind.commandLine program told.1 told.2 := by
        simp only [List.flatMap_assoc, List.map_flatMap, List.flatMap_map, List.map_map,
          Function.comp_def]
    _ = folders.flatMap fun folder => (layout.caseNames tree folder).flatMap fun name =>
          ((layout.parts shared).map fun part => (layout.leading shared folder ++ [part.2],
            Location.path (folder.location ++ part.1 ++ [name]))).map fun told =>
              kind.commandLine program told.1 told.2 := by
        refine List.flatMap_congr fun folder _ => List.flatMap_congr fun name listed => ?_
        rw [caseOf_variants (slashless_of_mem_caseNames listed)]
    _ = _ := by
        simp only [positions, List.sigma, SProd.sprod, List.product, List.map_flatMap, List.map_map,
          Function.comp_def]

theorem commandLines_nodup {tree : FileTree} {folders : List Site} (different : folders.Nodup)
    (kind : Kind) (program : Path) :
    (((folders.flatMap fun folder => (layout.caseNames tree folder).map
        (layout.caseOf shared folder)).flatMap Case.variants).map
          fun variant => kind.commandLine program variant.options variant.file).Nodup := by
  have distinct : (layout.positions tree shared folders).Nodup :=
    different.sigma fun folder =>
      ((Corpus.fileNames_nodup tree folder).filter _).product parts_nodup
  rw [commandLines_eq]
  refine List.Nodup.map_on ?_ distinct
  rintro ⟨folder, name, part⟩ member ⟨elsewhere, other, another⟩ listed same
  rw [positions, List.mem_sigma, List.mem_product] at member listed
  obtain ⟨rfl, rfl, rfl⟩ := position_of_commandLine (slashless_of_mem_caseNames member.2.1)
    (slashless_of_mem_caseNames listed.2.1) member.2.2 listed.2.2 same
  rfl

end Layout

/-- If the groups of a suite are different folders, then every two variants that are discovered have
different command lines, whichever analyzer is to read them. Each command line ends with the file of
its variant, after arguments that carry all of its options. -/
theorem Suite.commandLines_distinct {σ : Type} [Surroundings σ] {suite : Suite} {state : σ}
    {cases : List Case} {folders : List Site}
    (resolved : suite.groups.mapM
      (Corpus.resolveFolder (Surroundings.tree state) (Surroundings.working state)) = .ok folders)
    (different : folders.Nodup) (found : suite.discover state = .ok cases) (kind : Kind)
    (program : Path) :
    ((cases.flatMap Case.variants).map fun variant =>
        kind.commandLine program variant.options variant.file).Nodup ∧
      ∀ variant ∈ cases.flatMap Case.variants, ∃ front,
        (kind.commandLine program variant.options variant.file).arguments =
          front ++ [variant.file.text] ∧ kind.Carries variant.options front := by
  obtain ⟨places, shared, same, -, rfl⟩ := Layout.discover_ok found
  obtain rfl : places = folders := Except.ok.inj (same.symm.trans resolved)
  constructor
  · exact Layout.commandLines_nodup different kind program
  · intro variant _
    exact ⟨kind.front variant.options, kind.commandLine_arguments program _ _, kind.carries_front _⟩

/-- Two groups with the same file name make four command lines. -/
theorem Suite.commandLines_distinct_twoGroups :
    twoGroups.groups.mapM
        (Corpus.resolveFolder (Surroundings.tree sameName) (Surroundings.working sameName)) =
          .ok [s01, s02] ∧ [s01, s02].Nodup ∧
      twoGroups.discover sameName = .ok twoCases ∧
      ((twoCases.flatMap Case.variants).map fun variant => (Kind.commandLine .abstractInterpreter
        ⟨"frama-c"⟩ variant.options variant.file).arguments) = [
          ["-eva", "-cpp-extra-args=-I /support -DINCLUDEMAIN -DOMITBAD", "/s01/CWE126_a_01.c"],
          ["-eva", "-cpp-extra-args=-I /support -DINCLUDEMAIN -DOMITGOOD", "/s01/CWE126_a_01.c"],
          ["-eva", "-cpp-extra-args=-I /support -DINCLUDEMAIN -DOMITBAD", "/s02/CWE126_a_01.c"],
          ["-eva", "-cpp-extra-args=-I /support -DINCLUDEMAIN -DOMITGOOD", "/s02/CWE126_a_01.c"]] ∧
      ((twoCases.flatMap Case.variants).map fun variant => Kind.commandLine .abstractInterpreter
        ⟨"frama-c"⟩ variant.options variant.file).Nodup := by
  have different : [s01, s02].Nodup := by decide
  exact ⟨rfl, different, discover_twoGroups, rfl,
    (commandLines_distinct rfl different discover_twoGroups _ _).1⟩

end Assay
