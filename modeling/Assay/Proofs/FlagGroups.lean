import Assay.Proofs.Groups

/-!
What is found in one define-flag group. The first `cwe` of a name leaves more of the name behind it than
any later one, so a name with a `.c` behind some `cwe` has one behind the first.
-/

namespace Assay.Corpus

theorem Lists.nodup {tree : FileTree} {folder : Site} {kind : List Char → Prop}
    {names : List String} (listed : Lists tree folder kind names) : names.Nodup := by
  refine listed.1.imp fun {earlier later} before same => ?_
  rw [same] at before
  exact List.lt_irrefl _ before

theorem Lists.unique {tree : FileTree} {folder : Site} {kind : List Char → Prop}
    {names others : List String} (listed : Lists tree folder kind names)
    (listedToo : Lists tree folder kind others) : names = others := by
  have perm : names.Perm others :=
    (List.perm_ext_iff_of_nodup listed.nodup listedToo.nodup).mpr fun name =>
      (listed.2 name).trans (listedToo.2 name).symm
  refine perm.eq_of_pairwise (fun earlier later _ _ before after => ?_) listed.1 listedToo.1
  exact absurd (List.lt_trans before after) (List.lt_irrefl _)

namespace Defines

theorem afterFirst?_split {pattern text rest : List Char}
    (found : afterFirst? pattern text = some rest) : ∃ before, text = before ++ pattern ++ rest := by
  induction text with
  | nil =>
      by_cases empty : pattern = []
      · simp only [afterFirst?, empty, ↓reduceIte, Option.some.injEq] at found
        exact ⟨[], by simp [empty, ← found]⟩
      · simp [afterFirst?, empty] at found
  | cons c text ih =>
      rw [afterFirst?] at found
      by_cases here : pattern.isPrefixOf (c :: text) = true
      · rw [if_pos here, Option.some.injEq] at found
        have split := List.prefix_iff_eq_append.mp (List.isPrefixOf_iff_prefix.mp here)
        exact ⟨[], by rw [← found, List.nil_append, split]⟩
      · rw [if_neg here] at found
        obtain ⟨before, rfl⟩ := ih found
        exact ⟨c :: before, rfl⟩

theorem afterFirst?_of_split {pattern before after : List Char} :
    ∃ rest, afterFirst? pattern (before ++ pattern ++ after) = some rest ∧ after <:+ rest := by
  generalize whole : before ++ pattern ++ after = text
  induction text generalizing before with
  | nil =>
      simp only [List.append_eq_nil_iff] at whole
      obtain ⟨⟨-, rfl⟩, rfl⟩ := whole
      exact ⟨[], rfl, List.suffix_rfl⟩
  | cons c text ih =>
      rw [afterFirst?]
      by_cases here : pattern.isPrefixOf (c :: text) = true
      · rw [if_pos here]
        refine ⟨_, rfl, ?_⟩
        -- The pattern stands no earlier in front of `after` than at the very start.
        refine List.suffix_of_suffix_length_le ⟨before ++ pattern, whole⟩ (List.drop_suffix _ _) ?_
        simp only [← whole, List.length_drop, List.length_append]
        omega
      · rw [if_neg here]
        cases before with
        | nil => exact absurd (List.isPrefixOf_iff_prefix.mpr ⟨after, by simpa using whole⟩) here
        | cons d before => exact ih (List.cons.inj whole).2

def Coded (chars : List Char) : Prop :=
  ∃ before between after,
    chars.map Char.toLower = before ++ "cwe".toList ++ between ++ ".c".toList ++ after

theorem isCaseName_iff (chars : List Char) : isCaseName chars = true ↔ Coded chars := by
  unfold isCaseName Coded
  generalize chars.map Char.toLower = text
  constructor
  · intro selected
    split at selected
    · next rest found =>
        obtain ⟨before, rfl⟩ := afterFirst?_split found
        obtain ⟨after, found⟩ := Option.isSome_iff_exists.mp selected
        obtain ⟨between, rfl⟩ := afterFirst?_split found
        exact ⟨before, between, after, by simp only [List.append_assoc]⟩
    · cases selected
  · rintro ⟨before, between, after, rfl⟩
    obtain ⟨rest, found, behind⟩ :=
      @afterFirst?_of_split "cwe".toList before (between ++ ".c".toList ++ after)
    obtain ⟨more, rfl⟩ := behind
    obtain ⟨_, foundToo, -⟩ := @afterFirst?_of_split ".c".toList (more ++ between) after
    simp only [List.append_assoc] at found foundToo ⊢
    simp only [found, foundToo, Option.isSome_some]

def caseAt (folder : Site) (shared : Path) (name : String) : Case :=
  let file := Location.path (folder.location ++ [name])
  let options (define : String) := ["-I", shared.text, "-DINCLUDEMAIN", define]
  { id := name,
    variants := [
      { label := "correct", file, options := options "-DOMITBAD", expectation := .clean },
      { label := "incorrect", file, options := options "-DOMITGOOD", expectation := .flagged }] }

theorem caseOf_eq_caseAt (folder : Site) (shared : Path) {name : String}
    (slashless : '/' ∉ name.toList) :
    caseOf folder (includeOptions [shared] ++ ["-DINCLUDEMAIN"]) name = caseAt folder shared name := by
  simp only [caseOf, Location.path_join folder.written slashless]
  rfl

theorem discover_without_makefile {tree : FileTree} {working folder : Site} {group support : Path}
    (resolved : resolveFolder tree working group = .ok folder)
    (lacking : tree.isFile working (folder.location.path / ⟨"Makefile"⟩) = false) :
    discover tree working group support =
      .error (.missingInput group.text (folder.location.path / ⟨"Makefile"⟩)) := by
  unfold discover
  simp only [resolved, bind, Except.bind, lacking]
  rfl

/-- A group that is there has one case for every coded name in it, unless there is no makefile: then the
makefile is what is missing. -/
theorem discover_listed {tree : FileTree} {working : Site} {group support : Path}
    (there : tree.isFolder working group = true) (named : support.text ≠ "") :
    ∃ (folder : Site) (shared : Path) (names : List String),
      tree.resolve working group = .ok folder.location ∧
      working.location.absolute support = .ok shared ∧ folder.location.path.isAbsolute = true ∧
      shared.isAbsolute = true ∧
      (∀ name, ∀ variant ∈ (caseAt folder shared name).variants, variant.file.isAbsolute = true) ∧
      Lists tree folder Coded names ∧
      (discover tree working group support =
          .error (.missingInput group.text (Location.path (folder.location ++ ["Makefile"]))) ↔
        tree.isFile working (Location.path (folder.location ++ ["Makefile"])) = false) ∧
      (tree.isFile working (Location.path (folder.location ++ ["Makefile"])) = true →
        discover tree working group support = .ok (names.map (caseAt folder shared))) := by
  obtain ⟨folder, resolved, found⟩ := resolveFolder_of_isFolder there
  obtain ⟨shared, whole, absolute⟩ := Location.absolute_of_ne working named
  have given : includeFolder working support = .ok shared := by
    rw [includeFolder, whole]
    rfl
  have makefile : folder.location.path / ⟨"Makefile"⟩ =
      Location.path (folder.location ++ ["Makefile"]) :=
    Location.path_join folder.written (by decide)
  have cases (made : tree.isFile working (Location.path (folder.location ++ ["Makefile"])) = true) :
      discover tree working group support =
        .ok (((fileNames tree folder).filter fun name => isCaseName name.toList).map
          (caseAt folder shared)) := by
    rw [← makefile] at made
    rw [discover_eq found made given rfl]
    refine congrArg Except.ok (List.map_congr_left fun name member => ?_)
    exact caseOf_eq_caseAt folder shared
      (slash_notMem_of_mem_fileNames (List.mem_filter.mp member).1)
  refine ⟨folder, shared, _, resolved, whole, folder.location.isAbsolute_path, absolute, ?_,
    lists_filter tree folder isCaseName_iff, ?_, cases⟩
  · simp [caseAt, Location.isAbsolute_path]
  constructor
  · intro failed
    by_contra made
    rw [cases (by simpa using made)] at failed
    cases failed
  · intro lacking
    rw [← makefile] at lacking ⊢
    exact discover_without_makefile found lacking

/-- Names with a `cwe` and a `.c` in them: two of cases, one in the wrong order, one of a folder, and one
with a byte that spells no text. -/
def overread : FileTree where
  entries := [
    (["w"], .folder), (["w", "s01"], .folder), (["w", "all.mk"], .file 0 .empty false),
    (["w", "s01", "Makefile"], .link ⟨"../all.mk"⟩),
    (["w", "s01", "xcwCWEcwe.Cpp"], .link ⟨"gone.c"⟩),
    (["w", "s01", "io.c_cwe"], .file 1 .empty false),
    (["w", "s01", "CWE126_a.c"], .file 2 .empty false),
    (["w", "s01", "CWE127.c"], .folder)]
  strays := [
    { folder := ["w", "s01"]
      name := ⟨#[0x63, 0x77, 0x65, 0xff, 0x2e, 0x63]⟩
      entry := .file 3 .empty false
      nameless := by decide }]

def overreadBase : Site := { location := ["w"] }

def overreadFolder : Site := { location := ["w", "s01"] }

theorem fileNames_overread :
    fileNames overread overreadFolder = ["CWE126_a.c", "Makefile", "io.c_cwe", "xcwCWEcwe.Cpp"] :=
  fileNames_of_perm (by decide) (by decide)

theorem discover_listed_overread :
    overread.isFolder overreadBase ⟨"s01"⟩ = true ∧ "sup" ≠ "" ∧
      Lists overread overreadFolder Coded ["CWE126_a.c", "xcwCWEcwe.Cpp"] ∧
      discover overread overreadBase ⟨"s01"⟩ ⟨"sup"⟩ =
        .ok (["CWE126_a.c", "xcwCWEcwe.Cpp"].map (caseAt overreadFolder ⟨"/w/sup"⟩)) := by
  have there : overread.isFolder overreadBase ⟨"s01"⟩ = true := rfl
  have named : (⟨"sup"⟩ : Path).text ≠ "" := by decide
  have known : Lists overread overreadFolder Coded ["CWE126_a.c", "xcwCWEcwe.Cpp"] := by
    have listed := lists_filter overread overreadFolder isCaseName_iff
    rw [fileNames_overread] at listed
    exact listed
  obtain ⟨folder, shared, names, resolved, whole, -, -, -, listed, -, found⟩ :=
    discover_listed there named
  obtain rfl : overreadFolder = folder := Site.ext (Except.ok.inj resolved)
  obtain rfl : (⟨"/w/sup"⟩ : Path) = shared := Except.ok.inj whole
  obtain rfl := listed.unique known
  exact ⟨there, named, known, found rfl⟩

end Defines

end Assay.Corpus
