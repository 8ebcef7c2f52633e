import Assay.Report.Writer
import Assay.Proofs.Tree
import Assay.Proofs.Validity

/-!
The files of different reports. They are named by gluing endings to a name that may hold slashes, so two
reports share their files exactly when their names, below the folder of the reports, lead to one folder
and end alike.
-/

namespace Assay

section

variable {α : Type} [DecidableEq α] {separator : α}

theorem splitOn_append_of_notMem (text : List α) {rest : List α} (absent : separator ∉ rest) :
    ∃ front last, text.splitOn separator = front ++ [last] ∧
      (text ++ rest).splitOn separator = front ++ [last ++ rest] := by
  induction text with
  | nil => exact ⟨[], [], rfl, List.splitOn_eq_singleton absent⟩
  | cons c text ih =>
      obtain ⟨front, last, short, long⟩ := ih
      rw [List.cons_append, List.splitOn_cons_eq_if_modifyHead, List.splitOn_cons_eq_if_modifyHead,
        short, long]
      by_cases same : c = separator
      · exact ⟨[] :: front, last, by simp [same], by simp [same]⟩
      · cases front with
        | nil => exact ⟨[], c :: last, by simp [same], by simp [same]⟩
        | cons first front => exact ⟨(c :: first) :: front, last, by simp [same], by simp [same]⟩

end

namespace Path

def Same (first second : Path) : Prop := first.components = second.components

instance (first second : Path) : Decidable (Same first second) :=
  inferInstanceAs (Decidable (first.components = second.components))

def lastPiece (path : Path) : String := path.pieces.getLastD ""

def front (path : Path) : List String :=
  let names := path.pieces.dropLast.filter fun piece => piece ≠ "" ∧ piece ≠ "."
  if path.isAbsolute then "/" :: names
  else if path.pieces.dropLast.head? = some "." then "." :: names
  else names

theorem pieces_ne_nil (path : Path) : path.pieces ≠ [] := by
  simp [pieces]

theorem pieces_slash (above below : String) :
    pieces ⟨above ++ "/" ++ below⟩ = pieces ⟨above⟩ ++ pieces ⟨below⟩ := by
  have text : (above ++ "/" ++ below).toList = above.toList ++ '/' :: below.toList := by simp
  simp only [pieces, text, List.splitOn_append_cons_self, List.map_append]

theorem pieces_append {text ending : String} (noSlash : '/' ∉ ending.toList) :
    pieces ⟨text ++ ending⟩ = (pieces ⟨text⟩).dropLast ++ [lastPiece ⟨text⟩ ++ ending] := by
  obtain ⟨front, last, short, long⟩ := splitOn_append_of_notMem text.toList noSlash
  have whole : (text ++ ending).toList = text.toList ++ ending.toList := String.toList_append
  simp [pieces, lastPiece, whole, short, long]

theorem isAbsolute_append {text ending : String} (noSlash : '/' ∉ ending.toList) :
    isAbsolute ⟨text ++ ending⟩ = isAbsolute ⟨text⟩ := by
  have start : ending.toList.head? ≠ some '/' := fun slash => noSlash (List.mem_of_head? slash)
  unfold isAbsolute
  rw [String.toList_append]
  cases text.toList with
  | nil => simpa using start
  | cons c rest => simp

theorem components_append {text ending : String} (noSlash : '/' ∉ ending.toList)
    (solid : lastPiece ⟨text⟩ ++ ending ≠ "" ∧ lastPiece ⟨text⟩ ++ ending ≠ ".") :
    components ⟨text ++ ending⟩ = front ⟨text⟩ ++ [lastPiece ⟨text⟩ ++ ending] := by
  unfold components front
  rw [pieces_append noSlash, isAbsolute_append noSlash, List.filter_append]
  have kept : [lastPiece ⟨text⟩ ++ ending].filter (fun piece => piece ≠ "" ∧ piece ≠ ".") =
      [lastPiece ⟨text⟩ ++ ending] := by simp [solid.1, solid.2]
  rw [kept]
  -- A dot in front counts only if it is not what the ending is glued to.
  have dot : ((pieces ⟨text⟩).dropLast ++ [lastPiece ⟨text⟩ ++ ending]).head? = some "." ↔
      (pieces ⟨text⟩).dropLast.head? = some "." := by
    cases (pieces ⟨text⟩).dropLast with
    | nil => simpa using solid.2
    | cons first rest => simp
  simp only [dot]
  split
  · rfl
  · split <;> rfl

theorem join_append (folder : Path) {name ending : String} (noSlash : '/' ∉ ending.toList) :
    folder / ⟨name ++ ending⟩ = ⟨(folder / ⟨name⟩).text ++ ending⟩ := by
  change join folder ⟨name ++ ending⟩ = ⟨(join folder ⟨name⟩).text ++ ending⟩
  unfold join
  rw [isAbsolute_append noSlash]
  split
  · rfl
  · split
    · rw [String.append_assoc]
    · simp only [String.append_assoc]

theorem join_relative {folder : Path} {name : String} (written : folder.text ≠ "")
    (relative : isAbsolute ⟨name⟩ = false) :
    (folder / ⟨name⟩).front = folder.components ++
        (pieces ⟨name⟩).dropLast.filter (fun piece => piece ≠ "" ∧ piece ≠ ".") ∧
      (folder / ⟨name⟩).lastPiece = lastPiece ⟨name⟩ := by
  -- With or without a slash at its end, the folder ends before a slash.
  have text : ∃ above, (folder / ⟨name⟩) = ⟨above ++ "/" ++ name⟩ ∧
      isAbsolute ⟨above ++ "/" ++ name⟩ = folder.isAbsolute ∧
      (pieces ⟨above⟩).filter (fun piece => piece ≠ "" ∧ piece ≠ ".") =
        folder.pieces.filter (fun piece => piece ≠ "" ∧ piece ≠ ".") ∧
      (pieces ⟨above⟩).head? = folder.pieces.head? := by
    change ∃ above, join folder ⟨name⟩ = _ ∧ _
    unfold join
    have some : (folder.text.isEmpty) = false := by simpa using written
    rw [relative, some]
    by_cases slash : folder.text.toList.getLast? = Option.some '/'
    · obtain ⟨above, ends⟩ : ∃ above, folder.text = above ++ "/" := by
        obtain ⟨front, whole⟩ := List.getLast?_eq_some_iff.mp slash
        exact ⟨String.ofList front, by rw [← String.ofList_toList (s := folder.text), whole]; simp⟩
      have cut : folder.pieces = pieces ⟨above⟩ ++ [""] := by
        have whole := pieces_slash above ""
        rw [String.append_empty] at whole
        rw [show folder = ⟨above ++ "/"⟩ from congrArg Path.mk ends, whole]
        rfl
      refine ⟨above, by simp [ends], ?_, by simp [cut], ?_⟩
      · simp [isAbsolute, ends]
      · rw [cut, List.head?_append_of_ne_nil _ (pieces_ne_nil _)]
    · refine ⟨folder.text, by simp [slash], ?_, rfl, rfl⟩
      obtain ⟨c, rest, chars⟩ := List.exists_cons_of_ne_nil
        (show folder.text.toList ≠ [] by simpa using written)
      simp [isAbsolute, chars]
  obtain ⟨above, joined, absolute, names, head⟩ := text
  have some := pieces_ne_nil ⟨name⟩
  constructor
  · unfold front components
    rw [joined, absolute, pieces_slash, List.dropLast_append_of_ne_nil some, List.filter_append,
      names, List.head?_append_of_ne_nil _ (pieces_ne_nil _), head]
    split
    · rfl
    · split <;> rfl
  · unfold lastPiece
    rw [joined, pieces_slash, List.getLastD_eq_getLast?, List.getLastD_eq_getLast?,
      List.getLast?_append_of_ne_nil _ some]

end Path

open Assay.Path (Same front lastPiece)

namespace Report

def Files.all (files : Files) : List Path := [files.details, files.totals, files.table]

def endings : List String := ["_results.json", "_results_summary.json", "_results_table.tex"]

/-- What the files of a report have in common: the components of their folder, and how they begin. -/
def start (folder : Path) (name : String) : List String × String :=
  ((folder / ⟨name⟩).front, (folder / ⟨name⟩).lastPiece)

theorem all_named (folder : Path) (name : String) :
    (Files.named folder name).all = endings.map fun ending => folder / ⟨name ++ ending⟩ := rfl

theorem slash_notMem_of_mem_endings : ∀ ending ∈ endings, '/' ∉ ending.toList := by decide

theorem eq_of_suffix_of_mem_endings :
    ∀ ending ∈ endings, ∀ other ∈ endings, ending.toList <:+ other.toList → ending = other := by
  decide

theorem components_file (folder : Path) (name : String) {ending : String} (known : ending ∈ endings) :
    (folder / ⟨name ++ ending⟩).components =
      (start folder name).1 ++ [(start folder name).2 ++ ending] := by
  have noSlash := slash_notMem_of_mem_endings ending known
  have long : ∀ ending ∈ endings, 1 < ending.length := by decide
  rw [Path.join_append folder noSlash]
  apply Path.components_append noSlash
  have longer := long ending known
  constructor
  · intro empty
    have length := congrArg String.length empty
    rw [String.length_append, String.length_empty] at length
    omega
  · intro dot
    have length := congrArg String.length dot
    rw [String.length_append, show String.length "." = 1 from rfl] at length
    omega

theorem same_file_iff {folder : Path} {name other : String} {ending ending' : String}
    (known : ending ∈ endings) (known' : ending' ∈ endings) :
    Same (folder / ⟨name ++ ending⟩) (folder / ⟨other ++ ending'⟩) ↔
      start folder name = start folder other ∧ ending = ending' := by
  unfold Same
  rw [components_file folder name known, components_file folder other known']
  constructor
  · intro same
    have one : [(start folder name).2 ++ ending].length =
        [(start folder other).2 ++ ending'].length := by
      rw [List.length_singleton, List.length_singleton]
    obtain ⟨folders, last⟩ := List.append_inj' same one
    have glued : (start folder name).2.toList ++ ending.toList =
        (start folder other).2.toList ++ ending'.toList := by
      have texts := congrArg String.toList (List.singleton_inj.mp last)
      rwa [String.toList_append, String.toList_append] at texts
    have alike : ending = ending' := by
      have ends : ending'.toList <:+ (start folder name).2.toList ++ ending.toList := by
        rw [glued]
        exact List.suffix_append _ _
      rcases List.suffix_or_suffix_of_suffix (List.suffix_append _ _) ends with within | within
      · exact eq_of_suffix_of_mem_endings ending known ending' known' within
      · exact (eq_of_suffix_of_mem_endings ending' known' ending known within).symm
    rw [alike] at glued
    have begin := String.toList_inj.mp (List.append_cancel_right glued)
    exact ⟨Prod.ext folders begin, alike⟩
  · rintro ⟨starts, rfl⟩
    rw [starts]

def Apart (folder : Path) (name other : String) : Prop :=
  ((Files.named folder name).all ++ (Files.named folder other).all).Pairwise fun file file' =>
    ¬ Same file file'

instance (folder : Path) (name other : String) : Decidable (Apart folder name other) :=
  inferInstanceAs (Decidable (List.Pairwise _ _))

theorem own_apart (folder : Path) (name : String) :
    (Files.named folder name).all.Pairwise fun file file' => ¬ Same file file' := by
  rw [all_named, List.pairwise_map]
  have distinct : endings.Nodup := by decide
  refine distinct.imp_of_mem fun known known' differ same => ?_
  exact differ ((same_file_iff known known').mp same).2

theorem apart_iff {folder : Path} {name other : String} :
    Apart folder name other ↔ start folder name ≠ start folder other := by
  unfold Apart
  rw [List.pairwise_append, all_named, all_named]
  simp only [List.forall_mem_map]
  constructor
  · rintro ⟨-, -, apart⟩ starts
    have known : "_results.json" ∈ endings := by decide
    exact apart _ known _ known ((same_file_iff known known).mpr ⟨starts, rfl⟩)
  · intro differ
    refine ⟨own_apart folder name, own_apart folder other, ?_⟩
    intro ending known ending' known' same
    exact differ ((same_file_iff known known').mp same).1

def folders (name : String) : List String :=
  (Path.pieces ⟨name⟩).dropLast.filter fun piece => piece ≠ "" ∧ piece ≠ "."

theorem start_of_relative {folder : Path} {name : String} (written : folder.text ≠ "")
    (relative : Path.isAbsolute ⟨name⟩ = false) :
    start folder name = (folder.components ++ folders name, lastPiece ⟨name⟩) := by
  obtain ⟨above, last⟩ := Path.join_relative written relative
  exact Prod.ext above last

theorem lastPiece_of_slashless {name : String} (slashless : '/' ∉ name.toList) :
    lastPiece ⟨name⟩ = name := by
  simp [lastPiece, Path.pieces, List.splitOn_eq_singleton slashless]

theorem start_of_slashless (folder : Path) {name : String} (slashless : '/' ∉ name.toList) :
    (start folder name).2 = name := by
  have relative : Path.isAbsolute ⟨name⟩ = false := by
    rw [Path.isAbsolute, decide_eq_false_iff_not]
    exact fun slash => slashless (List.mem_of_head? slash)
  by_cases written : folder.text = ""
  · have joined : folder / ⟨name⟩ = ⟨name⟩ := by
      change Path.join folder ⟨name⟩ = _
      simp [Path.join, written]
    rw [start, joined]
    exact lastPiece_of_slashless slashless
  · rw [start_of_relative written relative]
    exact lastPiece_of_slashless slashless

end Report

namespace Settings

open Report (Apart)

theorem names_differ {settings : Settings} (valid : settings.check = .ok ()) {i j : Nat}
    {first second : Suite} (one : settings.suites[i]? = some first)
    (other : settings.suites[j]? = some second) (different : i ≠ j) : first.name ≠ second.name := by
  have distinct := (check_ok_iff.mp valid).2.2.2.2
  have inside : i < (settings.suites.map Suite.name).length := by
    rw [List.length_map]
    exact (List.getElem?_eq_some_iff.mp one).1
  intro same
  apply different
  apply (List.getElem?_inj inside distinct).mp
  rw [List.getElem?_map, List.getElem?_map, one, other, Option.map_some, Option.map_some, same]

/-- The reports of two suites of checked settings have files that are all different, unless the names of
the suites spell the same path below the output folder; names without slashes never do. -/
theorem reports_apart_iff {settings : Settings} (valid : settings.check = .ok ()) {i j : Nat}
    {first second : Suite} (one : settings.suites[i]? = some first)
    (other : settings.suites[j]? = some second) (different : i ≠ j) :
    (Apart settings.outputFolder first.name second.name ↔
      Report.start settings.outputFolder first.name ≠
        Report.start settings.outputFolder second.name) ∧
    (settings.outputFolder.text ≠ "" → Path.isAbsolute ⟨first.name⟩ = false →
      Path.isAbsolute ⟨second.name⟩ = false →
      (Apart settings.outputFolder first.name second.name ↔
        ¬ (Report.folders first.name = Report.folders second.name ∧
          lastPiece ⟨first.name⟩ = lastPiece ⟨second.name⟩))) ∧
    ('/' ∉ first.name.toList → '/' ∉ second.name.toList →
      Apart settings.outputFolder first.name second.name) := by
  refine ⟨Report.apart_iff, ?_, ?_⟩
  · intro written relative relative'
    rw [Report.apart_iff, Report.start_of_relative written relative,
      Report.start_of_relative written relative']
    simp
  · intro slashless slashless'
    rw [Report.apart_iff]
    intro starts
    have last := congrArg Prod.snd starts
    rw [Report.start_of_slashless _ slashless, Report.start_of_slashless _ slashless'] at last
    exact names_differ valid one other different last

theorem reports_apart_default :
    ({} : Settings).check = .ok () ∧ ({} : Settings).suites[0]? = some .memory ∧
    ({} : Settings).suites[1]? = some .juliet ∧ Apart ⟨"."⟩ Suite.memory.name Suite.juliet.name := by
  have valid : ({} : Settings).check = .ok () := by decide
  have apart := (reports_apart_iff valid (i := 0) (j := 1) rfl rfl (by decide)).2.2
  exact ⟨valid, rfl, rfl, apart (by decide) (by decide)⟩

def twoSpellings : Settings where
  outputFolder := ⟨"out"⟩
  suites := [{ name := "jm", layout := .defineFlags ⟨"i"⟩, groups := [⟨"a"⟩] },
    { name := "./jm", layout := .defineFlags ⟨"i"⟩, groups := [⟨"b"⟩] }]

/-- What is written for the second suite replaces what was written for the first. -/
theorem twoSpellings_share : twoSpellings.check = .ok () ∧
    twoSpellings.suites.map Suite.name = ["jm", "./jm"] ∧
    ¬ Apart twoSpellings.outputFolder "jm" "./jm" ∧
    (do
      let files := Report.Files.named twoSpellings.outputFolder
      let tree : FileTree := { entries := [(["out"], .folder)] }
      let tree ← tree.write [] (files "jm").details ⟨#[1]⟩
      let tree ← tree.write [] (files "./jm").details ⟨#[2]⟩
      tree.read [] (files "jm").details) = .ok ⟨#[2]⟩ := by
  refine ⟨by decide, rfl, by decide, rfl⟩

end Settings

end Assay
