import Mathlib.Data.List.Induction
import Assay.Proofs.Discovery

/-!
Where an entry stands and the path that leads there. Every entry stands in a folder, so looking up the
path of its location comes to it, unless the path is too long to be looked up.
-/

namespace Assay

namespace Location

theorem Written.concat {location : Location} (written : location.Written) {name : String}
    (fine : name ≠ "" ∧ '/' ∉ name.toList) : Written (location ++ [name]) := by
  intro other member
  rcases List.mem_append.mp member with above | last
  · exact written other above
  · rwa [List.mem_singleton.mp last]

theorem path_concat (above : Location) (name : String) :
    (path (above ++ [name])).text = (if above = [] then "/" else above.path.text ++ "/") ++ name := by
  unfold path
  split
  · next root => simp [root]
  · next inner =>
      rw [String.intercalate_append_of_ne_nil inner (by simp), String.intercalate_singleton]
      simp only [String.append_assoc]

theorem path_pieces {location : Location} (slashless : ∀ name ∈ location, '/' ∉ name.toList)
    (inner : location ≠ []) : location.path.pieces = "" :: location := by
  have text : location.path.text.toList =
      ['/'].intercalate ([] :: location.map String.toList) := by
    rw [List.intercalate_cons_of_ne_nil (by simpa using inner), path, String.toList_append,
      String.toList_intercalate]
    rfl
  unfold Path.pieces
  rw [text, List.splitOn_intercalate]
  · simp [Function.comp_def]
  · simpa using slashless
  · simp

theorem path_inj {first second : Location} (slashless : ∀ name ∈ first, '/' ∉ name.toList)
    (slashlessToo : ∀ name ∈ second, '/' ∉ name.toList) (inner : first ≠ []) (innerToo : second ≠ [])
    (same : first.path = second.path) : first = second := by
  have pieces := congrArg Path.pieces same
  rw [path_pieces slashless inner, path_pieces slashlessToo innerToo] at pieces
  exact (List.cons.inj pieces).2

theorem path_join {location : Location} {name : String}
    (slashless : ∀ other ∈ location, other ≠ "" ∧ '/' ∉ other.toList) (noSlash : '/' ∉ name.toList) :
    location.path / ⟨name⟩ = path (location ++ [name]) := by
  have below : Path.isAbsolute ⟨name⟩ = false := by
    rw [Path.isAbsolute, decide_eq_false_iff_not]
    exact fun slash => noSlash (List.mem_of_head? slash)
  have written : location.path.text.isEmpty = false := by simp [path]
  have whole := path_concat location name
  change Path.join location.path ⟨name⟩ = _
  unfold Path.join
  rw [below, written]
  rcases List.eq_nil_or_concat location with rfl | ⟨above, last, rfl⟩
  · rfl
  · have lastOk := slashless last (by simp)
    have ending : (path (above ++ [last])).text.toList.getLast? ≠ some '/' := by
      rw [path_concat, String.toList_append, List.getLast?_append_of_ne_nil _ (by simpa using lastOk.1)]
      exact fun slash => lastOk.2 (List.mem_of_getLast? slash)
    rw [if_neg (by simp)] at whole
    simp only [List.concat_eq_append] at *
    rw [if_neg (by simp), if_neg ending, ← whole]

theorem notMem_path {location : Location} {c : Char} (other : c ≠ '/')
    (absent : ∀ name ∈ location, c ∉ name.toList) : c ∉ location.path.text.toList := by
  induction location using List.reverseRecOn with
  | nil => simpa [path] using other
  | append_singleton above name ih =>
      have front := ih fun earlier member => absent earlier (by simp [member])
      have last := absent name (by simp)
      rw [path_concat]
      split <;> simp_all

end Location

namespace FileTree

variable {tree : FileTree} {here names : Location} {entry : Entry}

theorem folder_above (inner : names ≠ []) (found : tree.entry? (here ++ names) = some entry) :
    tree.entry? here = some .folder := by
  induction names using List.reverseRecOn generalizing entry with
  | nil => exact absurd rfl inner
  | append_singleton above name ih =>
      have around : tree.entry? (here ++ above) = some .folder := by
        have standing := (tree.housed.room _ (mem_of_found (by simp) found)).standing
        rw [← List.append_assoc, List.dropLast_concat] at standing
        by_cases root : here ++ above = []
        · unfold entry?
          rw [if_pos root]
        · exact (entry_eq_some_iff root).mpr (standing.resolve_left root)
      by_cases only : above = []
      · simpa [only] using around
      · exact ih only around

theorem walkNames_file {follow : Bool} {onLink : Location → List String → Except FileFault Spot}
    {serial : Nat} {content : ByteArray} {executable : Bool} (inner : names ≠ [])
    (found : tree.entry? (here ++ names) = some (.file serial content executable)) :
    tree.walkNames follow onLink here names =
      .ok (.present (here ++ names) (.file serial content executable)) := by
  induction names generalizing here with
  | nil => exact absurd rfl inner
  | cons name rest ih =>
      have fine := (tree.housed.room _ (mem_of_found (by simp) found)).called name (by simp)
      have step : (here ++ [name]) ++ rest = here ++ name :: rest := by simp
      rw [← step] at found ⊢
      rw [walkNames, if_neg (by simp [fine.written, fine.notHere]), if_neg fine.notAbove,
        if_neg (Nat.not_lt.mpr fine.short)]
      by_cases last : rest = []
      · subst last
        rw [List.append_nil] at found ⊢
        rw [found]
        rfl
      · rw [folder_above last found]
        exact ih last found

theorem isFile_path_iff {working location : Location} {serial : Nat} {content : ByteArray}
    {executable : Bool} (inner : location ≠ [])
    (found : tree.entry? location = some (.file serial content executable)) :
    tree.isFile working location.path = true ↔ location.path.text.utf8ByteSize ≤ pathLimit := by
  have called := (tree.housed.room _ (mem_of_found inner found)).called
  have written : location.path.text ≠ "" := by simp [Location.path]
  have whole : location.path.text.toList.contains '\x00' = false := by
    simpa using Location.notMem_path (by decide) fun name member => (called name member).whole
  have absolute : location.path.isAbsolute = true := by simp [Path.isAbsolute, Location.path]
  unfold isFile target? locate
  rw [if_neg written, if_neg (by rw [whole]; decide)]
  by_cases fits : location.path.text.utf8ByteSize ≤ pathLimit
  · have walked : tree.walk true linkLimit [] location.path.pieces =
        .ok (.present location (.file serial content executable)) := by
      rw [Location.path_pieces (fun name member => (called name member).slashless) inner]
      change tree.walkNames true (tree.walk true 39) [] ("" :: location) = _
      rw [walkNames, if_pos (Or.inl rfl)]
      exact walkNames_file inner found
    rw [if_neg (Nat.not_lt.mpr fits), if_pos absolute, walked]
    simp [fits]
  · rw [if_pos (Nat.not_le.mp fits)]
    simp [fits]

end FileTree

end Assay
