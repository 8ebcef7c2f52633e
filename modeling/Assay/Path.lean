/-!
Paths of a file system with `/` between names. A path is kept as it was written; two texts
are the same path when they have the same components.
-/

namespace Assay

theorem notMem_of_mem_splitOn {α : Type} [DecidableEq α] {separator : α} {text piece : List α}
    (member : piece ∈ text.splitOn separator) : separator ∉ piece := by
  induction text generalizing piece with
  | nil =>
      rw [List.splitOn_nil, List.mem_singleton] at member
      simp [member]
  | cons c rest ih =>
      obtain ⟨first, others, split⟩ :=
        List.exists_cons_of_ne_nil (List.splitOn_ne_nil separator rest)
      rw [split] at ih
      rw [List.splitOn_cons_eq_if_modifyHead, split] at member
      by_cases same : c = separator
      · rw [if_pos (by simpa using same)] at member
        rcases List.mem_cons.mp member with rfl | later
        · simp
        · exact ih later
      · rw [if_neg (by simpa using same), List.modifyHead_cons] at member
        rcases List.mem_cons.mp member with rfl | later
        · have kept := ih (List.mem_cons_self)
          rw [List.mem_cons, not_or]
          exact ⟨fun equal => same equal.symm, kept⟩
        · exact ih (List.mem_cons_of_mem _ later)

structure Path where
  text : String
deriving DecidableEq, Repr, Inhabited

namespace Path

def pieces (path : Path) : List String :=
  (path.text.toList.splitOn '/').map String.ofList

theorem slash_notMem_pieces {path : Path} {piece : String} (member : piece ∈ path.pieces) :
    '/' ∉ piece.toList := by
  obtain ⟨chars, inside, rfl⟩ := List.mem_map.mp member
  rw [String.toList_ofList]
  exact notMem_of_mem_splitOn inside

def isAbsolute (path : Path) : Bool := path.text.toList.head? = some '/'

def withoutEndSlashes (path : Path) : Path :=
  match path.text.toList.reverse.dropWhile (· = '/') with
  | [] => if path.text = "" then path else ⟨"/"⟩
  | kept => ⟨String.ofList kept.reverse⟩

/-- The names of a path in order. Doubled slashes and inner dots do not count; a leading slash
counts as the component `/`, and a leading dot is kept. -/
def components (path : Path) : List String :=
  let names := path.pieces.filter fun piece => piece ≠ "" ∧ piece ≠ "."
  if path.isAbsolute then "/" :: names
  else if path.pieces.head? = some "." then "." :: names
  else names

def ofComponents : List String → Path
  | "/" :: names => ⟨"/" ++ "/".intercalate names⟩
  | names => ⟨"/".intercalate names⟩

/-- A path below another one. An absolute second path stands for itself. -/
def join (base rest : Path) : Path :=
  if rest.isAbsolute || base.text.isEmpty then rest
  else if base.text.toList.getLast? = some '/' then ⟨base.text ++ rest.text⟩
  else ⟨base.text ++ "/" ++ rest.text⟩

instance : Div Path := ⟨join⟩

def parent? (path : Path) : Option Path :=
  match path.components with
  | [] => none
  | ["/"] => none
  | names => some (ofComponents names.dropLast)

end Path

end Assay
