/-!
Finite maps that list their entries by increasing key. Two maps with the same entries are equal,
and a later entry for a key replaces the earlier one.
-/

namespace Assay

structure OrderedMap (κ α : Type) [Ord κ] where
  entries : List (κ × α)
  ordered : entries.Pairwise fun earlier later => compare earlier.1 later.1 = .lt

namespace OrderedMap

variable {κ α : Type} [Ord κ]

def place (key : κ) (value : α) : List (κ × α) → List (κ × α)
  | [] => [(key, value)]
  | entry :: rest =>
    match compare key entry.1 with
    | .lt => (key, value) :: entry :: rest
    | .eq => (key, value) :: rest
    | .gt => entry :: place key value rest

theorem mem_place {key : κ} {value : α} {entries : List (κ × α)} {entry : κ × α}
    (member : entry ∈ place key value entries) : entry = (key, value) ∨ entry ∈ entries := by
  induction entries with
  | nil => simpa [place] using member
  | cons head rest ih =>
    unfold place at member
    split at member
    · simpa using member
    · simp only [List.mem_cons] at member
      rcases member with same | tail
      · exact Or.inl same
      · exact Or.inr (List.mem_cons_of_mem _ tail)
    · simp only [List.mem_cons] at member
      rcases member with same | tail
      · exact Or.inr (by simp [same])
      · rcases ih tail with same | old
        · exact Or.inl same
        · exact Or.inr (List.mem_cons_of_mem _ old)

theorem place_ordered [Std.TransOrd κ] [Std.LawfulEqOrd κ] {entries : List (κ × α)}
    (key : κ) (value : α)
    (ordered : entries.Pairwise fun earlier later => compare earlier.1 later.1 = .lt) :
    (place key value entries).Pairwise fun earlier later => compare earlier.1 later.1 = .lt := by
  induction entries with
  | nil => simp [place]
  | cons head rest ih =>
    obtain ⟨headFirst, restOrdered⟩ := List.pairwise_cons.mp ordered
    unfold place
    split
    · next before =>
      refine List.pairwise_cons.mpr ⟨fun entry member => ?_, ordered⟩
      rcases List.mem_cons.mp member with same | tail
      · exact same ▸ before
      · exact Std.TransCmp.lt_trans before (headFirst entry tail)
    · next same =>
      refine List.pairwise_cons.mpr ⟨fun entry member => ?_, restOrdered⟩
      rw [Std.LawfulEqCmp.eq_of_compare same]
      exact headFirst entry member
    · next after =>
      refine List.pairwise_cons.mpr ⟨fun entry member => ?_, ih restOrdered⟩
      rcases mem_place member with same | tail
      · subst same
        exact Std.OrientedCmp.lt_of_gt after
      · exact headFirst entry tail

def empty : OrderedMap κ α := ⟨[], List.Pairwise.nil⟩

instance : EmptyCollection (OrderedMap κ α) := ⟨empty⟩

instance : Inhabited (OrderedMap κ α) := ⟨empty⟩

def insert [Std.TransOrd κ] [Std.LawfulEqOrd κ] (map : OrderedMap κ α) (key : κ) (value : α) :
    OrderedMap κ α :=
  ⟨place key value map.entries, place_ordered key value map.ordered⟩

def find? (key : κ) : List (κ × α) → Option α
  | [] => none
  | entry :: rest => if compare key entry.1 = .eq then some entry.2 else find? key rest

def get? (map : OrderedMap κ α) (key : κ) : Option α := find? key map.entries

/-- The entries of a list, the last one of each key. -/
def ofList [Std.TransOrd κ] [Std.LawfulEqOrd κ] (entries : List (κ × α)) : OrderedMap κ α :=
  entries.foldl (fun map entry => map.insert entry.1 entry.2) empty

def keys (map : OrderedMap κ α) : List κ := map.entries.map Prod.fst

def values (map : OrderedMap κ α) : List α := map.entries.map Prod.snd

def size (map : OrderedMap κ α) : Nat := map.entries.length

theorem ext {left right : OrderedMap κ α} (same : left.entries = right.entries) : left = right := by
  cases left; cases right; cases same; rfl

instance [DecidableEq κ] [DecidableEq α] : DecidableEq (OrderedMap κ α) := fun left right =>
  if same : left.entries = right.entries then isTrue (ext same)
  else isFalse fun equal => same (equal ▸ rfl)

theorem find?_place [Std.TransOrd κ] [Std.LawfulEqOrd κ] (key asked : κ) (value : α)
    (entries : List (κ × α)) :
    find? asked (place key value entries) =
      if compare asked key = .eq then some value else find? asked entries := by
  induction entries with
  | nil => simp [place, find?]
  | cons head rest ih =>
    unfold place
    split
    · simp [find?]
    · next same =>
      simp only [find?]
      rw [← Std.LawfulEqCmp.eq_of_compare same]
      split <;> simp
    · next after =>
      simp only [find?, ih]
      by_cases asksHead : compare asked head.1 = .eq
      · have sameHead := Std.LawfulEqCmp.eq_of_compare asksHead
        subst sameHead
        have notKey : ¬ compare head.1 key = .eq := by
          intro equal
          have sameKey := Std.LawfulEqCmp.eq_of_compare equal
          subst sameKey
          simp [Std.ReflCmp.compare_self] at after
        simp [notKey]
      · simp [asksHead]

theorem get?_insert [Std.TransOrd κ] [Std.LawfulEqOrd κ] (map : OrderedMap κ α) (key asked : κ)
    (value : α) :
    (map.insert key value).get? asked = if compare asked key = .eq then some value else map.get? asked :=
  find?_place key asked value map.entries

end OrderedMap

end Assay
