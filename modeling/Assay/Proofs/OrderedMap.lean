import Mathlib.Algebra.GroupWithZero.Nat
import Mathlib.Data.List.Perm.Subperm
import Assay.OrderedMap

/-!
Ordered maps by what they give for each key. Every entry can be found under its key, so two maps
that give the same for every key are the same map.
-/

namespace Assay.OrderedMap

variable {κ α : Type} [Ord κ]

@[simp] theorem get?_empty (key : κ) : (empty : OrderedMap κ α).get? key = none := rfl

theorem find?_eq_none_of_lt {key : κ} {entries : List (κ × α)}
    (before : ∀ entry ∈ entries, compare key entry.1 = .lt) : find? key entries = none := by
  induction entries with
  | nil => rfl
  | cons head rest ih =>
      rw [List.forall_mem_cons] at before
      rw [find?, before.1, if_neg (by decide), ih before.2]

theorem sum_place [Std.TransOrd κ] (key : κ) (value : Nat) {entries : List (κ × Nat)}
    (ordered : entries.Pairwise fun earlier later => compare earlier.1 later.1 = .lt) :
    ((place key value entries).map Prod.snd).sum + (find? key entries).getD 0 =
      (entries.map Prod.snd).sum + value := by
  induction entries with
  | nil => simp [place, find?]
  | cons head rest ih =>
      obtain ⟨headFirst, restOrdered⟩ := List.pairwise_cons.mp ordered
      unfold place
      cases place : compare key head.1 with
      | lt =>
          have absent : find? key (head :: rest) = none :=
            find?_eq_none_of_lt (List.forall_mem_cons.mpr ⟨place, fun entry member =>
              Std.TransCmp.lt_trans place (headFirst entry member)⟩)
          rw [absent]
          simp only [List.map_cons, List.sum_cons, Option.getD_none]
          omega
      | eq =>
          simp only [find?, place, ↓reduceIte, List.map_cons, List.sum_cons, Option.getD_some]
          omega
      | gt =>
          have later := ih restOrdered
          simp only [find?, place, reduceCtorEq, ↓reduceIte, List.map_cons, List.sum_cons]
          omega

def mapValues {β : Type} (change : α → β) (map : OrderedMap κ α) : OrderedMap κ β where
  entries := map.entries.map fun entry => (entry.1, change entry.2)
  ordered := List.pairwise_map.mpr map.ordered

theorem find?_map {β : Type} (change : α → β) (key : κ) (entries : List (κ × α)) :
    find? key (entries.map fun entry => (entry.1, change entry.2)) =
      (find? key entries).map change := by
  induction entries with
  | nil => rfl
  | cons head rest ih =>
      rw [List.map_cons, find?, find?, ih]
      split <;> rfl

theorem get?_mapValues {β : Type} (change : α → β) (map : OrderedMap κ α) (key : κ) :
    (map.mapValues change).get? key = (map.get? key).map change :=
  find?_map change key map.entries

section

variable [Std.LawfulEqOrd κ]

theorem find?_eq_some_iff {key : κ} {value : α} {entries : List (κ × α)}
    (ordered : entries.Pairwise fun earlier later => compare earlier.1 later.1 = .lt) :
    find? key entries = some value ↔ (key, value) ∈ entries := by
  induction entries with
  | nil => simp [find?]
  | cons head rest ih =>
      obtain ⟨headFirst, restOrdered⟩ := List.pairwise_cons.mp ordered
      rw [find?, List.mem_cons, ← ih restOrdered]
      by_cases asksHead : compare key head.1 = .eq
      · have sameKey := Std.LawfulEqCmp.eq_of_compare asksHead
        subst sameKey
        have absent : ¬ find? head.1 rest = some value := by
          intro found
          have before := headFirst _ ((ih restOrdered).mp found)
          simp [Std.ReflCmp.compare_self] at before
        simp only [asksHead, ↓reduceIte, Option.some.injEq, absent, or_false, Prod.ext_iff,
          true_and, eq_comm]
      · have otherKey : (key, value) ≠ head := by
          rintro rfl
          simp [Std.ReflCmp.compare_self] at asksHead
        simp [asksHead, otherKey]

theorem get?_eq_some_iff {map : OrderedMap κ α} {key : κ} {value : α} :
    map.get? key = some value ↔ (key, value) ∈ map.entries :=
  find?_eq_some_iff map.ordered

theorem mem_keys_iff {map : OrderedMap κ α} {key : κ} :
    key ∈ map.keys ↔ ∃ value, map.get? key = some value := by
  simp only [keys, List.mem_map, get?_eq_some_iff]
  constructor
  · rintro ⟨entry, member, rfl⟩
    exact ⟨entry.2, member⟩
  · rintro ⟨value, member⟩
    exact ⟨(key, value), member, rfl⟩

theorem keys_nodup (map : OrderedMap κ α) : map.keys.Nodup := by
  refine List.pairwise_map.mpr (map.ordered.imp fun {earlier later} before same => ?_)
  simp [same, Std.ReflCmp.compare_self] at before

theorem entries_nodup (map : OrderedMap κ α) : map.entries.Nodup :=
  List.Pairwise.of_map Prod.fst (fun _ _ other same => other (congrArg Prod.fst same))
    map.keys_nodup

theorem values_eq_filterMap (map : OrderedMap κ α) : map.values = map.keys.filterMap map.get? := by
  have found : ∀ entry ∈ map.entries, (map.get? ∘ Prod.fst) entry = some entry.2 :=
    fun entry member => get?_eq_some_iff.mpr member
  rw [keys, List.filterMap_map, List.filterMap_congr found]
  exact (congrFun List.filterMap_eq_map map.entries).symm

theorem filterMap_entries [DecidableEq κ] (map : OrderedMap κ α) (key : κ) :
    (map.entries.filterMap fun entry => if entry.1 = key then some entry.2 else none) =
      (map.get? key).toList := by
  have apart := map.keys_nodup
  unfold keys at apart
  unfold get?
  generalize map.entries = entries at apart ⊢
  induction entries with
  | nil => rfl
  | cons head rest ih =>
      rw [List.map_cons, List.nodup_cons] at apart
      rw [List.filterMap_cons, find?]
      by_cases same : head.1 = key
      · have absent : (rest.filterMap fun entry =>
            if entry.1 = key then some entry.2 else none) = [] := by
          refine List.filterMap_eq_nil_iff.mpr fun entry member => if_neg fun equal => apart.1 ?_
          exact List.mem_map.mpr ⟨entry, member, equal.trans same.symm⟩
        subst same
        rw [absent, if_pos rfl, if_pos Std.ReflCmp.compare_self]
        rfl
      · have other : ¬ compare key head.1 = .eq := fun equal =>
          same (Std.LawfulEqCmp.eq_of_compare equal).symm
        rw [if_neg same, if_neg other, ih apart.2]

theorem size_eq_length_iff {map : OrderedMap κ α} {listed : List κ}
    (same : ∀ key, key ∈ map.keys ↔ key ∈ listed) : map.size = listed.length ↔ listed.Nodup := by
  have sizes : map.size = map.keys.length := (List.length_map _).symm
  rw [sizes]
  constructor
  · intro lengths
    have inside : map.keys.Subperm listed := map.keys_nodup.subperm fun key => (same key).mp
    exact (inside.perm_of_length_le (by omega)).nodup_iff.mp map.keys_nodup
  · intro nodup
    exact ((List.perm_ext_iff_of_nodup map.keys_nodup nodup).mpr same).length_eq

end

variable [Std.TransOrd κ] [Std.LawfulEqOrd κ]

theorem ext_get? {left right : OrderedMap κ α} (same : ∀ key, left.get? key = right.get? key) :
    left = right := by
  have members (entry : κ × α) : entry ∈ left.entries ↔ entry ∈ right.entries := by
    obtain ⟨key, value⟩ := entry
    rw [← get?_eq_some_iff, ← get?_eq_some_iff, same]
  have perm : left.entries.Perm right.entries :=
    (List.perm_ext_iff_of_nodup left.entries_nodup right.entries_nodup).mpr members
  refine ext (perm.eq_of_pairwise (fun earlier later _ _ before after => ?_) left.ordered
    right.ordered)
  have loop := Std.TransCmp.lt_trans before after
  simp [Std.ReflCmp.compare_self] at loop

@[simp] theorem get?_insert_self (map : OrderedMap κ α) (key : κ) (value : α) :
    (map.insert key value).get? key = some value := by
  rw [get?_insert, if_pos Std.ReflCmp.compare_self]

theorem get?_insert_of_ne (map : OrderedMap κ α) {key asked : κ} (value : α) (other : asked ≠ key) :
    (map.insert key value).get? asked = map.get? asked := by
  rw [get?_insert, if_neg fun same => other (Std.LawfulEqCmp.eq_of_compare same)]

theorem insert_insert (map : OrderedMap κ α) (key : κ) (first second : α) :
    (map.insert key first).insert key second = map.insert key second := by
  refine ext_get? fun asked => ?_
  by_cases same : asked = key
  · subst same
    simp
  · rw [get?_insert_of_ne _ _ same, get?_insert_of_ne _ _ same, get?_insert_of_ne _ _ same]

theorem mem_keys_insert {map : OrderedMap κ α} {key asked : κ} {value : α} :
    asked ∈ (map.insert key value).keys ↔ asked = key ∨ asked ∈ map.keys := by
  rw [mem_keys_iff, mem_keys_iff]
  by_cases same : asked = key
  · subst same
    simp
  · rw [get?_insert_of_ne _ _ same]
    simp [same]

theorem mapValues_insert {β : Type} (change : α → β) (map : OrderedMap κ α) (key : κ) (value : α) :
    (map.insert key value).mapValues change = (map.mapValues change).insert key (change value) := by
  refine ext_get? fun asked => ?_
  by_cases same : asked = key
  · subst same
    rw [get?_mapValues, get?_insert_self, get?_insert_self, Option.map_some]
  · rw [get?_mapValues, get?_insert_of_ne _ _ same, get?_insert_of_ne _ _ same, get?_mapValues]

theorem sum_values_insert (map : OrderedMap κ Nat) (key : κ) (value : Nat) :
    (map.insert key value).values.sum + (map.get? key).getD 0 = map.values.sum + value :=
  sum_place key value map.ordered

def insertAll (map : OrderedMap κ α) (entries : List (κ × α)) : OrderedMap κ α :=
  entries.foldl (fun map entry => map.insert entry.1 entry.2) map

theorem insertAll_cons (map : OrderedMap κ α) (entry : κ × α) (rest : List (κ × α)) :
    map.insertAll (entry :: rest) = (map.insert entry.1 entry.2).insertAll rest := rfl

theorem insertAll_append (map : OrderedMap κ α) (first second : List (κ × α)) :
    map.insertAll (first ++ second) = (map.insertAll first).insertAll second :=
  List.foldl_append

theorem mem_keys_insertAll {map : OrderedMap κ α} {entries : List (κ × α)} {asked : κ} :
    asked ∈ (map.insertAll entries).keys ↔ asked ∈ map.keys ∨ asked ∈ entries.map Prod.fst := by
  induction entries generalizing map with
  | nil => simp [insertAll]
  | cons entry rest ih =>
      rw [insertAll_cons, ih, mem_keys_insert, List.map_cons, List.mem_cons, or_assoc,
        or_left_comm]

theorem get?_insertAll_of_notMem {entries : List (κ × α)} {asked : κ}
    (absent : asked ∉ entries.map Prod.fst) (map : OrderedMap κ α) :
    (map.insertAll entries).get? asked = map.get? asked := by
  induction entries generalizing map with
  | nil => rfl
  | cons entry rest ih =>
      rw [List.map_cons, List.mem_cons, not_or] at absent
      rw [insertAll_cons, ih absent.2, get?_insert_of_ne _ _ absent.1]

theorem get?_insertAll_last {before after : List (κ × α)} {key : κ} {value : α}
    (last : key ∉ after.map Prod.fst) (map : OrderedMap κ α) :
    (map.insertAll (before ++ (key, value) :: after)).get? key = some value := by
  rw [insertAll_append, insertAll_cons, get?_insertAll_of_notMem last, get?_insert_self]

theorem get?_insertAll_of_mem {entries : List (κ × α)} {asked : κ}
    (listed : asked ∈ entries.map Prod.fst) (left right : OrderedMap κ α) :
    (left.insertAll entries).get? asked = (right.insertAll entries).get? asked := by
  induction entries generalizing left right with
  | nil => simp at listed
  | cons entry rest ih =>
      rw [insertAll_cons, insertAll_cons]
      by_cases later : asked ∈ rest.map Prod.fst
      · exact ih later _ _
      · have here : asked = entry.1 := by
          rw [List.map_cons, List.mem_cons] at listed
          exact listed.resolve_right later
        rw [get?_insertAll_of_notMem later, get?_insertAll_of_notMem later, here,
          get?_insert_self, get?_insert_self]

theorem insertAll_eq_ofList {map : OrderedMap κ α} {entries : List (κ × α)}
    (replaced : ∀ key ∈ map.keys, key ∈ entries.map Prod.fst) :
    map.insertAll entries = ofList entries := by
  refine ext_get? fun asked => ?_
  by_cases listed : asked ∈ entries.map Prod.fst
  · exact get?_insertAll_of_mem listed map empty
  · have unknown : map.get? asked = none := by
      refine Option.eq_none_iff_forall_ne_some.mpr fun value found => listed ?_
      exact replaced asked (mem_keys_iff.mpr ⟨value, found⟩)
    rw [get?_insertAll_of_notMem listed, unknown]
    exact (get?_insertAll_of_notMem listed empty).symm

theorem mem_keys_ofList {entries : List (κ × α)} {asked : κ} :
    asked ∈ (ofList entries).keys ↔ asked ∈ entries.map Prod.fst :=
  mem_keys_insertAll.trans (or_iff_right (by simp [keys, empty]))

theorem ofList_entries (map : OrderedMap κ α) : ofList map.entries = map := by
  refine ext_get? fun asked => ?_
  by_cases listed : asked ∈ map.keys
  · obtain ⟨value, found⟩ := mem_keys_iff.mp listed
    obtain ⟨before, after, split⟩ := List.append_of_mem (get?_eq_some_iff.mp found)
    have apart := map.keys_nodup
    rw [keys, split, List.map_append, List.map_cons] at apart
    have last := (List.nodup_cons.mp (List.nodup_append.mp apart).2.1).1
    rw [found, split]
    exact get?_insertAll_last last empty
  · have unknown : map.get? asked = none :=
      Option.eq_none_iff_forall_ne_some.mpr fun value found =>
        listed (mem_keys_iff.mpr ⟨value, found⟩)
    rw [unknown]
    exact get?_insertAll_of_notMem listed empty

theorem ofList_eq_iff {entries : List (κ × α)} {map : OrderedMap κ α}
    (keys : entries.map Prod.fst = map.keys) : ofList entries = map ↔ entries = map.entries := by
  have ordered : entries.Pairwise fun earlier later => compare earlier.1 later.1 = .lt := by
    have apart : map.keys.Pairwise fun earlier later => compare earlier later = .lt :=
      List.pairwise_map.mpr map.ordered
    rw [← keys] at apart
    exact List.pairwise_map.mp apart
  have made := ofList_entries ⟨entries, ordered⟩
  rw [made]
  exact ⟨fun same => congrArg OrderedMap.entries same, fun same => ext same⟩

end Assay.OrderedMap
