import Assay.Path

/-!
The entries that a file system keeps: no two at one location, each under a name that can be used, and
in a folder. They stay so whatever is put, taken away or moved.
-/

namespace Assay

abbrev Location := List String

namespace Location

def Written (location : Location) : Prop := ∀ name ∈ location, name ≠ "" ∧ '/' ∉ name.toList

instance (location : Location) : Decidable location.Written :=
  inferInstanceAs (Decidable (∀ name ∈ location, name ≠ "" ∧ '/' ∉ name.toList))

theorem Written.dropLast {location : Location} (written : location.Written) :
    Written location.dropLast :=
  fun name member => written name ((List.dropLast_sublist location).subset member)

end Location

@[ext]
structure Site where
  location : Location
  written : location.Written := by decide
deriving DecidableEq

namespace Site

instance : Coe Site Location := ⟨Site.location⟩

def root : Site := { location := [] }

def ofPath (path : Path) : Site where
  location := path.pieces.filter fun piece => piece ≠ "" ∧ piece ≠ "."
  written := by
    intro name member
    obtain ⟨inside, apart⟩ := List.mem_filter.mp member
    exact ⟨(of_decide_eq_true apart).1, Path.slash_notMem_pieces inside⟩

end Site

inductive Device
  | null
  | zero
  | full
  | terminal
  | channel (number : Nat)
  | pipe (serial : Nat)
deriving DecidableEq, Repr

-- The library that the proofs use has an instance of its own.
local instance decidableEqBytes : DecidableEq ByteArray := ByteArray.instDecidableEq

inductive Entry
  | file (serial : Nat) (content : ByteArray) (executable : Bool)
  | folder
  | link (target : Path)
  | device (kind : Device)
deriving DecidableEq

/-- What a file becomes that is changed; anything else stays as it is. -/
def Entry.mapFile (change : Nat → ByteArray → Bool → Entry) : Entry → Entry
  | file serial content executable => change serial content executable
  | other => other

abbrev Entries := List (Location × Entry)

namespace Entries

def nameLimit : Nat := 255

structure IsEntryName (name : String) : Prop where
  written : name ≠ ""
  notHere : name ≠ "."
  notAbove : name ≠ ".."
  slashless : '/' ∉ name.toList
  whole : '\x00' ∉ name.toList
  short : name.utf8ByteSize ≤ nameLimit

instance (name : String) : Decidable (IsEntryName name) :=
  decidable_of_iff (name ≠ "" ∧ name ≠ "." ∧ name ≠ ".." ∧ '/' ∉ name.toList ∧
      '\x00' ∉ name.toList ∧ name.utf8ByteSize ≤ nameLimit)
    ⟨fun ⟨written, notHere, notAbove, slashless, whole, short⟩ =>
        ⟨written, notHere, notAbove, slashless, whole, short⟩,
      fun fine => ⟨fine.written, fine.notHere, fine.notAbove, fine.slashless, fine.whole, fine.short⟩⟩

structure HasRoom (entries : Entries) (location : Location) : Prop where
  called : ∀ name ∈ location, IsEntryName name
  standing : location.dropLast = [] ∨ (location.dropLast, .folder) ∈ entries

instance (entries : Entries) (location : Location) : Decidable (entries.HasRoom location) :=
  decidable_of_iff ((∀ name ∈ location, IsEntryName name) ∧
      (location.dropLast = [] ∨ (location.dropLast, .folder) ∈ entries))
    ⟨fun ⟨called, standing⟩ => ⟨called, standing⟩, fun room => ⟨room.called, room.standing⟩⟩

/-- What every file system guarantees of its entries: each has a location of its own, where there is
room for it. -/
structure Housed (entries : Entries) : Prop where
  distinct : (entries.map Prod.fst).Nodup
  room : ∀ item ∈ entries, entries.HasRoom item.1

instance (entries : Entries) : Decidable entries.Housed :=
  decidable_of_iff ((entries.map Prod.fst).Nodup ∧ ∀ item ∈ entries, entries.HasRoom item.1)
    ⟨fun ⟨distinct, room⟩ => ⟨distinct, room⟩, fun housed => ⟨housed.distinct, housed.room⟩⟩

def without (entries : Entries) (location : Location) : Entries :=
  entries.filter fun item => ¬ location <+: item.1

/-- The entries with another one, in place of what stood there. Only a folder leaves what is below
it. -/
def placed (entries : Entries) (location : Location) (entry : Entry) : Entries :=
  entries.filter (fun item => item.1 ≠ location ∧ (entry = .folder ∨ ¬ location <+: item.1)) ++
    [(location, entry)]

def moved (source target location : Location) : Location :=
  if source <+: location then target ++ location.drop source.length else location

variable {entries : Entries} {location source target : Location}

theorem mem_without_iff {item : Location × Entry} :
    item ∈ entries.without location ↔ item ∈ entries ∧ ¬ location <+: item.1 := by
  simp [without]

theorem mem_placed_iff {item : Location × Entry} {entry : Entry} :
    item ∈ entries.placed location entry ↔
      (item ∈ entries ∧ item.1 ≠ location ∧ (entry = .folder ∨ ¬ location <+: item.1)) ∨
        item = (location, entry) := by
  simp [placed]

theorem moved_below (source target rest : Location) :
    moved source target (source ++ rest) = target ++ rest := by
  simp [moved]

theorem moved_outside (away : ¬ source <+: location) : moved source target location = location :=
  if_neg away

theorem moved_inj {first second : Location} (vacant : ¬ target <+: first)
    (vacantToo : ¬ target <+: second)
    (same : moved source target first = moved source target second) : first = second := by
  by_cases inside : source <+: first <;> by_cases insideToo : source <+: second
  · obtain ⟨rest, rfl⟩ := inside
    obtain ⟨more, rfl⟩ := insideToo
    rw [moved_below, moved_below] at same
    rw [List.append_cancel_left same]
  · obtain ⟨rest, rfl⟩ := inside
    rw [moved_below, moved_outside insideToo] at same
    exact absurd ⟨rest, same⟩ vacantToo
  · obtain ⟨rest, rfl⟩ := insideToo
    rw [moved_below, moved_outside inside] at same
    exact absurd ⟨rest, same.symm⟩ vacant
  · rwa [moved_outside inside, moved_outside insideToo] at same

namespace Housed

theorem without (housed : entries.Housed) (location : Location) :
    (entries.without location).Housed where
  distinct := housed.distinct.sublist (List.filter_sublist.map Prod.fst)
  room := by
    intro item member
    obtain ⟨listed, away⟩ := mem_without_iff.mp member
    have room := housed.room item listed
    exact ⟨room.called, room.standing.imp_right fun folder =>
      mem_without_iff.mpr ⟨folder, fun below => away <| below.trans <| List.dropLast_prefix item.1⟩⟩

theorem placed (housed : entries.Housed) (room : entries.HasRoom location) (entry : Entry) :
    (entries.placed location entry).Housed where
  distinct := by
    rw [Entries.placed, List.map_append, List.nodup_append]
    refine ⟨housed.distinct.sublist (List.filter_sublist.map Prod.fst), by simp, ?_⟩
    intro other member last same
    obtain ⟨item, kept, rfl⟩ := List.mem_map.mp member
    have apart := (of_decide_eq_true (List.mem_filter.mp kept).2).1
    rwa [List.mem_singleton.mp same]
  room := by
    -- The folder around an entry stays, or it is the folder that takes the place of another one.
    have around {other : Location} (folder : (other.dropLast, .folder) ∈ entries)
        (outside : entry = .folder ∨ ¬ location <+: other.dropLast) :
        (other.dropLast, .folder) ∈ entries.placed location entry := by
      refine mem_placed_iff.mpr ?_
      by_cases here : other.dropLast = location
      · subst here
        exact Or.inr (by rw [outside.resolve_right fun away => away (List.prefix_refl _)])
      · exact Or.inl ⟨folder, here, outside⟩
    intro item member
    rcases mem_placed_iff.mp member with ⟨listed, -, outside⟩ | rfl
    · have old := housed.room item listed
      exact ⟨old.called, old.standing.imp_right fun folder => around folder
        (outside.imp_right fun away below => away <| below.trans <| List.dropLast_prefix item.1)⟩
    · change (entries.placed location entry).HasRoom location
      refine ⟨room.called, Decidable.or_iff_not_imp_left.mpr fun inner => ?_⟩
      refine around (room.standing.resolve_left inner) (Or.inr fun below => ?_)
      have long := below.length_le
      have some := List.length_pos_iff.mpr inner
      rw [List.length_dropLast] at long some
      omega

theorem map (housed : entries.Housed) {change : Entry → Entry} (folders : change .folder = .folder) :
    Housed (entries.map fun item => (item.1, change item.2)) where
  distinct := by
    rw [List.map_map]
    exact housed.distinct
  room := by
    intro item member
    obtain ⟨old, listed, rfl⟩ := List.mem_map.mp member
    have room := housed.room old listed
    exact ⟨room.called, room.standing.imp_right fun folder =>
      List.mem_map.mpr ⟨_, folder, by rw [folders]⟩⟩

theorem moved (housed : entries.Housed) (room : entries.HasRoom target)
    (vacant : ∀ item ∈ entries, ¬ target <+: item.1) (apart : ¬ source <+: target) :
    Housed (entries.map fun item => (moved source target item.1, item.2)) where
  distinct := by
    have distinct := housed.distinct
    rw [List.Nodup, List.pairwise_map] at distinct
    rw [List.map_map, List.Nodup, List.pairwise_map]
    exact distinct.imp_of_mem fun {first second} listed member other same =>
      other (moved_inj (vacant first listed) (vacant second member) same)
  room := by
    -- A folder outside of what is moved is still where it was.
    have still {location : Location} (away : ¬ source <+: location)
        (standing : location = [] ∨ (location, .folder) ∈ entries) :
        location = [] ∨ (location, .folder) ∈
          entries.map fun item => (Entries.moved source target item.1, item.2) :=
      standing.imp_right fun folder => List.mem_map.mpr ⟨_, folder, by rw [moved_outside away]⟩
    intro item member
    obtain ⟨⟨location, entry⟩, listed, rfl⟩ := List.mem_map.mp member
    have old := housed.room _ listed
    by_cases inside : source <+: location
    · obtain ⟨rest, rfl⟩ := inside
      rw [moved_below]
      rcases List.eq_nil_or_concat rest with rfl | ⟨above, name, rfl⟩
      · rw [List.append_nil]
        exact ⟨room.called, still (fun below => apart <| below.trans <| List.dropLast_prefix target)
          room.standing⟩
      · rw [List.concat_eq_append] at old ⊢
        refine ⟨fun other member => ?_, Or.inr ?_⟩
        · rcases List.mem_append.mp member with front | back
          · exact room.called other front
          · exact old.called other (List.mem_append_right _ back)
        · have folder := old.standing
          rw [← List.append_assoc, List.dropLast_concat] at folder ⊢
          refine List.mem_map.mpr ⟨_, folder.resolve_left fun root => ?_, by rw [moved_below]⟩
          rw [(List.append_eq_nil_iff.mp root).1] at apart
          exact apart List.nil_prefix
    · rw [moved_outside inside]
      exact ⟨old.called, still (fun below => inside <| below.trans <| List.dropLast_prefix location)
        old.standing⟩

end Housed

end Entries

end Assay
