import Mathlib.Data.List.Induction
import Mathlib.Data.List.Nodup
import Assay.Analyzer.CommandLine

/-!
Flags that are added to options. Each flag is looked for among all that stands there by then, the flags
added before it included; so the flags that are added are those that no option is, each once.
-/

namespace Assay

/-- The flags that the options lack, each once, in the order in which they are first named. -/
structure Added (options flags added : List String) : Prop where
  lacking : ∀ flag, flag ∈ added ↔ flag ∈ flags ∧ flag ∉ options
  once : added.Nodup
  ordered : added.Pairwise fun first second => flags.idxOf first < flags.idxOf second

theorem withFlags_append (options flags more : List String) :
    withFlags options (flags ++ more) = withFlags (withFlags options flags) more :=
  List.foldl_append

theorem withFlags_singleton (options : List String) (flag : String) :
    withFlags options [flag] = if flag ∈ options then options else options ++ [flag] := rfl

namespace Added

variable {options flags added : List String} {flag : String}

theorem nil (options : List String) : Added options [] [] where
  lacking := by simp
  once := List.nodup_nil
  ordered := List.Pairwise.nil

theorem ordered_concat (adds : Added options flags added) (flag : String) :
    added.Pairwise fun first second =>
      (flags ++ [flag]).idxOf first < (flags ++ [flag]).idxOf second := by
  refine adds.ordered.imp_of_mem fun {first second} member memberToo earlier => ?_
  rwa [List.idxOf_append_of_mem ((adds.lacking first).mp member).1,
    List.idxOf_append_of_mem ((adds.lacking second).mp memberToo).1]

theorem known (adds : Added options flags added) (present : flag ∈ options ++ added) :
    Added options (flags ++ [flag]) added where
  lacking other := by
    rw [adds.lacking, List.mem_append, List.mem_singleton]
    constructor
    · exact fun ⟨named, lacked⟩ => ⟨Or.inl named, lacked⟩
    · rintro ⟨named | rfl, lacked⟩
      · exact ⟨named, lacked⟩
      · exact (adds.lacking other).mp ((List.mem_append.mp present).resolve_left lacked)
  once := adds.once
  ordered := adds.ordered_concat flag

theorem unknown (adds : Added options flags added) (absent : flag ∉ options ++ added) :
    Added options (flags ++ [flag]) (added ++ [flag]) := by
  obtain ⟨lacked, new⟩ := not_or.mp fun either => absent (List.mem_append.mpr either)
  have unnamed : flag ∉ flags := fun named => new ((adds.lacking flag).mpr ⟨named, lacked⟩)
  constructor
  case lacking =>
    intro other
    rw [List.mem_append, List.mem_append, List.mem_singleton, adds.lacking]
    constructor
    · rintro (⟨named, lackedToo⟩ | rfl)
      · exact ⟨Or.inl named, lackedToo⟩
      · exact ⟨Or.inr rfl, lacked⟩
    · rintro ⟨named | rfl, lackedToo⟩
      · exact Or.inl ⟨named, lackedToo⟩
      · exact Or.inr rfl
  case once =>
    rw [← List.concat_eq_append]
    exact adds.once.concat new
  case ordered =>
    refine List.pairwise_append.mpr ⟨adds.ordered_concat flag, List.pairwise_singleton _ _, ?_⟩
    intro other member last listed
    obtain rfl := List.mem_singleton.mp listed
    have named := ((adds.lacking other).mp member).1
    rw [List.idxOf_append_of_mem named, List.idxOf_append_of_notMem unnamed]
    exact Nat.lt_add_right _ (List.idxOf_lt_length_of_mem named)

end Added

theorem exists_added (options flags : List String) :
    ∃ added, withFlags options flags = options ++ added ∧ Added options flags added := by
  induction flags using List.reverseRecOn with
  | nil => exact ⟨[], (List.append_nil options).symm, Added.nil options⟩
  | append_singleton flags flag ih =>
      obtain ⟨added, same, adds⟩ := ih
      rw [withFlags_append, same, withFlags_singleton]
      by_cases present : flag ∈ options ++ added
      · rw [if_pos present]
        exact ⟨added, rfl, adds.known present⟩
      · rw [if_neg present, List.append_assoc]
        exact ⟨added ++ [flag], rfl, adds.unknown present⟩

theorem withFlags_begins (options flags : List String) : options <+: withFlags options flags := by
  obtain ⟨added, same, -⟩ := exists_added options flags
  exact ⟨added, same.symm⟩

theorem Added.count {options flags added : List String} (adds : Added options flags added)
    (text : String) :
    (options ++ added).count text =
      if text ∈ flags then max 1 (options.count text) else options.count text := by
  rw [List.count_append, adds.once.count]
  by_cases named : text ∈ flags
  · by_cases given : text ∈ options
    · have present : 0 < options.count text := List.count_pos_iff.mpr given
      simp only [adds.lacking, named, given, not_true_eq_false, and_false, if_false, if_true]
      omega
    · have absent : options.count text = 0 := List.count_eq_zero.mpr given
      simp [adds.lacking, named, given, absent]
  · simp [adds.lacking, named]

theorem withFlags_of_subset {options flags : List String} (given : flags ⊆ options) :
    withFlags options flags = options := by
  obtain ⟨added, same, adds⟩ := exists_added options flags
  have empty : added = [] := List.eq_nil_iff_forall_not_mem.mpr fun flag member =>
    ((adds.lacking flag).mp member).2 (given ((adds.lacking flag).mp member).1)
  rw [same, empty, List.append_nil]

/-- The options stay in front, followed by the flags that they lack; so no option is lost or repeated,
every flag stands there, and adding in two steps is adding at once. -/
theorem withFlags_exact (options flags : List String) :
    (∃ added, withFlags options flags = options ++ added ∧ Added options flags added) ∧
      options <+: withFlags options flags ∧
      (∀ text, (withFlags options flags).count text =
        if text ∈ flags then max 1 (options.count text) else options.count text) ∧
      (∀ more, withFlags (withFlags options flags) more = withFlags options (flags ++ more)) ∧
      withFlags (withFlags options flags) flags = withFlags options flags := by
  obtain ⟨added, same, adds⟩ := exists_added options flags
  refine ⟨⟨added, same, adds⟩, withFlags_begins options flags, fun text => ?_, fun more => ?_, ?_⟩
  · rw [same]
    exact adds.count text
  · exact (withFlags_append options flags more).symm
  · exact withFlags_of_subset fun flag named => (mem_withFlags options flags flag).mpr (Or.inr named)

example : withFlags ["-I", "inc", "-I"] ["-W", "-I", "-E", "-W"] =
    ["-I", "inc", "-I", "-W", "-E"] := by decide

end Assay
