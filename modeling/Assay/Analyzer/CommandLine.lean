import Assay.Path

/-!
Command lines, and flags that are added to the options of a case.
-/

namespace Assay

def withFlags (options flags : List String) : List String :=
  flags.foldl (fun combined flag => if flag ∈ combined then combined else combined ++ [flag]) options

theorem mem_withFlags (options flags : List String) (option : String) :
    option ∈ withFlags options flags ↔ option ∈ options ∨ option ∈ flags := by
  unfold withFlags
  induction flags generalizing options with
  | nil => simp
  | cons flag rest ih =>
    rw [List.foldl_cons, ih, List.mem_cons]
    split
    · next present =>
      constructor
      · rintro (old | later)
        · exact Or.inl old
        · exact Or.inr (Or.inr later)
      · rintro (old | same | later)
        · exact Or.inl old
        · exact Or.inl (same ▸ present)
        · exact Or.inr later
    · simp only [List.mem_append, List.mem_singleton, or_assoc]

structure CommandLine where
  program : Path
  arguments : List String
deriving DecidableEq, Repr

namespace CommandLine

def shown (line : CommandLine) : String :=
  " ".intercalate (line.program.text :: line.arguments)

end CommandLine

end Assay
