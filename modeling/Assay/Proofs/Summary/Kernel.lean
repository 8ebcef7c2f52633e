import Assay.Proofs.Summary.Basic
import Assay.Proofs.Text.Spaced

/-!
The grammar of a kernel line, on the text as it was written: the tool, the word `kernel:`, a count
of errors and a count of warnings, with blanks between them and anything around them. Both counts
are read from the one line that starts furthest in front; a line that goes wrong anywhere is no
line.
-/

namespace Assay.Diagnostics

open Text (IsGap IsSolid WordAt Begins Spaced words)

def IsNumber (digits : List Char) : Prop := digits ≠ [] ∧ ∀ c ∈ digits, c.isDigit = true

/-- Behind the first characters the text goes on with a kernel line that has these counts. -/
def KernelLine (text : String) (before errors warnings : List Char) : Prop :=
  ∃ tool gap kernel gap' gap'' noun gap₃ gap₄ last after,
    text.toList = before ++ tool ++ gap ++ kernel ++ gap' ++ errors ++ gap'' ++ noun ++ gap₃ ++
      warnings ++ gap₄ ++ last ++ after ∧
    tool.map Char.toLower = "frama-c".toList ∧ IsGap gap ∧
    kernel.map Char.toLower = "kernel:".toList ∧ IsGap gap' ∧ IsNumber errors ∧ IsGap gap'' ∧
    (noun.map Char.toLower = "error".toList ∨ noun.map Char.toLower = "errors".toList) ∧
    IsGap gap₃ ∧ IsNumber warnings ∧ IsGap gap₄ ∧ last.map Char.toLower = "warning".toList

def FirstKernelLine (text : String) (before errors warnings : List Char) : Prop :=
  KernelLine text before errors warnings ∧
    ∀ other otherErrors otherWarnings, KernelLine text other otherErrors otherWarnings →
      before.length ≤ other.length

def GoesOn (errors warnings : List Char) (found : List (List Char)) : Prop :=
  ∃ kernel noun last, kernel.map Char.toLower = "kernel:".toList ∧
    (noun.map Char.toLower = "error".toList ∨ noun.map Char.toLower = "errors".toList) ∧
    last.map Char.toLower = "warning".toList ∧ IsNumber errors ∧ IsNumber warnings ∧
    Begins [kernel, errors, noun, warnings, last] found

theorem IsNumber.map_toLower {digits : List Char} (number : IsNumber digits) :
    digits.map Char.toLower = digits := by
  calc digits.map Char.toLower = digits.map id :=
        List.map_congr_left fun c member => Text.toLower_of_isDigit (number.2 c member)
    _ = digits := List.map_id _

theorem isNumber_map_toLower_iff {word : List Char} :
    IsNumber (word.map Char.toLower) ↔ IsNumber word := by
  unfold IsNumber
  rw [ne_eq, List.map_eq_nil_iff, List.forall_mem_map]
  simp only [Text.isDigit_toLower]

theorem count?_eq_some_iff {word : List Char} {count : UInt32} :
    count? word = some count ↔ IsNumber word ∧ saturate (Text.digitsValue word) = count := by
  unfold count? IsNumber
  simp only [List.all_eq_true]
  split
  · next number =>
      rw [Option.some.injEq]
      exact (and_iff_right number).symm
  · next other => exact iff_of_false (by simp) fun given => other given.1

theorem firstKernelCounts_eq (found : List (List Char)) :
    firstKernelCounts found = firstSome kernelCounts found := by
  induction found with
  | nil => rfl
  | cons word rest ih =>
      rw [firstKernelCounts, firstSome, ih]
      cases kernelCounts (word :: rest) <;> rfl

theorem kernelCounts_eq_some_iff {found : List (List Char)} {counts : UInt32 × UInt32} :
    kernelCounts found = some counts ↔
      ∃ tool kernel errors noun warnings last others,
        found = tool :: kernel :: errors :: noun :: warnings :: last :: others ∧
        "frama-c".toList <:+ tool ∧ kernel = "kernel:".toList ∧
        (noun = "error".toList ∨ noun = "errors".toList) ∧ "warning".toList <+: last ∧
        count? errors = some counts.1 ∧ count? warnings = some counts.2 := by
  constructor
  · intro given
    unfold kernelCounts at given
    split at given
    · next tool kernel errors noun warnings last others =>
        split at given
        · next fits =>
            simp only [Bool.and_eq_true, List.isSuffixOf_iff_suffix, beq_iff_eq, isNoun,
              Bool.or_eq_true, List.isPrefixOf_iff_prefix] at fits
            obtain ⟨⟨⟨suffix, exact⟩, named⟩, starts⟩ := fits
            split at given
            · next counted counted' =>
                obtain rfl := Option.some.inj given
                exact ⟨tool, kernel, errors, noun, warnings, last, others, rfl, suffix, exact,
                  named, starts, counted, counted'⟩
            · simp at given
        · simp at given
    · simp at given
  · rintro ⟨tool, kernel, errors, noun, warnings, last, others, rfl, suffix, rfl, named, starts,
      counted, counted'⟩
    have fits : ("frama-c".toList.isSuffixOf tool && "kernel:".toList == "kernel:".toList
        && isNoun "error".toList noun && "warning".toList.isPrefixOf last) = true := by
      simp only [Bool.and_eq_true, List.isSuffixOf_iff_suffix, isNoun, Bool.or_eq_true,
        beq_iff_eq, List.isPrefixOf_iff_prefix]
      exact ⟨⟨⟨suffix, trivial⟩, named⟩, starts⟩
    rw [kernelCounts, if_pos fits, counted, counted']

theorem kernelCounts_lowerFrom_iff {word after : List Char} {counts : UInt32 × UInt32} :
    kernelCounts (lowerFrom word after) = some counts ↔
      (∃ part tool, word = part ++ tool ∧ tool.map Char.toLower = "frama-c".toList) ∧
        ∃ errors warnings, GoesOn errors warnings (words after) ∧
          saturate (Text.digitsValue errors) = counts.1 ∧
          saturate (Text.digitsValue warnings) = counts.2 := by
  rw [kernelCounts_eq_some_iff, lowerFrom, List.map_cons]
  constructor
  · rintro ⟨lowTool, lowKernel, lowErrors, lowNoun, lowWarnings, lowLast, lowOthers, lowered,
      ⟨lowPart, suffix⟩, spelled, named, ⟨lowTail, starts⟩, counted, counted'⟩
    obtain ⟨rfl, restKernel⟩ := List.cons.inj lowered
    obtain ⟨kernel, _, listed, rfl, restErrors⟩ := List.map_eq_cons_iff.mp restKernel
    obtain ⟨errors, _, rfl, rfl, restNoun⟩ := List.map_eq_cons_iff.mp restErrors
    obtain ⟨noun, _, rfl, rfl, restWarnings⟩ := List.map_eq_cons_iff.mp restNoun
    obtain ⟨warnings, _, rfl, rfl, restLast⟩ := List.map_eq_cons_iff.mp restWarnings
    obtain ⟨last, others, rfl, rfl, -⟩ := List.map_eq_cons_iff.mp restLast
    obtain ⟨part, tool, rfl, -, spelledTool⟩ := List.map_eq_append_iff.mp suffix.symm
    obtain ⟨head, tail, rfl, spelledLast, -⟩ := List.map_eq_append_iff.mp starts.symm
    obtain ⟨number, counted⟩ := count?_eq_some_iff.mp counted
    obtain ⟨number', counted'⟩ := count?_eq_some_iff.mp counted'
    rw [isNumber_map_toLower_iff] at number number'
    rw [number.map_toLower] at counted
    rw [number'.map_toLower] at counted'
    refine ⟨⟨part, tool, rfl, spelledTool⟩, errors, warnings, ?_, counted, counted'⟩
    refine ⟨kernel, noun, head, spelled, named, spelledLast, number, number', ?_⟩
    exact (@Text.begins_concat_iff [kernel, errors, noun, warnings] _ _).mpr
      ⟨tail, others, listed⟩
  · rintro ⟨⟨part, tool, rfl, spelledTool⟩, errors, warnings,
      ⟨kernel, noun, last, spelled, named, spelledLast, number, number', begins⟩, counted, counted'⟩
    obtain ⟨tail, others, listed⟩ :=
      (@Text.begins_concat_iff [kernel, errors, noun, warnings] _ _).mp begins
    rw [listed]
    refine ⟨_, _, _, _, _, _, _, rfl, ?_, spelled, named, ?_, ?_, ?_⟩
    · exact ⟨part.map Char.toLower, by rw [List.map_append, spelledTool]⟩
    · exact ⟨tail.map Char.toLower, by rw [List.map_append, spelledLast]⟩
    · rw [number.map_toLower]
      exact count?_eq_some_iff.mpr ⟨number, counted⟩
    · rw [number'.map_toLower]
      exact count?_eq_some_iff.mpr ⟨number', counted'⟩

theorem kernelCounts_isSome {part tool after errors warnings : List Char}
    (spelledTool : tool.map Char.toLower = "frama-c".toList)
    (goesOn : GoesOn errors warnings (words after)) :
    (kernelCounts (lowerFrom (part ++ tool) after)).isSome = true := by
  have reads := (@kernelCounts_lowerFrom_iff _ _ (_, _)).mpr
    ⟨⟨part, tool, rfl, spelledTool⟩, errors, warnings, goesOn, rfl, rfl⟩
  exact Option.isSome_of_eq_some reads

theorem isSolid_of_spelled {piece : List Char} {spelling : String}
    (spelled : piece.map Char.toLower = spelling.toList) (nonempty : spelling.toList ≠ [])
    (letters : spelling.toList.all (fun c => !Text.isBlank c) = true) : IsSolid piece := by
  refine isSolid_of_map_toLower ?_
  rw [spelled]
  exact Text.isSolid_of_all nonempty letters

theorem isSolid_kernelLine {tool kernel errors noun warnings last : List Char}
    (spelledTool : tool.map Char.toLower = "frama-c".toList)
    (spelled : kernel.map Char.toLower = "kernel:".toList)
    (named : noun.map Char.toLower = "error".toList ∨ noun.map Char.toLower = "errors".toList)
    (spelledLast : last.map Char.toLower = "warning".toList) (number : IsNumber errors)
    (number' : IsNumber warnings) :
    ∀ piece ∈ [tool, kernel, errors, noun, warnings, last], IsSolid piece := by
  have nounSolid : IsSolid noun := by
    rcases named with singular | plural
    · exact isSolid_of_spelled singular (by decide) (by decide)
    · exact isSolid_of_spelled plural (by decide) (by decide)
  simp only [List.forall_mem_cons]
  exact ⟨isSolid_of_spelled spelledTool (by decide) (by decide),
    isSolid_of_spelled spelled (by decide) (by decide), isSolid_digits number.1 number.2,
    nounSolid, isSolid_digits number'.1 number'.2,
    isSolid_of_spelled spelledLast (by decide) (by decide), by simp⟩

theorem kernelLine_iff {text : String} {before errors warnings : List Char} :
    KernelLine text before errors warnings ↔
      ∃ front part tool after, before = front ++ part ∧
        WordAt text.toList front (part ++ tool) after ∧
        tool.map Char.toLower = "frama-c".toList ∧ GoesOn errors warnings (words after) := by
  constructor
  · rintro ⟨tool, gap, kernel, gap', gap'', noun, gap₃, gap₄, last, after, split, spelledTool,
      gapped, spelled, gapped', number, gapped'', named, gapped₃, number', gapped₄, spelledLast⟩
    have solid := isSolid_kernelLine spelledTool spelled named spelledLast number number'
    have spaced : Spaced [tool, kernel, errors, noun, warnings, last]
        (tool ++ (gap ++ (kernel ++ (gap' ++ (errors ++ (gap'' ++ (noun ++ (gap₃ ++
          (warnings ++ (gap₄ ++ (last ++ after))))))))))) :=
      Spaced.next gapped <| Spaced.next gapped' <| Spaced.next gapped'' <|
        Spaced.next gapped₃ <| Spaced.next gapped₄ <| Spaced.last last after
    obtain ⟨front, part, behind, whole, here, begins⟩ := (Text.spaced_iff (by simp) solid).mp
      ⟨_, by simpa only [List.append_assoc] using split, spaced⟩
    exact ⟨front, part, tool, behind, whole, here, spelledTool, kernel, noun, last, spelled, named,
      spelledLast, number, number', begins⟩
  · rintro ⟨front, part, tool, behind, whole, here, spelledTool, kernel, noun, last, spelled, named,
      spelledLast, number, number', begins⟩
    have solid := isSolid_kernelLine spelledTool spelled named spelledLast number number'
    obtain ⟨rest, split, spaced⟩ :=
      (Text.spaced_iff (by simp) solid).mpr ⟨front, part, behind, whole, here, begins⟩
    rcases spaced with _ | ⟨gapped, spaced⟩
    rcases spaced with _ | ⟨gapped', spaced⟩
    rcases spaced with _ | ⟨gapped'', spaced⟩
    rcases spaced with _ | ⟨gapped₃, spaced⟩
    rcases spaced with _ | ⟨gapped₄, spaced⟩
    rcases spaced with ⟨_, after⟩ | ⟨_, none⟩
    · refine ⟨tool, _, kernel, _, _, noun, _, _, last, after, ?_, spelledTool, gapped, spelled,
        gapped', number, gapped'', named, gapped₃, number', gapped₄, spelledLast⟩
      simpa only [List.append_assoc] using split
    · cases none

theorem GoesOn.unique {errors warnings errors' warnings' : List Char} {found : List (List Char)}
    (first : GoesOn errors warnings found) (second : GoesOn errors' warnings' found) :
    errors = errors' ∧ warnings = warnings' := by
  obtain ⟨kernel, noun, last, -, -, -, -, -, begins⟩ := first
  obtain ⟨kernel', noun', last', -, -, -, -, -, begins'⟩ := second
  obtain ⟨_, _, listed⟩ := (@Text.begins_concat_iff [kernel, errors, noun, warnings] _ _).mp begins
  obtain ⟨_, _, listed'⟩ :=
    (@Text.begins_concat_iff [kernel', errors', noun', warnings'] _ _).mp begins'
  have same := listed.symm.trans listed'
  simp only [List.cons_append, List.cons.injEq] at same
  exact ⟨same.2.1, same.2.2.2.1⟩

theorem firstKernelCounts_isSome_iff (text : String) :
    (firstKernelCounts (lowerWords text)).isSome = true ↔
      ∃ before errors warnings, KernelLine text before errors warnings := by
  rw [firstKernelCounts_eq, firstSome_lowerWords_isSome_iff]
  constructor
  · rintro ⟨front, word, after, here, readable⟩
    obtain ⟨counts, reads⟩ := Option.isSome_iff_exists.mp readable
    obtain ⟨⟨part, tool, rfl, spelledTool⟩, errors, warnings, goesOn, -⟩ :=
      kernelCounts_lowerFrom_iff.mp reads
    exact ⟨front ++ part, errors, warnings,
      kernelLine_iff.mpr ⟨front, part, tool, after, rfl, here, spelledTool, goesOn⟩⟩
  · rintro ⟨before, errors, warnings, line⟩
    obtain ⟨front, part, tool, after, -, here, spelledTool, goesOn⟩ := kernelLine_iff.mp line
    exact ⟨front, part ++ tool, after, here, kernelCounts_isSome spelledTool goesOn⟩

theorem firstKernelCounts_of_first {text : String} {before errors warnings : List Char}
    (first : FirstKernelLine text before errors warnings) :
    firstKernelCounts (lowerWords text) =
      some (saturate (Text.digitsValue errors), saturate (Text.digitsValue warnings)) := by
  obtain ⟨line, shortest⟩ := first
  obtain ⟨counts, given⟩ := Option.isSome_iff_exists.mp
    ((firstKernelCounts_isSome_iff text).mpr ⟨before, errors, warnings, line⟩)
  obtain ⟨front, word, after, here, reads, least⟩ :=
    firstSome_lowerWords ((firstKernelCounts_eq _).symm.trans given)
  obtain ⟨⟨part, tool, rfl, spelledTool⟩, readErrors, readWarnings, goesOn, counted, counted'⟩ :=
    kernelCounts_lowerFrom_iff.mp reads
  obtain ⟨front', part', tool', after', rfl, there, spelledTool', goesOn'⟩ := kernelLine_iff.mp line
  have earlier := shortest _ _ _
    (kernelLine_iff.mpr ⟨front, part, tool, after, rfl, here, spelledTool, goesOn⟩)
  have fewer := least _ _ _ there (kernelCounts_isSome spelledTool' goesOn')
  have inside : part.length < (part ++ tool).length := by
    have sizes := congrArg List.length spelledTool
    rw [List.length_map, show "frama-c".toList.length = 7 from rfl] at sizes
    rw [List.length_append]
    omega
  rw [List.length_append, List.length_append] at earlier
  obtain ⟨rfl, sameWord⟩ := here.eq_of_least there inside (by omega) fewer
  have sameAfter : after = after' := by
    have split := here.split.symm.trans there.split
    rw [← sameWord] at split
    exact List.append_cancel_left (List.append_cancel_left split)
  subst sameAfter
  obtain ⟨rfl, rfl⟩ := goesOn.unique goesOn'
  rw [given, counted, counted']

structure TellsKernel (text : String) (read : Diagnostics) : Prop where
  found : read.found = true ↔ ∃ before errors warnings, KernelLine text before errors warnings
  starts : read.found = true → ∃ before errors warnings, FirstKernelLine text before errors warnings
  first : ∀ before errors warnings, FirstKernelLine text before errors warnings →
    read.errors.toNat = min (Text.decimal errors) 4294967295 ∧
      read.warnings.toNat = min (Text.decimal warnings) 4294967295
  nothing : (¬ ∃ before errors warnings, KernelLine text before errors warnings) →
    read = { errors := 0, warnings := 0, found := false }

theorem exists_firstKernelLine {text : String}
    (some : ∃ before errors warnings, KernelLine text before errors warnings) :
    ∃ before errors warnings, FirstKernelLine text before errors warnings := by
  obtain ⟨before, errors, warnings, line⟩ := some
  obtain ⟨first, ⟨readErrors, readWarnings⟩, here, least⟩ :=
    @exists_first (List Char × List Char)
      (fun before counts => KernelLine text before counts.1 counts.2)
      ⟨before, (errors, warnings), line⟩
  exact ⟨first, readErrors, readWarnings, here, fun other otherErrors otherWarnings =>
    least other (otherErrors, otherWarnings)⟩

theorem ofKernelText_found (text : String) :
    (ofKernelText text).found = (firstKernelCounts (lowerWords text)).isSome := by
  unfold ofKernelText
  cases firstKernelCounts (lowerWords text) <;> rfl

theorem ofKernelText_of_first {text : String} {before errors warnings : List Char}
    (first : FirstKernelLine text before errors warnings) :
    (ofKernelText text).errors.toNat = min (Text.decimal errors) 4294967295 ∧
      (ofKernelText text).warnings.toNat = min (Text.decimal warnings) 4294967295 := by
  unfold ofKernelText
  rw [firstKernelCounts_of_first first, saturate_toNat, saturate_toNat,
    Text.digitsValue_eq_decimal, Text.digitsValue_eq_decimal]
  exact ⟨rfl, rfl⟩

/-- The summary of an abstract interpreter is read by its grammar, both counts from one line. -/
theorem ofKernelText_tells (text : String) : TellsKernel text (ofKernelText text) where
  found := by rw [ofKernelText_found, firstKernelCounts_isSome_iff]
  starts found := by
    rw [ofKernelText_found, firstKernelCounts_isSome_iff] at found
    exact exists_firstKernelLine found
  first _ _ _ first := ofKernelText_of_first first
  nothing none := by
    rw [← firstKernelCounts_isSome_iff, Bool.not_eq_true, Option.isSome_eq_false_iff,
      Option.isNone_iff_eq_none] at none
    rw [ofKernelText, none]

example : ofKernelText
    "Frama-C kernel: 1 error x warnings\n(frama-c Kernel: 02 errors 3 Warnings.)" =
      { errors := 2, warnings := 3, found := true } := by
  decide +kernel

end Assay.Diagnostics
