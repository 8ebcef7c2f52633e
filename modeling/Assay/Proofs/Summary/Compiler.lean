import Assay.Proofs.Summary.Basic
import Assay.Proofs.Text.Spaced

/-!
The grammar of a compiler's summary, on the text as it was written: a count, a noun and the word
`generated`, with blanks between them and anything around them. Of several counts the one that
starts furthest in front is read.
-/

namespace Assay.Diagnostics

open Text (IsGap IsSolid WordAt Begins Spaced words)

/-- Behind the first characters the text goes on with these digits, a noun or its plural, and
`generated`. -/
def Counts (noun text : String) (before digits : List Char) : Prop :=
  ∃ gap name gap' verb after,
    text.toList = before ++ digits ++ gap ++ name ++ gap' ++ verb ++ after ∧
    (digits ≠ [] ∧ ∀ c ∈ digits, c.isDigit = true) ∧ IsGap gap ∧
    (name.map Char.toLower = noun.toList ∨ name.map Char.toLower = noun.toList ++ ['s']) ∧
    IsGap gap' ∧ verb.map Char.toLower = "generated".toList

def CountsFirst (noun text : String) (before digits : List Char) : Prop :=
  Counts noun text before digits ∧
    ∀ other otherDigits, Counts noun text other otherDigits → before.length ≤ other.length

def Named (noun : String) (found : List (List Char)) : Prop :=
  ∃ name verb, (name.map Char.toLower = noun.toList ∨
      name.map Char.toLower = noun.toList ++ ['s']) ∧
    verb.map Char.toLower = "generated".toList ∧ Begins [name, verb] found

theorem isSolid_plural {noun : List Char} (solid : IsSolid noun) : IsSolid (noun ++ ['s']) := by
  refine ⟨by simp, List.forall_mem_append.mpr ⟨solid.2, ?_⟩⟩
  simpa using Text.isBlank_of_printed (show 33 ≤ 's'.toNat by decide) (by decide)

theorem isSolid_pieces {noun : String} (solid : IsSolid noun.toList) {digits name verb : List Char}
    (digitsSolid : IsSolid digits)
    (named : name.map Char.toLower = noun.toList ∨ name.map Char.toLower = noun.toList ++ ['s'])
    (generated : verb.map Char.toLower = "generated".toList) :
    ∀ piece ∈ [digits, name, verb], IsSolid piece := by
  have nameSolid : IsSolid name := by
    refine isSolid_of_map_toLower ?_
    rcases named with same | same
    · rwa [same]
    · rw [same]
      exact isSolid_plural solid
  have verbSolid : IsSolid verb := by
    refine isSolid_of_map_toLower ?_
    rw [generated]
    exact Text.isSolid_of_all (by decide) (by decide)
  simp only [List.forall_mem_cons]
  exact ⟨digitsSolid, nameSolid, verbSolid, by simp⟩

theorem counts_iff {noun : String} (solid : IsSolid noun.toList) {text : String}
    {before digits : List Char} :
    Counts noun text before digits ↔
      ∃ front part after, before = front ++ part ∧
        WordAt text.toList front (part ++ digits) after ∧ Named noun (words after) ∧
        digits ≠ [] ∧ ∀ c ∈ digits, c.isDigit = true := by
  constructor
  · rintro ⟨gap, name, gap', verb, after, split, ⟨nonempty, all⟩, gapped, named, gapped', generated⟩
    have pieces := isSolid_pieces solid (isSolid_digits nonempty all) named generated
    have spaced : Spaced [digits, name, verb]
        (digits ++ (gap ++ (name ++ (gap' ++ (verb ++ after))))) :=
      Spaced.next gapped (Spaced.next gapped' (Spaced.last verb after))
    obtain ⟨front, part, behind, whole, here, begins⟩ := (Text.spaced_iff (by simp) pieces).mp
      ⟨_, by simpa only [List.append_assoc] using split, spaced⟩
    exact ⟨front, part, behind, whole, here, ⟨name, verb, named, generated, begins⟩, nonempty, all⟩
  · rintro ⟨front, part, behind, whole, here, ⟨name, verb, named, generated, begins⟩, nonempty, all⟩
    have pieces := isSolid_pieces solid (isSolid_digits nonempty all) named generated
    obtain ⟨rest, split, spaced⟩ :=
      (Text.spaced_iff (by simp) pieces).mpr ⟨front, part, behind, whole, here, begins⟩
    cases spaced with
    | @next _ gap _ _ gapped others =>
        cases others with
        | @next _ gap' _ _ gapped' last =>
            cases last with
            | last _ after =>
                refine ⟨gap, name, gap', verb, after, ?_, ⟨nonempty, all⟩, gapped, named, gapped',
                  generated⟩
                simpa only [List.append_assoc] using split
            | next _ none => cases none

def countAt (noun : List Char) : List (List Char) → Option UInt32
  | number :: name :: verb :: _ =>
    if isNoun noun name && "generated".toList.isPrefixOf verb then count? (finalDigits number)
    else none
  | _ => none

theorem generatedCount_eq (noun : List Char) (found : List (List Char)) :
    generatedCount noun found = firstSome (countAt noun) found := by
  induction found with
  | nil => rfl
  | cons number rest ih =>
      rw [firstSome]
      cases rest with
      | nil => rfl
      | cons name rest =>
          cases rest with
          | nil => rfl
          | cons verb others =>
              rw [generatedCount, countAt]
              split
              · cases count? (finalDigits number) with
                | none => exact ih
                | some count => rfl
              · exact ih

theorem named_iff {noun : String} {found : List (List Char)} :
    Named noun found ↔ ∃ name verb others,
      found.map (List.map Char.toLower) = name :: verb :: others ∧
        isNoun noun.toList name = true ∧ "generated".toList.isPrefixOf verb = true := by
  constructor
  · rintro ⟨name, verb, named, generated, begins⟩
    cases begins with
    | next rest =>
        cases rest with
        | last _ tail others =>
            refine ⟨_, _, _, rfl, by simpa [isNoun] using named, ?_⟩
            rw [List.isPrefixOf_iff_prefix, List.map_append, generated]
            exact List.prefix_append _ _
        | next none => cases none
  · rintro ⟨lowName, lowVerb, lowOthers, lowered, named, generated⟩
    obtain ⟨name, rest, rfl, rfl, restLowered⟩ := List.map_eq_cons_iff.mp lowered
    obtain ⟨word, others, rfl, rfl, -⟩ := List.map_eq_cons_iff.mp restLowered
    obtain ⟨tail, split⟩ := List.isPrefixOf_iff_prefix.mp generated
    obtain ⟨verb, more, rfl, spelled, -⟩ := List.map_eq_append_iff.mp split.symm
    exact ⟨name, verb, by simpa [isNoun] using named, spelled,
      Begins.next (Begins.last verb more others)⟩

theorem countAt_eq_some_iff {noun : String} {number : List Char} {following : List (List Char)}
    {count : UInt32} :
    countAt noun.toList ((number :: following).map (List.map Char.toLower)) = some count ↔
      Named noun following ∧ finalDigits number ≠ [] ∧
        saturate (Text.digitsValue (finalDigits number)) = count := by
  rw [named_iff, List.map_cons]
  cases lowered : following.map (List.map Char.toLower) with
  | nil => simp [countAt]
  | cons name rest =>
      cases rest with
      | nil => simp [countAt]
      | cons verb others =>
          rw [countAt, count?_finalDigits, finalDigits_map_toLower]
          split
          · next fits =>
              rw [Bool.and_eq_true] at fits
              have begins : ∃ name' verb' others',
                  name :: verb :: others = name' :: verb' :: others' ∧
                    isNoun noun.toList name' = true ∧
                    "generated".toList.isPrefixOf verb' = true :=
                ⟨name, verb, others, rfl, fits⟩
              simp only [begins, true_and]
              split
              · next empty => simp [empty]
              · next nonempty => simp [nonempty]
          · next misfits =>
              rw [Bool.and_eq_true] at misfits
              simp only [reduceCtorEq, false_iff]
              rintro ⟨⟨_, _, _, same, fits⟩, _⟩
              obtain ⟨sameName, sameRest⟩ := List.cons.inj same
              rw [← sameName, ← (List.cons.inj sameRest).1] at fits
              exact misfits fits

theorem exists_counts {noun : String} (solid : IsSolid noun.toList) {text : String}
    {front number after : List Char} (here : WordAt text.toList front number after)
    (named : Named noun (words after)) (digits : finalDigits number ≠ []) :
    ∃ part, number = part ++ finalDigits number ∧
      Counts noun text (front ++ part) (finalDigits number) := by
  obtain ⟨part, split⟩ := exists_finalDigits number
  refine ⟨part, split, (counts_iff solid).mpr ⟨front, part, after, rfl, ?_, named, digits, ?_⟩⟩
  · rwa [← split]
  · exact finalDigits_isDigit number

theorem generatedCount_some {noun text : String} {count : UInt32}
    (given : generatedCount noun.toList (lowerWords text) = some count) :
    ∃ front number after, WordAt text.toList front number after ∧ Named noun (words after) ∧
      finalDigits number ≠ [] ∧ saturate (Text.digitsValue (finalDigits number)) = count ∧
      ∀ front' number' after', WordAt text.toList front' number' after' →
        Named noun (words after') → finalDigits number' ≠ [] →
        (words front).length ≤ (words front').length := by
  rw [generatedCount_eq] at given
  obtain ⟨front, number, after, here, reads, least⟩ := firstSome_lowerWords given
  obtain ⟨named, digits, counted⟩ := countAt_eq_some_iff.mp reads
  refine ⟨front, number, after, here, named, digits, counted, ?_⟩
  intro front' number' after' there named' digits'
  have readable := countAt_eq_some_iff.mpr ⟨named', digits', rfl⟩
  exact least _ _ _ there (Option.isSome_of_eq_some readable)

theorem generatedCount_isSome_iff {noun : String} (solid : IsSolid noun.toList) (text : String) :
    (generatedCount noun.toList (lowerWords text)).isSome = true ↔
      ∃ before digits, Counts noun text before digits := by
  rw [generatedCount_eq, firstSome_lowerWords_isSome_iff]
  constructor
  · rintro ⟨front, number, after, here, readable⟩
    obtain ⟨count, reads⟩ := Option.isSome_iff_exists.mp readable
    obtain ⟨named, digits, -⟩ := countAt_eq_some_iff.mp reads
    obtain ⟨part, -, counts⟩ := exists_counts solid here named digits
    exact ⟨front ++ part, finalDigits number, counts⟩
  · rintro ⟨before, digits, counts⟩
    obtain ⟨front, part, after, -, here, named, nonempty, all⟩ := (counts_iff solid).mp counts
    have final : finalDigits (part ++ digits) ≠ [] := by
      rw [finalDigits_append all]
      simp [nonempty]
    have readable := countAt_eq_some_iff.mpr ⟨named, final, rfl⟩
    exact ⟨front, part ++ digits, after, here, Option.isSome_of_eq_some readable⟩

theorem generatedCount_of_countsFirst {noun : String} (solid : IsSolid noun.toList) {text : String}
    {before digits : List Char} (first : CountsFirst noun text before digits) :
    generatedCount noun.toList (lowerWords text) = some (saturate (Text.digitsValue digits)) := by
  obtain ⟨counts, shortest⟩ := first
  obtain ⟨count, given⟩ := Option.isSome_iff_exists.mp
    ((generatedCount_isSome_iff solid text).mpr ⟨before, digits, counts⟩)
  obtain ⟨front, number, after, here, named, final, counted, least⟩ := generatedCount_some given
  obtain ⟨part, split, found⟩ := exists_counts solid here named final
  obtain ⟨front', part', after', rfl, there, named', nonempty, all⟩ := (counts_iff solid).mp counts
  have digitsHere : finalDigits (part' ++ digits) = finalDigits part' ++ digits :=
    finalDigits_append all part'
  have earlier := shortest _ _ found
  have fewer := least _ _ _ there named' (by simp [digitsHere, nonempty])
  have shorter : part.length < number.length := by
    have sizes := congrArg List.length split
    have some := List.length_pos_iff.mpr final
    rw [List.length_append] at sizes
    omega
  rw [List.length_append, List.length_append] at earlier
  obtain ⟨rfl, sameWord⟩ := here.eq_of_least there shorter (by omega) fewer
  have sameDigits : finalDigits number = digits := by
    rw [sameWord, digitsHere] at split
    rw [sameWord, digitsHere]
    have sizes := congrArg List.length split
    simp only [List.length_append] at sizes earlier
    have none : finalDigits part' = [] := List.eq_nil_of_length_eq_zero (by omega)
    rw [none, List.nil_append]
  rw [given, ← counted, sameDigits]

/-- What is read for a noun, from the counts of it that stand in the text. -/
structure Tells (noun text : String) (read : Option UInt32) (count : UInt32) : Prop where
  found : read.isSome = true ↔ ∃ before digits, Counts noun text before digits
  starts : read.isSome = true → ∃ before digits, CountsFirst noun text before digits
  first : ∀ before digits, CountsFirst noun text before digits →
    count.toNat = min (Text.decimal digits) 4294967295
  nothing : (¬ ∃ before digits, Counts noun text before digits) → count = 0
  kept : ∀ before digits, CountsFirst noun text before digits →
    (∃ digit ∈ digits, digit ≠ '0') → count ≠ 0

theorem tells_generatedCount {noun : String} (solid : IsSolid noun.toList) (text : String) :
    Tells noun text (generatedCount noun.toList (lowerWords text))
      ((generatedCount noun.toList (lowerWords text)).getD 0) where
  found := generatedCount_isSome_iff solid text
  starts some := exists_first ((generatedCount_isSome_iff solid text).mp some)
  first before digits first := by
    rw [generatedCount_of_countsFirst solid first, Option.getD_some, saturate_toNat,
      Text.digitsValue_eq_decimal]
  nothing none := by
    rw [← generatedCount_isSome_iff solid, Bool.not_eq_true, Option.isSome_eq_false_iff,
      Option.isNone_iff_eq_none] at none
    rw [none, Option.getD_none]
  kept before digits first some := by
    obtain ⟨_, _, _, _, _, _, _, all⟩ := (counts_iff solid).mp first.1
    rw [generatedCount_of_countsFirst solid first, Option.getD_some]
    exact saturate_ne_zero (Text.digitsValue_ne_zero all some)

/-- A compiler's summary is read by its grammar, errors and warnings apart. -/
theorem ofCompilerText_tells (text : String) :
    Tells "error" text (generatedCount "error".toList (lowerWords text))
        (ofCompilerText text).errors ∧
      Tells "warning" text (generatedCount "warning".toList (lowerWords text))
        (ofCompilerText text).warnings ∧
      ((ofCompilerText text).found = true ↔
        (∃ before digits, Counts "error" text before digits) ∨
          ∃ before digits, Counts "warning" text before digits) := by
  have error : IsSolid "error".toList := Text.isSolid_of_all (by decide) (by decide)
  have warning : IsSolid "warning".toList := Text.isSolid_of_all (by decide) (by decide)
  have errors := tells_generatedCount error text
  have warnings := tells_generatedCount warning text
  refine ⟨errors, warnings, ?_⟩
  rw [← errors.found, ← warnings.found, ← Bool.or_eq_true]
  rfl

example : (ofCompilerText "a.c:x007 Errors\n GENERATED, 2 error generated").errors = 7 := by
  decide

example : (ofCompilerText "0004294967296 warnings generated.").warnings = 4294967295 := by
  decide

end Assay.Diagnostics
