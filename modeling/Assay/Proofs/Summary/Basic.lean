import Mathlib.Data.List.Induction
import Mathlib.Data.Nat.Digits.Defs
import Assay.Diagnostics
import Assay.Proofs.Text.Words

/-!
What both summaries are read with: letters without regard to case, digits at the end of a word, and
the first place among the words where something can be read.
-/

namespace Assay.Text

theorem toLower_cases (c : Char) :
    c.toLower = c ∨ 65 ≤ c.toNat ∧ c.toNat ≤ 90 ∧ c.toLower.toNat = c.toNat + 32 := by
  unfold Char.toLower
  split
  · next upper =>
      have low : 65 ≤ c.val.toNat := UInt32.le_iff_toNat_le.mp upper.1
      have high : c.val.toNat ≤ 90 := UInt32.le_iff_toNat_le.mp upper.2
      refine Or.inr ⟨low, high, ?_⟩
      have moved : (c.val + 32).toNat = c.val.toNat + 32 := by
        rw [UInt32.toNat_add]
        exact Nat.mod_eq_of_lt (by simp only [UInt32.reduceToNat]; omega)
      exact moved
  · exact Or.inl rfl

theorem isBlank_of_printed {c : Char} (low : 33 ≤ c.toNat) (high : c.toNat ≤ 126) :
    isBlank c = false := by
  simp only [isBlank, blankRanges, List.any_cons, List.any_nil, Bool.or_eq_false_iff,
    Bool.and_eq_false_iff, decide_eq_false_iff_not, and_true]
  omega

theorem isBlank_toLower (c : Char) : isBlank c.toLower = isBlank c := by
  rcases toLower_cases c with same | ⟨low, high, moved⟩
  · rw [same]
  · rw [isBlank_of_printed (by omega) (by omega), isBlank_of_printed (by omega) (by omega)]

theorem isDigit_iff {c : Char} : c.isDigit = true ↔ 48 ≤ c.toNat ∧ c.toNat ≤ 57 := by
  simp only [Char.isDigit, Bool.and_eq_true, decide_eq_true_eq, ge_iff_le, UInt32.le_iff_toNat_le]
  exact Iff.rfl

theorem isDigit_toLower (c : Char) : c.toLower.isDigit = c.isDigit := by
  rcases toLower_cases c with same | ⟨low, high, moved⟩
  · rw [same]
  · rw [Bool.eq_iff_iff, isDigit_iff, isDigit_iff, moved]
    omega

theorem toLower_of_isDigit {c : Char} (digit : c.isDigit = true) : c.toLower = c := by
  rcases toLower_cases c with same | ⟨low, high, moved⟩
  · exact same
  · have small := (isDigit_iff.mp digit).2
    omega

theorem isBlank_of_isDigit {c : Char} (digit : c.isDigit = true) : isBlank c = false := by
  have bounds := isDigit_iff.mp digit
  exact isBlank_of_printed (by omega) (by omega)

theorem digitsValue_append (digits : List Char) (digit : Char) :
    digitsValue (digits ++ [digit]) = 10 * digitsValue digits + (digit.toNat - '0'.toNat) :=
  List.foldl_append

def decimal (digits : List Char) : Nat :=
  Nat.ofDigits 10 (digits.reverse.map fun digit => digit.toNat - '0'.toNat)

theorem digitsValue_eq_decimal (digits : List Char) : digitsValue digits = decimal digits := by
  induction digits using List.reverseRecOn with
  | nil => rfl
  | append_singleton digits digit ih =>
      rw [digitsValue_append, ih, decimal, decimal, List.reverse_append, List.reverse_singleton,
        List.singleton_append, List.map_cons, Nat.ofDigits_cons]
      omega

theorem digitsValue_ne_zero {digits : List Char} (all : ∀ c ∈ digits, c.isDigit = true)
    (some : ∃ digit ∈ digits, digit ≠ '0') : digitsValue digits ≠ 0 := by
  induction digits using List.reverseRecOn with
  | nil => simp at some
  | append_singleton digits digit ih =>
      rw [List.forall_mem_append] at all
      obtain ⟨other, member, nonzero⟩ := some
      rw [digitsValue_append]
      rcases List.mem_append.mp member with inFront | last
      · have before := ih all.1 ⟨other, inFront, nonzero⟩
        omega
      · obtain rfl := List.mem_singleton.mp last
        have bounds := isDigit_iff.mp (all.2 other List.mem_cons_self)
        have different : other.toNat ≠ '0'.toNat := fun same => nonzero (Char.toNat_inj.mp same)
        have zero : '0'.toNat = 48 := rfl
        omega

end Assay.Text

namespace Assay.Diagnostics

theorem saturate_toNat (count : Nat) : (saturate count).toNat = min count 4294967295 := by
  unfold saturate
  rw [UInt32.toNat_ofNat']
  exact Nat.mod_eq_of_lt (by omega)

theorem saturate_ne_zero {count : Nat} (some : count ≠ 0) : saturate count ≠ 0 := by
  intro zero
  have number := saturate_toNat count
  rw [zero, UInt32.toNat_zero] at number
  omega

theorem finalDigits_isDigit (word : List Char) : ∀ c ∈ finalDigits word, c.isDigit = true := by
  intro c member
  rw [finalDigits, List.mem_reverse] at member
  exact List.all_eq_true.mp List.all_takeWhile c member

theorem exists_finalDigits (word : List Char) : ∃ part, word = part ++ finalDigits word := by
  refine ⟨(word.reverse.dropWhile Char.isDigit).reverse, ?_⟩
  rw [finalDigits, ← List.reverse_append, List.takeWhile_append_dropWhile, List.reverse_reverse]

theorem finalDigits_append {digits : List Char} (all : ∀ c ∈ digits, c.isDigit = true)
    (part : List Char) : finalDigits (part ++ digits) = finalDigits part ++ digits := by
  rw [finalDigits, List.reverse_append, List.takeWhile_append_of_pos (by simpa using all),
    List.reverse_append, List.reverse_reverse, finalDigits]

theorem count?_finalDigits (word : List Char) :
    count? (finalDigits word) =
      if finalDigits word = [] then none
      else some (saturate (Text.digitsValue (finalDigits word))) := by
  have digits : (finalDigits word).all Char.isDigit = true :=
    List.all_eq_true.mpr (finalDigits_isDigit word)
  unfold count?
  by_cases empty : finalDigits word = [] <;> simp [empty, digits]

theorem finalDigits_map_toLower (word : List Char) :
    finalDigits (word.map Char.toLower) = finalDigits word := by
  have same : Char.isDigit ∘ Char.toLower = Char.isDigit := funext Text.isDigit_toLower
  have lowered : (finalDigits word).map Char.toLower = finalDigits word := by
    calc (finalDigits word).map Char.toLower = (finalDigits word).map id :=
          List.map_congr_left fun c member =>
            Text.toLower_of_isDigit (finalDigits_isDigit word c member)
      _ = finalDigits word := List.map_id _
  calc finalDigits (word.map Char.toLower) = (finalDigits word).map Char.toLower := by
        rw [finalDigits, ← List.map_reverse, List.takeWhile_map, same, ← List.map_reverse,
          finalDigits]
    _ = finalDigits word := lowered

/-- What is read at the first of the words from which on something can be read. -/
def firstSome {α : Type} (read : List (List Char) → Option α) : List (List Char) → Option α
  | [] => none
  | word :: rest =>
    match read (word :: rest) with
    | some value => some value
    | none => firstSome read rest

theorem firstSome_eq_none_iff {α : Type} {read : List (List Char) → Option α}
    {found : List (List Char)} :
    firstSome read found = none ↔
      ∀ front word rest, found = front ++ word :: rest → read (word :: rest) = none := by
  induction found with
  | nil => simp [firstSome]
  | cons head tail ih =>
      rw [firstSome]
      cases here : read (head :: tail) with
      | some value =>
          simp only [reduceCtorEq, false_iff]
          intro all
          simp [all [] head tail rfl] at here
      | none =>
          rw [ih]
          constructor
          · intro all front word rest split
            cases front with
            | nil =>
                obtain ⟨rfl, rfl⟩ := List.cons.inj split
                exact here
            | cons _ more => exact all more word rest (List.cons.inj split).2
          · intro all front word rest split
            exact all (head :: front) word rest (by rw [split]; rfl)

theorem firstSome_eq_some {α : Type} {read : List (List Char) → Option α}
    {found : List (List Char)} {value : α} (given : firstSome read found = some value) :
    ∃ front word rest, found = front ++ word :: rest ∧ read (word :: rest) = some value ∧
      ∀ other word' rest', found = other ++ word' :: rest' → (read (word' :: rest')).isSome →
        front.length ≤ other.length := by
  induction found with
  | nil => simp [firstSome] at given
  | cons head tail ih =>
      rw [firstSome] at given
      cases here : read (head :: tail) with
      | some first =>
          simp only [here, Option.some.injEq] at given
          exact ⟨[], head, tail, rfl, by rw [here, given], by simp⟩
      | none =>
          simp only [here] at given
          obtain ⟨front, word, rest, rfl, reads, least⟩ := ih given
          refine ⟨head :: front, word, rest, rfl, reads, ?_⟩
          intro other word' rest' split readable
          cases other with
          | nil =>
              obtain ⟨rfl, rfl⟩ := List.cons.inj split
              simp [here] at readable
          | cons _ more =>
              have shorter := least more word' rest' (List.cons.inj split).2 readable
              simpa using shorter

open Text (IsSolid WordAt words)

theorem isSolid_of_map_toLower {piece : List Char} (solid : IsSolid (piece.map Char.toLower)) :
    IsSolid piece := by
  refine ⟨by simpa using solid.1, fun c member => ?_⟩
  rw [← Text.isBlank_toLower]
  exact solid.2 _ (List.mem_map.mpr ⟨c, member, rfl⟩)

theorem isSolid_digits {digits : List Char} (nonempty : digits ≠ [])
    (all : ∀ c ∈ digits, c.isDigit = true) : IsSolid digits :=
  ⟨nonempty, fun c member => Text.isBlank_of_isDigit (all c member)⟩

theorem lowerWords_eq (text : String) :
    lowerWords text = (words text.toList).map (List.map Char.toLower) :=
  Text.words_map Text.isBlank_toLower text.toList

def lowerFrom (word after : List Char) : List (List Char) :=
  (word :: words after).map (List.map Char.toLower)

theorem lowerWords_split {text : String} {front word after : List Char}
    (here : WordAt text.toList front word after) :
    lowerWords text = (words front).map (List.map Char.toLower) ++ lowerFrom word after := by
  rw [lowerWords_eq, here.words_eq, List.map_append, lowerFrom]

theorem exists_wordAt_of_lowerWords {text : String} {first rest : List (List Char)}
    {word : List Char} (split : lowerWords text = first ++ word :: rest) :
    ∃ front here after, WordAt text.toList front here after ∧
      first = (words front).map (List.map Char.toLower) ∧ word :: rest = lowerFrom here after := by
  rw [lowerWords_eq] at split
  obtain ⟨inFront, others, listed, rfl, lowered⟩ := List.map_eq_append_iff.mp split
  obtain ⟨here, following, rfl, rfl, rfl⟩ := List.map_eq_cons_iff.mp lowered
  obtain ⟨front, after, stands, rfl, rfl⟩ := Text.exists_wordAt listed
  exact ⟨front, here, after, stands, rfl, rfl⟩

theorem firstSome_lowerWords {α : Type} {read : List (List Char) → Option α} {text : String}
    {value : α} (given : firstSome read (lowerWords text) = some value) :
    ∃ front word after, WordAt text.toList front word after ∧
      read (lowerFrom word after) = some value ∧
      ∀ front' word' after', WordAt text.toList front' word' after' →
        (read (lowerFrom word' after')).isSome → (words front).length ≤ (words front').length := by
  obtain ⟨first, lowWord, rest, split, reads, least⟩ := firstSome_eq_some given
  obtain ⟨front, word, after, here, rfl, lowered⟩ := exists_wordAt_of_lowerWords split
  refine ⟨front, word, after, here, lowered ▸ reads, ?_⟩
  intro front' word' after' there readable
  have further := least _ _ _ (lowerWords_split there) readable
  simpa using further

theorem firstSome_lowerWords_isSome_iff {α : Type} {read : List (List Char) → Option α}
    {text : String} :
    (firstSome read (lowerWords text)).isSome = true ↔
      ∃ front word after, WordAt text.toList front word after ∧
        (read (lowerFrom word after)).isSome = true := by
  constructor
  · intro found
    obtain ⟨value, given⟩ := Option.isSome_iff_exists.mp found
    obtain ⟨front, word, after, here, reads, -⟩ := firstSome_lowerWords given
    exact ⟨front, word, after, here, Option.isSome_of_eq_some reads⟩
  · rintro ⟨front, word, after, here, readable⟩
    refine Option.isSome_iff_ne_none.mpr fun none => ?_
    have unreadable := firstSome_eq_none_iff.mp none _ _ _ (lowerWords_split here)
    rw [lowerFrom, List.map_cons, unreadable] at readable
    simp at readable

theorem exists_first {α : Type} {stands : List Char → α → Prop}
    (some : ∃ before data, stands before data) :
    ∃ before data, stands before data ∧
      ∀ other otherData, stands other otherData → before.length ≤ other.length := by
  classical
  have lengths : ∃ length before data, stands before data ∧ before.length = length := by
    obtain ⟨before, data, here⟩ := some
    exact ⟨_, before, data, here, rfl⟩
  obtain ⟨before, data, here, shortest⟩ := Nat.find_spec lengths
  refine ⟨before, data, here, fun other otherData there => ?_⟩
  rw [shortest]
  exact Nat.find_min' lengths ⟨other, otherData, there, rfl⟩

end Assay.Diagnostics
