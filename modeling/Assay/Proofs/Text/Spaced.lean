import Assay.Proofs.Text.Words

/-!
Pieces of a text with blanks between them, against the words of the text. The first piece may end a
word and the last one may begin a word; those between them are whole words.
-/

namespace Assay.Text

inductive Spaced : List (List Char) → List Char → Prop
  | last (piece rest : List Char) : Spaced [piece] (piece ++ rest)
  | next {piece gap pieces text} : IsGap gap → Spaced pieces text →
      Spaced (piece :: pieces) (piece ++ (gap ++ text))

/-- The words begin with these pieces, the word of the last one perhaps going on. -/
inductive Begins : List (List Char) → List (List Char) → Prop
  | last (piece tail : List Char) (others : List (List Char)) :
      Begins [piece] ((piece ++ tail) :: others)
  | next {piece pieces found} : Begins pieces found → Begins (piece :: pieces) (piece :: found)

theorem begins_concat_iff {pieces : List (List Char)} {last : List Char}
    {found : List (List Char)} :
    Begins (pieces ++ [last]) found ↔
      ∃ tail others, found = pieces ++ (last ++ tail) :: others := by
  induction pieces generalizing found with
  | nil =>
      constructor
      · rintro (⟨_, tail, others⟩ | none)
        · exact ⟨tail, others, rfl⟩
        · cases none
      · rintro ⟨tail, others, rfl⟩
        exact Begins.last last tail others
  | cons piece pieces ih =>
      constructor
      · intro begins
        rw [List.cons_append] at begins
        generalize listed : pieces ++ [last] = more at begins
        cases begins with
        | last => simp at listed
        | next others =>
            rw [← listed] at others
            obtain ⟨tail, behind, rfl⟩ := ih.mp others
            exact ⟨tail, behind, rfl⟩
      · rintro ⟨tail, others, rfl⟩
        exact Begins.next (ih.mpr ⟨tail, others, rfl⟩)

theorem IsGap.startsBlank {gap : List Char} (gapped : IsGap gap) (rest : List Char) :
    StartsBlank (gap ++ rest) := by
  obtain ⟨nonempty, blanks⟩ := gapped
  obtain ⟨c, more, rfl⟩ := List.exists_cons_of_ne_nil nonempty
  simpa [StartsBlank] using blanks c List.mem_cons_self

theorem Spaced.begins {pieces : List (List Char)} {text : List Char} (spaced : Spaced pieces text)
    (solid : ∀ piece ∈ pieces, IsSolid piece) : Begins pieces (words text) := by
  induction spaced with
  | last piece rest =>
      have nonempty := (solid piece List.mem_cons_self).1
      rw [words_eq, cutWords_solid_append (solid piece List.mem_cons_self).2]
      simp only [List.append_eq_nil_iff, nonempty, false_and, ↓reduceIte]
      exact Begins.last piece _ _
  | @next piece gap pieces text gapped _ ih =>
      rw [List.forall_mem_cons] at solid
      rw [words_solid_append solid.1 (gapped.startsBlank text), words_gap_append gapped.2]
      exact Begins.next (ih solid.2)

theorem Spaced.starts {pieces : List (List Char)} {text : List Char} (spaced : Spaced pieces text)
    (solid : ∀ piece ∈ pieces, IsSolid piece) : ¬ StartsBlank text := by
  intro starts
  have front : ∃ piece rest, text = piece ++ rest ∧ IsSolid piece := by
    cases spaced with
    | last piece rest => exact ⟨piece, rest, rfl, solid piece List.mem_cons_self⟩
    | next _ _ => exact ⟨_, _, rfl, solid _ List.mem_cons_self⟩
  obtain ⟨piece, rest, rfl, nonempty, letters⟩ := front
  obtain ⟨c, more, rfl⟩ := List.exists_cons_of_ne_nil nonempty
  have blank := starts c rfl
  rw [letters c List.mem_cons_self] at blank
  simp at blank

theorem Begins.spaced {pieces : List (List Char)} {text : List Char}
    (begins : Begins pieces (words text)) (solid : ∀ piece ∈ pieces, IsSolid piece) :
    ∃ gap body, text = gap ++ body ∧ (∀ c ∈ gap, isBlank c = true) ∧ Spaced pieces body := by
  generalize listed : words text = found at begins
  induction begins generalizing text with
  | last piece tail others =>
      obtain ⟨before, after, here, inFront, _⟩ := exists_first_wordAt listed
      refine ⟨before, _, here.split, inFront, ?_⟩
      rw [List.append_assoc]
      exact Spaced.last piece _
  | @next piece pieces found _ ih =>
      obtain ⟨before, after, here, inFront, behind⟩ := exists_first_wordAt listed
      rw [List.forall_mem_cons] at solid
      obtain ⟨gap, body, rfl, blanks, spaced⟩ := ih solid.2 behind
      have nonempty : gap ≠ [] := by
        rintro rfl
        exact spaced.starts solid.2 here.right
      exact ⟨before, _, here.split, inFront, Spaced.next ⟨nonempty, blanks⟩ spaced⟩

theorem exists_endsBlank (text : List Char) :
    ∃ front part, text = front ++ part ∧ EndsBlank front ∧ ∀ c ∈ part, isBlank c = false := by
  induction text with
  | nil => exact ⟨[], [], rfl, by simp [EndsBlank], by simp⟩
  | cons c rest ih =>
      obtain ⟨front, part, rfl, ends, letters⟩ := ih
      by_cases blank : isBlank c = true
      · exact ⟨c :: front, part, rfl, ends.cons_blank blank, letters⟩
      · cases front with
        | nil =>
            refine ⟨[], c :: part, rfl, ends, List.forall_mem_cons.mpr ⟨by simpa using blank, ?_⟩⟩
            exact letters
        | cons d more =>
            exact ⟨c :: d :: more, part, rfl, by simpa [EndsBlank] using ends, letters⟩

theorem spaced_iff {text before first : List Char} {pieces : List (List Char)}
    (several : pieces ≠ []) (solid : ∀ piece ∈ first :: pieces, IsSolid piece) :
    (∃ rest, text = before ++ rest ∧ Spaced (first :: pieces) rest) ↔
      ∃ front part after, before = front ++ part ∧ WordAt text front (part ++ first) after ∧
        Begins pieces (words after) := by
  rw [List.forall_mem_cons] at solid
  constructor
  · rintro ⟨rest, rfl, spaced⟩
    obtain ⟨front, part, rfl, ends, letters⟩ := exists_endsBlank before
    cases spaced with
    | last => exact absurd rfl several
    | @next _ gap _ body gapped others =>
        refine ⟨front, part, gap ++ body, rfl, ⟨?_, ⟨?_, ?_⟩, ends, gapped.startsBlank body⟩, ?_⟩
        · simp only [List.append_assoc]
        · simp [solid.1.1]
        · exact List.forall_mem_append.mpr ⟨letters, solid.1.2⟩
        · rw [words_gap_append gapped.2]
          exact others.begins solid.2
  · rintro ⟨front, part, after, rfl, here, begins⟩
    obtain ⟨gap, body, rfl, blanks, spaced⟩ := begins.spaced solid.2
    have nonempty : gap ≠ [] := by
      rintro rfl
      exact spaced.starts solid.2 here.right
    refine ⟨first ++ (gap ++ body), ?_, Spaced.next ⟨nonempty, blanks⟩ spaced⟩
    rw [here.split]
    simp only [List.append_assoc]

end Assay.Text
