import Assay.Text.Blank

/-!
The words of a text and the places where they stand in it. A word reaches from a blank or the front
of the text to the next blank or the end, and the words before it are those of the text before it.
-/

namespace Assay.Text

def IsGap (gap : List Char) : Prop := gap ≠ [] ∧ ∀ c ∈ gap, isBlank c = true

def IsSolid (word : List Char) : Prop := word ≠ [] ∧ ∀ c ∈ word, isBlank c = false

def EndsBlank (text : List Char) : Prop := ∀ c ∈ text.getLast?, isBlank c = true

def StartsBlank (text : List Char) : Prop := ∀ c ∈ text.head?, isBlank c = true

inductive Laid : List Char → List (List Char) → Prop
  | done : Laid [] []
  | blank {c text found} : isBlank c = true → Laid text found → Laid (c :: text) found
  | word {word text found} : IsSolid word → StartsBlank text → Laid text found →
      Laid (word ++ text) (word :: found)

theorem isSolid_of_all {word : List Char} (nonempty : word ≠ [])
    (letters : word.all (fun c => !isBlank c) = true) : IsSolid word := by
  refine ⟨nonempty, fun c member => ?_⟩
  simpa using List.all_eq_true.mp letters c member

theorem words_eq (text : List Char) :
    words text =
      if (cutWords text).1 = [] then (cutWords text).2
      else (cutWords text).1 :: (cutWords text).2 := rfl

theorem words_blank_cons {c : Char} (blank : isBlank c = true) (text : List Char) :
    words (c :: text) = words text := by
  simp only [words, cutWords, blank, ↓reduceIte]

theorem cutWords_append_blank {c : Char} (blank : isBlank c = true) (text rest : List Char) :
    cutWords (text ++ c :: rest) = ((cutWords text).1, (cutWords text).2 ++ words rest) := by
  induction text with
  | nil => simp only [List.nil_append, cutWords, blank, ↓reduceIte, words]
  | cons d text ih =>
      simp only [List.cons_append, cutWords, ih]
      split
      · split <;> simp
      · rfl

theorem words_append_blank {c : Char} (blank : isBlank c = true) (text rest : List Char) :
    words (text ++ c :: rest) = words text ++ words rest := by
  rw [words_eq, words_eq text, cutWords_append_blank blank]
  split <;> rfl

theorem cutWords_solid_append {word : List Char} (solid : ∀ c ∈ word, isBlank c = false)
    (rest : List Char) :
    cutWords (word ++ rest) = (word ++ (cutWords rest).1, (cutWords rest).2) := by
  induction word with
  | nil => rfl
  | cons c word ih =>
      rw [List.forall_mem_cons] at solid
      simp only [List.cons_append, cutWords, ih solid.2, solid.1, Bool.false_eq_true, ↓reduceIte]

theorem cutWords_startsBlank {text : List Char} (starts : StartsBlank text) :
    cutWords text = ([], words text) := by
  cases text with
  | nil => rfl
  | cons c rest =>
      have blank : isBlank c = true := starts c rfl
      rw [words_blank_cons blank]
      simp only [cutWords, blank, ↓reduceIte, words]

theorem words_solid_append {word rest : List Char} (solid : IsSolid word)
    (starts : StartsBlank rest) : words (word ++ rest) = word :: words rest := by
  have nonempty := solid.1
  rw [words_eq, cutWords_solid_append solid.2, cutWords_startsBlank starts]
  simp [nonempty]

theorem words_of_endsBlank {text : List Char} (ends : EndsBlank text) (rest : List Char) :
    words (text ++ rest) = words text ++ words rest := by
  rcases List.eq_nil_or_concat text with rfl | ⟨front, c, rfl⟩
  · rfl
  · have blank : isBlank c = true := ends c (by simp)
    rw [List.concat_eq_append, words_append_blank blank, List.append_assoc, List.singleton_append,
      words_append_blank blank]
    exact congrArg (· ++ words rest) (List.append_nil _).symm

theorem words_gap_append {gap : List Char} (gapped : ∀ c ∈ gap, isBlank c = true)
    (rest : List Char) : words (gap ++ rest) = words rest := by
  induction gap with
  | nil => rfl
  | cons c gap ih =>
      rw [List.forall_mem_cons] at gapped
      rw [List.cons_append, words_blank_cons gapped.1, ih gapped.2]

theorem Laid.words_eq {text : List Char} {found : List (List Char)} (laid : Laid text found) :
    words text = found := by
  induction laid with
  | done => rfl
  | blank blank _ ih => rw [words_blank_cons blank, ih]
  | word solid starts _ ih => rw [words_solid_append solid starts, ih]

theorem Laid.join {word rest : List Char} {found : List (List Char)}
    (solid : ∀ c ∈ word, isBlank c = false) (starts : StartsBlank rest) (laid : Laid rest found) :
    Laid (word ++ rest) (if word = [] then found else word :: found) := by
  split
  · next empty =>
      subst empty
      exact laid
  · next nonempty => exact Laid.word ⟨nonempty, solid⟩ starts laid

theorem cutWords_laid (text : List Char) :
    ∃ rest, text = (cutWords text).1 ++ rest ∧ (∀ c ∈ (cutWords text).1, isBlank c = false) ∧
      StartsBlank rest ∧ Laid rest (cutWords text).2 := by
  induction text with
  | nil => exact ⟨[], rfl, by simp [cutWords], by simp [StartsBlank], Laid.done⟩
  | cons c text ih =>
      obtain ⟨rest, split, solid, starts, laid⟩ := ih
      simp only [cutWords]
      by_cases blank : isBlank c = true
      · have whole := Laid.join solid starts laid
        rw [← split] at whole
        simp only [blank, ↓reduceIte]
        exact ⟨c :: text, rfl, by simp, by simpa [StartsBlank] using blank, Laid.blank blank whole⟩
      · have here : isBlank c = false := by simpa using blank
        simp only [here, Bool.false_eq_true, ↓reduceIte]
        refine ⟨rest, by rw [List.cons_append, ← split], ?_, starts, laid⟩
        exact List.forall_mem_cons.mpr ⟨here, solid⟩

theorem laid_words (text : List Char) : Laid text (words text) := by
  obtain ⟨rest, split, solid, starts, laid⟩ := cutWords_laid text
  have whole := Laid.join solid starts laid
  rwa [← split] at whole

theorem words_map {change : Char → Char} (keeps : ∀ c, isBlank (change c) = isBlank c)
    (text : List Char) : words (text.map change) = (words text).map (List.map change) := by
  refine Laid.words_eq ?_
  have laid := laid_words text
  generalize words text = found at laid ⊢
  induction laid with
  | done => exact Laid.done
  | blank blank _ ih => exact Laid.blank (by rwa [keeps]) ih
  | @word word text found solid starts _ ih =>
      rw [List.map_append, List.map_cons]
      refine Laid.word ⟨by simpa using solid.1, fun c member => ?_⟩ (fun c first => ?_) ih
      · obtain ⟨d, inside, rfl⟩ := List.mem_map.mp member
        rw [keeps, solid.2 d inside]
      · rw [List.head?_map] at first
        obtain ⟨d, front, rfl⟩ := Option.map_eq_some_iff.mp first
        rw [keeps, starts d front]

theorem isBlank_of_words_eq_nil {text : List Char} (none : words text = []) :
    ∀ c ∈ text, isBlank c = true := by
  have laid := laid_words text
  rw [none] at laid
  clear none
  generalize listed : ([] : List (List Char)) = found at laid
  induction laid with
  | done => simp
  | blank blank _ ih => exact List.forall_mem_cons.mpr ⟨blank, ih listed⟩
  | word => simp at listed

structure WordAt (text before word after : List Char) : Prop where
  split : text = before ++ (word ++ after)
  solid : IsSolid word
  left : EndsBlank before
  right : StartsBlank after

theorem WordAt.words_eq {text before word after : List Char}
    (here : WordAt text before word after) :
    words text = words before ++ word :: words after := by
  rw [here.split, words_of_endsBlank here.left, words_solid_append here.solid here.right]

theorem EndsBlank.cons_blank {c : Char} {text : List Char} (blank : isBlank c = true)
    (ends : EndsBlank text) : EndsBlank (c :: text) := by
  cases text with
  | nil => simpa [EndsBlank] using blank
  | cons d rest => simpa [EndsBlank] using ends

theorem exists_wordAt {text word : List Char} {first last : List (List Char)}
    (found : words text = first ++ word :: last) :
    ∃ before after, WordAt text before word after ∧ words before = first ∧ words after = last := by
  generalize listed : words text = all at found
  have laid := laid_words text
  rw [listed] at laid
  clear listed
  induction laid generalizing first with
  | done => simp at found
  | blank blank _ ih =>
      obtain ⟨before, after, here, inFront, behind⟩ := ih found
      refine ⟨_ :: before, after, ⟨by rw [here.split]; rfl, here.solid, ?_, here.right⟩, ?_, behind⟩
      · exact here.left.cons_blank blank
      · rw [words_blank_cons blank, inFront]
  | @word front text found' solid starts laid ih =>
      cases first with
      | nil =>
          obtain ⟨rfl, rfl⟩ := List.cons.inj found
          exact ⟨[], text, ⟨rfl, solid, by simp [EndsBlank], starts⟩, rfl, laid.words_eq⟩
      | cons head more =>
          obtain ⟨rfl, others⟩ := List.cons.inj found
          obtain ⟨before, after, here, inFront, behind⟩ := ih others
          -- The rest starts with a blank and the word does not, so something stands between them.
          obtain ⟨c, between, rfl⟩ : ∃ c between, before = c :: between := by
            cases before with
            | cons c between => exact ⟨c, between, rfl⟩
            | nil =>
                obtain ⟨nonempty, letters⟩ := here.solid
                obtain ⟨c, others, rfl⟩ := List.exists_cons_of_ne_nil nonempty
                have blank := starts c (by rw [here.split]; rfl)
                rw [letters c List.mem_cons_self] at blank
                simp at blank
          have startsBefore : StartsBlank (c :: between) := by
            rw [here.split] at starts
            exact starts
          refine ⟨front ++ c :: between, after, ⟨?_, here.solid, ?_, here.right⟩, ?_, behind⟩
          · rw [here.split, List.append_assoc]
          · have ends := here.left
            simpa [EndsBlank] using ends
          · rw [words_solid_append solid startsBefore, inFront]

theorem exists_first_wordAt {text word : List Char} {others : List (List Char)}
    (found : words text = word :: others) :
    ∃ before after, WordAt text before word after ∧ (∀ c ∈ before, isBlank c = true) ∧
      words after = others := by
  have listed : words text = [] ++ word :: others := found
  obtain ⟨before, after, here, inFront, behind⟩ := exists_wordAt listed
  exact ⟨before, after, here, isBlank_of_words_eq_nil inFront, behind⟩

theorem WordAt.lt {text before word after later other behind : List Char}
    (here : WordAt text before word after) (there : WordAt text later other behind)
    (further : before.length < later.length) :
    before.length + word.length ≤ later.length ∧ (words before).length < (words later).length := by
  have inFront : before <+: later := by
    refine List.prefix_of_prefix_length_le ⟨_, here.split.symm⟩ ⟨_, there.split.symm⟩ ?_
    omega
  obtain ⟨part, rfl⟩ := inFront
  have parts : word ++ after = part ++ (other ++ behind) := by
    have same := here.split.symm.trans there.split
    rw [List.append_assoc] at same
    exact List.append_cancel_left same
  rw [List.length_append] at further ⊢
  have whole : word.length ≤ part.length := by
    refine Nat.le_of_not_lt fun short => ?_
    -- A part of the word would end before a blank, inside the word.
    have inWord : part <+: word :=
      List.prefix_of_prefix_length_le ⟨_, parts.symm⟩ ⟨_, rfl⟩ (by omega)
    have nonempty : part ≠ [] := by
      rintro rfl
      simp at further
    have blank := there.left (part.getLast nonempty) (by
      rw [List.getLast?_append, List.getLast?_eq_some_getLast nonempty]
      rfl)
    have letter := here.solid.2 _ (inWord.subset (List.getLast_mem nonempty))
    rw [letter] at blank
    simp at blank
  obtain ⟨more, rfl⟩ : word <+: part :=
    List.prefix_of_prefix_length_le ⟨_, rfl⟩ ⟨_, parts.symm⟩ whole
  refine ⟨by omega, ?_⟩
  rw [words_of_endsBlank here.left, List.length_append, Text.words_eq (word ++ more),
    cutWords_solid_append here.solid.2]
  have nonempty := here.solid.1
  simp [nonempty]

theorem WordAt.unique {text before word after before' word' after' : List Char}
    (here : WordAt text before word after) (there : WordAt text before' word' after')
    (level : before.length = before'.length) : before = before' ∧ word = word' := by
  obtain ⟨rfl, -⟩ := List.append_inj (here.split.symm.trans there.split) level
  have listed := here.words_eq.symm.trans there.words_eq
  exact ⟨rfl, (List.cons.inj (List.append_cancel_left listed)).1⟩

theorem WordAt.eq_of_least {text before word after before' word' after' : List Char}
    (here : WordAt text before word after) (there : WordAt text before' word' after')
    {place : Nat} (inside : place < word.length) (least : before'.length ≤ before.length + place)
    (fewer : (words before).length ≤ (words before').length) : before = before' ∧ word = word' := by
  refine here.unique there ?_
  rcases Nat.lt_trichotomy before.length before'.length with inFront | level | behind
  · have beyond := (here.lt there inFront).1
    omega
  · exact level
  · have more := (there.lt here behind).2
    omega

end Assay.Text
