import Assay.Json.Reader
import Assay.Proofs.Json.Token

/-!
The outline of what is written. Every value, laid out over lines, is outlined as it is, whatever
stands in it, so that reading a whole text is reading the value.
-/

namespace Assay.Json

namespace Outline

mutual

def ofJson : Json → Outline
  | .null => .null
  | .bool value => .bool value
  | .number numeral => .number numeral
  | .text content => .text (some content)
  | .list items => .list (ofItems items) true
  | .object fields => .object (ofFields fields) true

def ofItems : List Json → List Outline
  | [] => []
  | item :: rest => ofJson item :: ofItems rest

def ofFields : List (String × Json) → List (Outline × Outline)
  | [] => []
  | (name, value) :: rest => (.text (some name), ofJson value) :: ofFields rest

end

theorem ofItems_eq (items : List Json) : ofItems items = items.map ofJson := by
  induction items with
  | nil => rfl
  | cons item rest ih => rw [ofItems, ih, List.map_cons]

/-- With one step for each of its tokens a value is outlined, and what stands after it is left. -/
def Outlined (value : Json) : Prop :=
  ∀ fuel rest, (toTokens value).length ≤ fuel →
    Outline.value fuel (toTokens value ++ rest) = (ofJson value, rest)

theorem toTokens_start (value : Json) :
    ∃ token rest, toTokens value = token :: rest ∧ token ≠ .closeList := by
  cases value with
  | list items => cases items <;> exact ⟨_, _, by rw [toTokens], by simp⟩
  | object fields =>
      cases fields with
      | nil => exact ⟨_, _, by rw [toTokens], by simp⟩
      | cons field more => exact ⟨_, _, by rw [toTokens], by simp⟩
  | _ => exact ⟨_, _, by rw [toTokens], by simp⟩

theorem items_moreItems {item : Json} {more : List Json} (first : Outlined item)
    (others : ∀ other ∈ more, Outlined other) {fuel : Nat}
    (enough : (toTokens item).length + (moreItems more).length < fuel) (rest : List Token) :
    items fuel (toTokens item ++ (moreItems more ++ .closeList :: rest)) =
      ⟨ofItems (item :: more), true, rest⟩ := by
  induction more generalizing item fuel with
  | nil =>
      obtain ⟨fuel, rfl⟩ : ∃ less, fuel = less + 1 := ⟨fuel - 1, by omega⟩
      have outlined := first fuel (.closeList :: rest) (by simp [moreItems] at enough; omega)
      rw [items, moreItems, List.nil_append, outlined]
      rfl
  | cons next more ih =>
      obtain ⟨fuel, rfl⟩ : ∃ less, fuel = less + 1 := ⟨fuel - 1, by omega⟩
      rw [List.forall_mem_cons] at others
      simp only [moreItems, List.length_cons, List.length_append] at enough
      have outlined := first fuel
        (.comma :: (toTokens next ++ (moreItems more ++ .closeList :: rest))) (by omega)
      have later := @ih next others.1 others.2 fuel (by omega)
      have text : moreItems (next :: more) ++ .closeList :: rest =
          .comma :: (toTokens next ++ (moreItems more ++ .closeList :: rest)) := by
        simp [moreItems]
      rw [text, items, outlined]
      simp [later, ofItems]

theorem fields_moreFields {name : String} {value : Json} {more : List (String × Json)}
    (first : Outlined value) (others : ∀ other ∈ more, Outlined other.2) {fuel : Nat}
    (enough : (toTokens value).length + (moreFields more).length + 2 < fuel) (rest : List Token) :
    fields fuel (.text (some name) :: .colon :: (toTokens value ++
      (moreFields more ++ .closeObject :: rest))) = ⟨ofFields ((name, value) :: more), true, rest⟩ := by
  induction more generalizing name value fuel with
  | nil =>
      obtain ⟨fuel, rfl⟩ : ∃ less, fuel = less + 2 := ⟨fuel - 2, by omega⟩
      have outlined := first (fuel + 1) (.closeObject :: rest)
        (by simp [moreFields] at enough; omega)
      rw [fields, moreFields, List.nil_append, Outline.value]
      simp only [outlined]
      rfl
  | cons next more ih =>
      obtain ⟨fuel, rfl⟩ : ∃ less, fuel = less + 2 := ⟨fuel - 2, by omega⟩
      obtain ⟨later, content⟩ := next
      rw [List.forall_mem_cons] at others
      simp only [moreFields, List.length_cons, List.length_append] at enough
      have outlined := first (fuel + 1) (.comma :: .text (some later) :: .colon ::
        (toTokens content ++ (moreFields more ++ .closeObject :: rest))) (by omega)
      have run := @ih later content others.1 others.2 (fuel + 1) (by omega)
      have text : moreFields ((later, content) :: more) ++ .closeObject :: rest =
          .comma :: .text (some later) :: .colon :: (toTokens content ++ (moreFields more ++
            .closeObject :: rest)) := by simp [moreFields]
      rw [text, fields, Outline.value]
      simp [outlined, run, ofFields]

theorem outlined_list {items : List Json} (each : ∀ item ∈ items, Outlined item) :
    Outlined (.list items) := by
  intro fuel rest enough
  cases items with
  | nil =>
      obtain ⟨fuel, rfl⟩ : ∃ less, fuel = less + 1 :=
        ⟨fuel - 1, by simp [toTokens] at enough; omega⟩
      rfl
  | cons item more =>
      rw [List.forall_mem_cons] at each
      simp only [toTokens, List.length_cons, List.length_append, List.length_nil] at enough
      obtain ⟨fuel, rfl⟩ : ∃ less, fuel = less + 1 := ⟨fuel - 1, by omega⟩
      have run := @items_moreItems item more each.1 each.2 fuel (by omega) rest
      have text : toTokens (.list (item :: more)) ++ rest =
          .openList :: (toTokens item ++ (moreItems more ++ .closeList :: rest)) := by
        simp [toTokens]
      -- No item begins with the token that would end the list.
      have inhabited : ∀ others,
          toTokens item ++ (moreItems more ++ .closeList :: rest) ≠ .closeList :: others := by
        obtain ⟨token, tail, start, other⟩ := toTokens_start item
        intro others same
        rw [start, List.cons_append] at same
        exact other (List.cons.inj same).1
      rw [text, Outline.value, run]
      · rfl
      · exact inhabited

theorem outlined_object {fields : List (String × Json)}
    (each : ∀ field ∈ fields, Outlined field.2) : Outlined (.object fields) := by
  intro fuel rest enough
  cases fields with
  | nil =>
      obtain ⟨fuel, rfl⟩ : ∃ less, fuel = less + 1 :=
        ⟨fuel - 1, by simp [toTokens] at enough; omega⟩
      rfl
  | cons field more =>
      obtain ⟨name, value⟩ := field
      rw [List.forall_mem_cons] at each
      simp only [toTokens, List.length_cons, List.length_append, List.length_nil] at enough
      obtain ⟨fuel, rfl⟩ : ∃ less, fuel = less + 1 := ⟨fuel - 1, by omega⟩
      have run := @fields_moreFields name value more each.1 each.2 fuel (by omega) rest
      have text : toTokens (.object ((name, value) :: more)) ++ rest =
          .openObject :: .text (some name) :: .colon :: (toTokens value ++ (moreFields more ++
            .closeObject :: rest)) := by simp [toTokens]
      have inhabited : ∀ others, Token.text (some name) :: .colon :: (toTokens value ++
          (moreFields more ++ .closeObject :: rest)) ≠ .closeObject :: others := by simp
      rw [text, Outline.value, run]
      · rfl
      · exact inhabited

theorem outlined {value : Json} (formed : value.WellFormed) : Outlined value := by
  have leaf {token : Token} {value : Json} (one : toTokens value = [token])
      (read : ∀ fuel rest, Outline.value (fuel + 1) (token :: rest) = (ofJson value, rest)) :
      Outlined value := by
    intro fuel rest enough
    rw [one] at enough ⊢
    obtain ⟨fuel, rfl⟩ : ∃ less, fuel = less + 1 := ⟨fuel - 1, by simp at enough; omega⟩
    exact read fuel rest
  induction formed with
  | null => exact leaf (by rw [toTokens]) fun _ _ => rfl
  | bool value => exact leaf (by rw [toTokens]) fun _ _ => rfl
  | number _ => exact leaf (by rw [toTokens]) fun _ _ => rfl
  | text content => exact leaf (by rw [toTokens]) fun _ _ => rfl
  | list _ ih => exact outlined_list ih
  | object _ ih => exact outlined_object ih

theorem ofText_long {value : Json} (formed : value.WellFormed) :
    ofText value.long.toList = (ofJson value, true) := by
  have read := outlined formed ((toTokens value).length + 1) [] (by omega)
  rw [List.append_nil] at read
  unfold ofText
  rw [tokens_long formed]
  simp [read]

end Outline

theorem Reader.parse_long {α : Type} {value : Json} (formed : value.WellFormed)
    (reader : Reader α) : parse reader value.long = reader 0 (Outline.ofJson value) := by
  unfold parse
  rw [Outline.ofText_long formed]
  dsimp only
  cases reader 0 (Outline.ofJson value) <;> rfl

end Assay.Json
