import Assay.Json.Basic
import Assay.Proofs.Json.Numeral

/-!
The tokens of what is written. Every value that JSON can hold, laid out over lines, is cut into the
tokens it was made of: spaces and the ways in which characters are escaped leave no trace.
-/

namespace Assay.Json

theorem hexValue?_hexDigit : ∀ n < 16, hexValue? (hexDigit n) = some n := by decide

theorem ofUnit_of_small {unit : Nat} (small : unit < 0xD800) :
    Piece.ofUnit unit = .char (Char.ofNat unit) := by
  unfold Piece.ofUnit
  rw [if_neg (by omega), if_neg (by omega)]

theorem scanText_escaped {letter meant : Char} (known : escaped? letter = some meant)
    (rest : List Char) :
    scanText ('\\' :: letter :: rest) =
      (scanText rest).map fun scanned => (.char meant :: scanned.1, scanned.2) := by
  have other : letter ≠ 'u' := by
    rintro rfl
    simp [escaped?] at known
  cases scanned : scanText rest <;> simp [scanText, other, known, scanned]

theorem scanText_plain {c : Char} (plain : 0x20 ≤ c.toNat ∧ c ≠ '"' ∧ c ≠ '\\')
    (rest : List Char) :
    scanText (c :: rest) =
      (scanText rest).map fun scanned => (.char c :: scanned.1, scanned.2) := by
  obtain ⟨shown, noQuote, noSlash⟩ := plain
  cases scanned : scanText rest <;> simp [scanText, noSlash, shown, scanned]

theorem scanText_control {c : Char} (control : c.toNat < 0x20) (rest : List Char) :
    scanText ('\\' :: 'u' :: '0' :: '0' :: hexDigit (c.toNat / 16) :: hexDigit (c.toNat % 16) ::
      rest) = (scanText rest).map fun scanned => (.char c :: scanned.1, scanned.2) := by
  have upper := hexValue?_hexDigit (c.toNat / 16) (by omega)
  have lower := hexValue?_hexDigit (c.toNat % 16) (by omega)
  have zero : hexValue? '0' = some 0 := by decide
  have unit : 4096 * 0 + 256 * 0 + 16 * (c.toNat / 16) + c.toNat % 16 = c.toNat := by omega
  have meant : Piece.ofUnit c.toNat = .char c := by
    rw [ofUnit_of_small (by omega), Char.ofNat_toNat]
  cases scanned : scanText rest <;>
    simp only [scanText, upper, lower, zero, unit, meant, scanned, Option.map_none, Option.map_some]

theorem scanText_escapeChar (c : Char) (rest : List Char) :
    scanText (escapeChar c ++ rest) =
      (scanText rest).map fun scanned => (.char c :: scanned.1, scanned.2) := by
  unfold escapeChar
  split
  -- Most characters that are escaped have a letter of their own.
  all_goals try exact scanText_escaped rfl rest
  split
  · next control => exact scanText_control control rest
  · next noQuote noSlash _ _ _ _ _ shown =>
      exact scanText_plain ⟨by omega, noQuote, noSlash⟩ rest

theorem scanText_content (content rest : List Char) :
    scanText (content.flatMap escapeChar ++ '"' :: rest) = some (content.map .char, rest) := by
  induction content with
  | nil => rfl
  | cons c more ih =>
      rw [List.flatMap_cons, List.append_assoc, scanText_escapeChar, ih]
      rfl

theorem joinPieces_map_char (content : List Char) :
    joinPieces (content.map .char) = some content := by
  induction content with
  | nil => rfl
  | cons c rest ih => rw [List.map_cons, joinPieces, ih, Option.map_some]

theorem scanToken_quote (content : String) (rest : List Char) :
    scanToken (quote content ++ rest) = some (.text (some content), rest) := by
  have opened : quote content ++ rest =
      '"' :: (content.toList.flatMap escapeChar ++ '"' :: rest) := by simp [quote]
  rw [opened]
  simp [scanToken, scanText_content, joinPieces_map_char]

theorem scanToken_numeral {c : Char} (start : c = '-' ∨ c.isDigit = true) (rest : List Char) :
    scanToken (c :: rest) =
      (scanNumeral (c :: rest)).map fun scanned => (.number scanned.1, scanned.2) := by
  unfold scanToken
  split <;> simp_all

theorem render_start {numeral : Numeral} (formed : numeral.WellFormed) (rest : List Char) :
    ∃ c more, numeral.render ++ rest = c :: more ∧ (c = '-' ∨ c.isDigit = true) := by
  rw [Numeral.render_eq]
  cases negative : numeral.negative with
  | true => exact ⟨'-', _, rfl, Or.inl rfl⟩
  | false =>
      cases whole : numeral.whole with
      | nil => exact absurd whole formed.whole.some
      | cons digit more =>
          exact ⟨digit, _, rfl, Or.inr (formed.whole.all digit (by simp [whole]))⟩

theorem scanToken_render {numeral : Numeral} (formed : numeral.WellFormed) {rest : List Char}
    (apart : Apart rest) :
    scanToken (numeral.render ++ rest) = some (.number numeral, rest) := by
  have scanned := scanNumeral_render formed apart
  obtain ⟨c, more, begun, start⟩ := render_start formed rest
  rw [begun] at scanned ⊢
  rw [scanToken_numeral start, scanned, Option.map_some]

theorem tokens_of_scan {text rest : List Char} {token : Token}
    (scanned : scanToken (text.dropWhile isSpace) = some (token, rest)) :
    tokens text = token :: tokens rest := by
  rw [tokens]
  split <;> simp_all

theorem tokens_of_none {text : List Char} (scanned : scanToken (text.dropWhile isSpace) = none) :
    tokens text = if text.all isSpace then [] else [.stray] := by
  rw [tokens]
  split <;> simp_all

theorem tokens_nil : tokens [] = [] := tokens_of_none rfl

theorem tokens_spaces {blank : List Char} (spaces : ∀ c ∈ blank, isSpace c = true)
    (text : List Char) : tokens (blank ++ text) = tokens text := by
  have dropped : (blank ++ text).dropWhile isSpace = text.dropWhile isSpace :=
    List.dropWhile_append_of_pos spaces
  rcases scanned : scanToken (text.dropWhile isSpace) with _ | ⟨token, rest⟩
  · have allSpace : blank.all isSpace = true := List.all_eq_true.mpr spaces
    rw [tokens_of_none scanned, tokens_of_none (dropped ▸ scanned), List.all_append, allSpace,
      Bool.true_and]
  · rw [tokens_of_scan scanned, tokens_of_scan (dropped ▸ scanned)]

theorem tokens_newLine (depth : Nat) (text : List Char) :
    tokens (newLine depth ++ text) = tokens text :=
  tokens_spaces (by simp [newLine, isSpace]) text

theorem tokens_cons {c : Char} {text rest : List Char} {token : Token}
    (scanned : scanToken (c :: text) = some (token, rest)) (shown : isSpace c = false) :
    tokens (c :: text) = token :: tokens rest :=
  tokens_of_scan (by rwa [List.dropWhile_cons_of_neg (by simp [shown])])

theorem tokens_space (text : List Char) : tokens (' ' :: text) = tokens text :=
  @tokens_spaces [' '] (by simp [isSpace]) text

theorem isSpace_of_isDigit {c : Char} (digit : c.isDigit = true) : isSpace c = false := by
  cases spaced : isSpace c with
  | false => rfl
  | true =>
      simp only [isSpace, Bool.or_eq_true, decide_eq_true_eq] at spaced
      rcases spaced with ((rfl | rfl) | rfl) | rfl <;> simp at digit

theorem tokens_quote (content : String) (rest : List Char) :
    tokens (quote content ++ rest) = .text (some content) :: tokens rest :=
  tokens_cons (scanToken_quote content rest) rfl

theorem tokens_render {numeral : Numeral} (formed : numeral.WellFormed) {rest : List Char}
    (apart : Apart rest) : tokens (numeral.render ++ rest) = .number numeral :: tokens rest := by
  have scanned := scanToken_render formed apart
  obtain ⟨c, more, begun, start⟩ := render_start formed rest
  rw [begun] at scanned ⊢
  refine tokens_cons scanned ?_
  rcases start with rfl | digit
  · rfl
  · exact isSpace_of_isDigit digit

inductive WellFormed : Json → Prop
  | null : WellFormed .null
  | bool (value) : WellFormed (.bool value)
  | number {numeral} : numeral.WellFormed → WellFormed (.number numeral)
  | text (content) : WellFormed (.text content)
  | list {items} : (∀ item ∈ items, WellFormed item) → WellFormed (.list items)
  | object {fields} : (∀ field ∈ fields, WellFormed field.2) → WellFormed (.object fields)

mutual

def toTokens : Json → List Token
  | .null => [.null]
  | .bool value => [.bool value]
  | .number numeral => [.number numeral]
  | .text content => [.text (some content)]
  | .list [] => [.openList, .closeList]
  | .list (item :: rest) => .openList :: (toTokens item ++ moreItems rest ++ [.closeList])
  | .object [] => [.openObject, .closeObject]
  | .object ((name, value) :: rest) =>
    .openObject :: .text (some name) :: .colon ::
      (toTokens value ++ moreFields rest ++ [.closeObject])

def moreItems : List Json → List Token
  | [] => []
  | item :: rest => .comma :: (toTokens item ++ moreItems rest)

def moreFields : List (String × Json) → List Token
  | [] => []
  | (name, value) :: rest =>
    .comma :: .text (some name) :: .colon :: (toTokens value ++ moreFields rest)

end

theorem apart_newLine (depth : Nat) (rest : List Char) : Apart (newLine depth ++ rest) :=
  apart_cons (by decide) _

theorem apart_renderLongItems (depth outer : Nat) (items : List Json) (rest : List Char) :
    Apart (renderLongItems depth items ++ (newLine outer ++ rest)) := by
  cases items with
  | nil => exact apart_newLine outer rest
  | cons item more => exact apart_cons (by decide) _

theorem apart_renderLongFields (depth outer : Nat) (fields : List (String × Json))
    (rest : List Char) : Apart (renderLongFields depth fields ++ (newLine outer ++ rest)) := by
  cases fields with
  | nil => exact apart_newLine outer rest
  | cons field more => exact apart_cons (by decide) _

/-- The long form of a value is cut into the tokens of the value, at any depth and before anything
that does not go on with a numeral. -/
def LaidOut (value : Json) : Prop :=
  ∀ depth rest, Apart rest →
    tokens (renderLong depth value ++ rest) = toTokens value ++ tokens rest

theorem tokens_renderLongItems {items : List Json} (each : ∀ item ∈ items, LaidOut item)
    (depth outer : Nat) (rest : List Char) :
    tokens (renderLongItems depth items ++ (newLine outer ++ rest)) =
      moreItems items ++ tokens rest := by
  induction items with
  | nil => rw [renderLongItems, moreItems, List.nil_append, List.nil_append, tokens_newLine]
  | cons item more ih =>
      rw [List.forall_mem_cons] at each
      have laid := each.1 depth _ (apart_renderLongItems depth outer more rest)
      have text : renderLongItems depth (item :: more) ++ (newLine outer ++ rest) =
          ',' :: (newLine depth ++ (renderLong depth item ++ (renderLongItems depth more ++
            (newLine outer ++ rest)))) := by simp [renderLongItems]
      rw [text, tokens_cons (by rfl) (by rfl), tokens_newLine, laid, ih each.2, moreItems,
        List.cons_append, List.append_assoc]

theorem tokens_renderLongFields {fields : List (String × Json)}
    (each : ∀ field ∈ fields, LaidOut field.2) (depth outer : Nat) (rest : List Char) :
    tokens (renderLongFields depth fields ++ (newLine outer ++ rest)) =
      moreFields fields ++ tokens rest := by
  induction fields with
  | nil => rw [renderLongFields, moreFields, List.nil_append, List.nil_append, tokens_newLine]
  | cons field more ih =>
      obtain ⟨name, value⟩ := field
      rw [List.forall_mem_cons] at each
      have laid := each.1 depth _ (apart_renderLongFields depth outer more rest)
      have text : renderLongFields depth ((name, value) :: more) ++ (newLine outer ++ rest) =
          ',' :: (newLine depth ++ (quote name ++ (':' :: ' ' :: (renderLong depth value ++
            (renderLongFields depth more ++ (newLine outer ++ rest)))))) := by
        simp [renderLongFields]
      rw [text, tokens_cons (by rfl) (by rfl), tokens_newLine, tokens_quote,
        tokens_cons (by rfl) (by rfl), tokens_space, laid, ih each.2, moreFields]
      simp

theorem laidOut_list {items : List Json} (each : ∀ item ∈ items, LaidOut item) :
    LaidOut (.list items) := by
  intro depth rest _
  cases items with
  | nil =>
      change tokens ('[' :: ']' :: rest) = _
      rw [tokens_cons (by rfl) (by rfl), tokens_cons (by rfl) (by rfl), toTokens]
      rfl
  | cons item more =>
      rw [List.forall_mem_cons] at each
      have laid := each.1 (depth + 1) _ (apart_renderLongItems (depth + 1) depth more (']' :: rest))
      have text : renderLong depth (.list (item :: more)) ++ rest =
          '[' :: (newLine (depth + 1) ++ (renderLong (depth + 1) item ++
            (renderLongItems (depth + 1) more ++ (newLine depth ++ (']' :: rest))))) := by
        simp [renderLong]
      rw [text, tokens_cons (by rfl) (by rfl), tokens_newLine, laid,
        tokens_renderLongItems each.2, tokens_cons (by rfl) (by rfl), toTokens]
      simp

theorem laidOut_object {fields : List (String × Json)} (each : ∀ field ∈ fields, LaidOut field.2) :
    LaidOut (.object fields) := by
  intro depth rest _
  cases fields with
  | nil =>
      change tokens ('\x7b' :: '\x7d' :: rest) = _
      rw [tokens_cons (by rfl) (by rfl), tokens_cons (by rfl) (by rfl), toTokens]
      rfl
  | cons field more =>
      obtain ⟨name, value⟩ := field
      rw [List.forall_mem_cons] at each
      have laid := each.1 (depth + 1) _
        (apart_renderLongFields (depth + 1) depth more ('\x7d' :: rest))
      have text : renderLong depth (.object ((name, value) :: more)) ++ rest =
          '\x7b' :: (newLine (depth + 1) ++ (quote name ++ (':' :: ' ' ::
            (renderLong (depth + 1) value ++ (renderLongFields (depth + 1) more ++
              (newLine depth ++ ('\x7d' :: rest))))))) := by
        simp [renderLong]
      rw [text, tokens_cons (by rfl) (by rfl), tokens_newLine, tokens_quote,
        tokens_cons (by rfl) (by rfl), tokens_space, laid, tokens_renderLongFields each.2,
        tokens_cons (by rfl) (by rfl), toTokens]
      simp

theorem laidOut {value : Json} (formed : value.WellFormed) : value.LaidOut := by
  induction formed with
  | null => exact fun depth rest _ => tokens_cons (by rfl) (by rfl)
  | bool value =>
      cases value with
      | true => exact fun depth rest _ => tokens_cons (by rfl) (by rfl)
      | false => exact fun depth rest _ => tokens_cons (by rfl) (by rfl)
  | number formed => exact fun depth rest apart => tokens_render formed apart
  | text content => exact fun depth rest _ => tokens_quote content rest
  | list _ ih => exact laidOut_list ih
  | object _ ih => exact laidOut_object ih

theorem tokens_long {value : Json} (formed : value.WellFormed) :
    tokens value.long.toList = toTokens value := by
  have laid := laidOut formed 0 [] apart_nil
  rw [tokens_nil, List.append_nil, List.append_nil] at laid
  rw [long, String.toList_ofList, laid]

end Assay.Json
