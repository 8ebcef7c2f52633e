import Assay.Text.Blank
import Assay.Json.Numeral

/-!
Tokens of JSON. A text is cut into tokens up to the first place where no token stands; that
place is marked, and nothing after it is read.
-/

namespace Assay.Json

inductive Token
  | openList
  | closeList
  | openObject
  | closeObject
  | comma
  | colon
  | null
  | bool (value : Bool)
  | number (numeral : Numeral)
  /-- A string; one with half of a surrogate pair has no content. -/
  | text (content : Option String)
  | stray
deriving DecidableEq

def isSpace (c : Char) : Bool := c = ' ' || c = '\n' || c = '\t' || c = '\r'

def hexValue? (c : Char) : Option Nat :=
  if c.isDigit then some (c.toNat - '0'.toNat)
  else if 'a' ≤ c ∧ c ≤ 'f' then some (c.toNat - 'a'.toNat + 10)
  else if 'A' ≤ c ∧ c ≤ 'F' then some (c.toNat - 'A'.toNat + 10)
  else none

inductive Piece
  | char (c : Char)
  | high (offset : Nat)
  | low (offset : Nat)

def Piece.ofUnit (unit : Nat) : Piece :=
  if 0xD800 ≤ unit ∧ unit < 0xDC00 then .high (unit - 0xD800)
  else if 0xDC00 ≤ unit ∧ unit < 0xE000 then .low (unit - 0xDC00)
  else .char (Char.ofNat unit)

def joinPieces : List Piece → Option (List Char)
  | [] => some []
  | .char c :: rest => (joinPieces rest).map (c :: ·)
  | .high upper :: .low lower :: rest =>
    (joinPieces rest).map (Char.ofNat (0x10000 + 0x400 * upper + lower) :: ·)
  | _ => none

def escaped? (c : Char) : Option Char :=
  match c with
  | '"' => some '"'
  | '\\' => some '\\'
  | '/' => some '/'
  | 'b' => some '\x08'
  | 'f' => some '\x0c'
  | 'n' => some '\n'
  | 'r' => some '\r'
  | 't' => some '\t'
  | _ => none

def scanText : List Char → Option (List Piece × List Char)
  | [] => none
  | '"' :: rest => some ([], rest)
  | '\\' :: 'u' :: a :: b :: c :: d :: rest =>
    match hexValue? a, hexValue? b, hexValue? c, hexValue? d with
    | some a, some b, some c, some d =>
      match scanText rest with
      | some (pieces, after) => some (Piece.ofUnit (4096 * a + 256 * b + 16 * c + d) :: pieces, after)
      | none => none
    | _, _, _, _ => none
  | '\\' :: c :: rest =>
    match escaped? c, scanText rest with
    | some meant, some (pieces, after) => some (.char meant :: pieces, after)
    | _, _ => none
  | c :: rest =>
    if c.toNat < 0x20 ∨ c = '\\' then none
    else
      match scanText rest with
      | some (pieces, after) => some (.char c :: pieces, after)
      | none => none

def scanDigits (text : List Char) : Option (List Char × List Char) :=
  if text.takeWhile Char.isDigit = [] then none
  else some (text.takeWhile Char.isDigit, text.dropWhile Char.isDigit)

def scanWhole (text : List Char) : Option (List Char × List Char) :=
  match scanDigits text with
  | some ('0' :: _ :: _, _) => none
  | other => other

def scanFraction (text : List Char) : Option (Option (List Char) × List Char) :=
  match text with
  | '.' :: rest => (scanDigits rest).map fun (digits, after) => (some digits, after)
  | _ => some (none, text)

def scanExponentDigits (sign : Int) (text : List Char) : Option (Option Int × List Char) :=
  (scanDigits text).map fun (digits, after) => (some (sign * Text.digitsValue digits), after)

def scanExponent (text : List Char) : Option (Option Int × List Char) :=
  match text with
  | [] => some (none, [])
  | mark :: rest =>
    if mark = 'e' ∨ mark = 'E' then
      match rest with
      | '+' :: digits => scanExponentDigits 1 digits
      | '-' :: digits => scanExponentDigits (-1) digits
      | digits => scanExponentDigits 1 digits
    else some (none, text)

def scanNumeral (text : List Char) : Option (Numeral × List Char) := do
  let negative := text.head? = some '-'
  let (whole, afterWhole) ← scanWhole (if negative then text.drop 1 else text)
  let (fraction, afterFraction) ← scanFraction afterWhole
  let (exponent, rest) ← scanExponent afterFraction
  return ({ negative, whole, fraction, exponent }, rest)

def scanToken : List Char → Option (Token × List Char)
  | '[' :: rest => some (.openList, rest)
  | ']' :: rest => some (.closeList, rest)
  | '\x7b' :: rest => some (.openObject, rest)
  | '\x7d' :: rest => some (.closeObject, rest)
  | ',' :: rest => some (.comma, rest)
  | ':' :: rest => some (.colon, rest)
  | '"' :: rest =>
    (scanText rest).map fun (pieces, after) => (.text ((joinPieces pieces).map String.ofList), after)
  | 'n' :: 'u' :: 'l' :: 'l' :: rest => some (.null, rest)
  | 't' :: 'r' :: 'u' :: 'e' :: rest => some (.bool true, rest)
  | 'f' :: 'a' :: 'l' :: 's' :: 'e' :: rest => some (.bool false, rest)
  | source => (scanNumeral source).map fun (numeral, after) => (.number numeral, after)

theorem scanText_length {text rest : List Char} {pieces : List Piece}
    (scanned : scanText text = some (pieces, rest)) : rest.length < text.length := by
  fun_induction scanText text generalizing pieces rest <;> grind

theorem scanDigits_length {text digits rest : List Char}
    (scanned : scanDigits text = some (digits, rest)) : rest.length < text.length := by
  unfold scanDigits at scanned
  split at scanned
  · simp at scanned
  · next some =>
    simp only [Option.some.injEq, Prod.mk.injEq] at scanned
    have whole := congrArg List.length (List.takeWhile_append_dropWhile (p := Char.isDigit) (l := text))
    have positive : 0 < (text.takeWhile Char.isDigit).length := List.length_pos_iff.mpr some
    rw [List.length_append, scanned.2] at whole
    omega

theorem scanWhole_length {text digits rest : List Char}
    (scanned : scanWhole text = some (digits, rest)) : rest.length < text.length := by
  unfold scanWhole at scanned
  split at scanned
  · simp at scanned
  · exact scanDigits_length scanned

theorem scanFraction_length {text rest : List Char} {fraction : Option (List Char)}
    (scanned : scanFraction text = some (fraction, rest)) : rest.length ≤ text.length := by
  unfold scanFraction at scanned
  split at scanned
  · next after =>
    simp only [Option.map_eq_some_iff, Prod.exists, Prod.mk.injEq] at scanned
    obtain ⟨digits, remaining, found, _, same⟩ := scanned
    have := scanDigits_length found
    simp only [List.length_cons, ← same]
    omega
  · simp only [Option.some.injEq, Prod.mk.injEq] at scanned
    simp [scanned.2]

theorem scanExponentDigits_length {sign : Int} {text rest : List Char} {exponent : Option Int}
    (scanned : scanExponentDigits sign text = some (exponent, rest)) :
    rest.length < text.length := by
  unfold scanExponentDigits at scanned
  simp only [Option.map_eq_some_iff, Prod.exists, Prod.mk.injEq] at scanned
  obtain ⟨digits, remaining, found, _, same⟩ := scanned
  exact same ▸ scanDigits_length found

theorem scanExponent_length {text rest : List Char} {exponent : Option Int}
    (scanned : scanExponent text = some (exponent, rest)) : rest.length ≤ text.length := by
  unfold scanExponent at scanned
  split at scanned
  · simp_all
  · split at scanned
    · split at scanned <;> have := scanExponentDigits_length scanned <;> grind
    · simp_all

theorem scanNumeral_length {text rest : List Char} {numeral : Numeral}
    (scanned : scanNumeral text = some (numeral, rest)) : rest.length < text.length := by
  unfold scanNumeral at scanned
  simp only [Option.bind_eq_bind, Option.bind_eq_some_iff, Prod.exists, Option.pure_def,
    Option.some.injEq, Prod.mk.injEq] at scanned
  obtain ⟨whole, afterWhole, foundWhole, fraction, afterFraction, foundFraction, exponent,
    afterExponent, foundExponent, _, same⟩ := scanned
  have first := scanWhole_length foundWhole
  have second := scanFraction_length foundFraction
  have third := scanExponent_length foundExponent
  split at first <;> grind

theorem scanToken_length {text rest : List Char} {token : Token}
    (scanned : scanToken text = some (token, rest)) : rest.length < text.length := by
  unfold scanToken at scanned
  split at scanned
  all_goals try (simp only [Option.some.injEq, Prod.mk.injEq] at scanned; simp [← scanned.2]; done)
  · simp only [Option.map_eq_some_iff, Prod.exists, Prod.mk.injEq] at scanned
    obtain ⟨pieces, after, found, _, same⟩ := scanned
    have := scanText_length found
    simp only [List.length_cons, ← same]
    omega
  · simp only [Option.some.injEq, Prod.mk.injEq] at scanned
    simp [← scanned.2]
    omega
  · simp only [Option.some.injEq, Prod.mk.injEq] at scanned
    simp [← scanned.2]
    omega
  · simp only [Option.some.injEq, Prod.mk.injEq] at scanned
    simp [← scanned.2]
    omega
  · simp only [Option.map_eq_some_iff, Prod.exists, Prod.mk.injEq] at scanned
    obtain ⟨numeral, after, found, _, same⟩ := scanned
    exact same ▸ scanNumeral_length found

def tokens (text : List Char) : List Token :=
  match _scanned : scanToken (text.dropWhile isSpace) with
  | some (token, rest) => token :: tokens rest
  | none => if text.all isSpace then [] else [.stray]
termination_by text.length
decreasing_by
  have shorter := scanToken_length _scanned
  have := (List.dropWhile_sublist isSpace (l := text)).length_le
  omega

end Assay.Json
