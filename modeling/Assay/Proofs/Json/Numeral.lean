import Mathlib.Data.List.Basic
import Assay.Json.Token
import Assay.Proofs.Summary.Basic

/-!
Numerals as they are written and read. What a well-formed numeral renders is scanned as that numeral,
and a whole number of 64 bits comes back as the same number. A real number has a well-formed numeral
too.
-/

namespace Assay

structure IsDigits (digits : List Char) : Prop where
  some : digits ≠ []
  all : ∀ c ∈ digits, c.isDigit = true

theorem isDigits_toDigits (n : Nat) : IsDigits (Nat.toDigits 10 n) where
  some := Nat.toDigits_ne_nil
  all _ := Nat.isDigit_of_mem_toDigits (by decide) (by decide)

theorem Text.digitsValue_toDigits (n : Nat) : digitsValue (Nat.toDigits 10 n) = n :=
  Nat.ofDigitChars_ten_toDigits

namespace Numeral

structure WellFormed (numeral : Numeral) : Prop where
  whole : IsDigits numeral.whole
  leading : numeral.whole.head? = some '0' → numeral.whole = ['0']
  fraction : ∀ digits, numeral.fraction = some digits → IsDigits digits

def fractionPart : Option (List Char) → List Char
  | some digits => '.' :: digits
  | none => []

def exponentPart : Option Int → List Char
  | some exponent => renderExponent exponent
  | none => []

theorem render_eq (numeral : Numeral) :
    numeral.render = (if numeral.negative then ['-'] else []) ++ (numeral.whole ++
      (fractionPart numeral.fraction ++ exponentPart numeral.exponent)) := by
  unfold render
  rw [List.append_assoc, List.append_assoc]
  rfl

end Numeral

namespace Json

/-! Digits. -/

def NoDigit (text : List Char) : Prop := ∀ c, text.head? = some c → c.isDigit = false

theorem takeWhile_of_noDigit {text : List Char} (apart : NoDigit text) :
    text.takeWhile Char.isDigit = [] := by
  cases text with
  | nil => rfl
  | cons c rest => simp [apart c rfl]

theorem dropWhile_of_noDigit {text : List Char} (apart : NoDigit text) :
    text.dropWhile Char.isDigit = text := by
  cases text with
  | nil => rfl
  | cons c rest => simp [apart c rfl]

theorem scanDigits_append {digits rest : List Char} (number : IsDigits digits)
    (apart : NoDigit rest) : scanDigits (digits ++ rest) = some (digits, rest) := by
  unfold scanDigits
  rw [List.takeWhile_append_of_pos number.all, List.dropWhile_append_of_pos number.all,
    takeWhile_of_noDigit apart, dropWhile_of_noDigit apart, List.append_nil, if_neg number.some]

theorem scanWhole_append {digits rest : List Char} (number : IsDigits digits)
    (leading : digits.head? = some '0' → digits = ['0']) (apart : NoDigit rest) :
    scanWhole (digits ++ rest) = some (digits, rest) := by
  unfold scanWhole
  rw [scanDigits_append number apart]
  split
  · next more _ same =>
      obtain ⟨rfl, -⟩ := Prod.mk.inj (Option.some.inj same)
      simp at leading
  · rfl

theorem scanFraction_append {fraction : Option (List Char)} {rest : List Char}
    (number : ∀ digits, fraction = some digits → IsDigits digits) (apart : NoDigit rest)
    (noPoint : rest.head? ≠ some '.') :
    scanFraction (Numeral.fractionPart fraction ++ rest) = some (fraction, rest) := by
  cases fraction with
  | some digits =>
      simp [Numeral.fractionPart, scanFraction, scanDigits_append (number digits rfl) apart]
  | none =>
      rw [Numeral.fractionPart, List.nil_append]
      unfold scanFraction
      split
      · simp at noPoint
      · rfl

theorem scanExponentDigits_toDigits (sign : Int) (n : Nat) {rest : List Char}
    (apart : NoDigit rest) :
    scanExponentDigits sign (Nat.toDigits 10 n ++ rest) = some (some (sign * n), rest) := by
  simp [scanExponentDigits, scanDigits_append (isDigits_toDigits n) apart,
    Text.digitsValue_toDigits]

theorem scanExponent_append (exponent : Option Int) {rest : List Char} (apart : NoDigit rest)
    (noMark : rest.head? ≠ some 'e' ∧ rest.head? ≠ some 'E') :
    scanExponent (Numeral.exponentPart exponent ++ rest) = some (exponent, rest) := by
  cases exponent with
  | some exponent =>
      have scanned (sign : Int) :
          scanExponentDigits sign (Nat.toDigits 10 exponent.natAbs ++ rest) =
            some (some (sign * exponent.natAbs), rest) :=
        scanExponentDigits_toDigits sign _ apart
      by_cases negative : exponent < 0
      · have minus : -1 * (exponent.natAbs : Int) = exponent := by omega
        have read := scanned (-1)
        rw [minus] at read
        simpa [Numeral.exponentPart, Numeral.renderExponent, scanExponent, negative] using read
      · have plus : 1 * (exponent.natAbs : Int) = exponent := by omega
        have read := scanned 1
        rw [plus] at read
        simpa [Numeral.exponentPart, Numeral.renderExponent, scanExponent, negative] using read
  | none =>
      cases rest with
      | nil => rfl
      | cons c more =>
          have other : ¬ (c = 'e' ∨ c = 'E') := by simpa using noMark
          simp [Numeral.exponentPart, scanExponent, other]

/-! Numerals. -/

/-- The text goes on with nothing that could belong to a numeral before it. -/
structure Apart (text : List Char) : Prop where
  noDigit : NoDigit text
  noPoint : text.head? ≠ some '.'
  noMark : text.head? ≠ some 'e' ∧ text.head? ≠ some 'E'

theorem apart_nil : Apart [] where
  noDigit := by simp [NoDigit]
  noPoint := by simp
  noMark := by simp

theorem apart_cons {c : Char} (other : c.isDigit = false ∧ c ≠ '.' ∧ c ≠ 'e' ∧ c ≠ 'E')
    (rest : List Char) : Apart (c :: rest) where
  noDigit := by simp [NoDigit, other.1]
  noPoint := by simp [other.2.1]
  noMark := by simp [other.2.2]

theorem exponentPart_append (exponent : Option Int) {rest : List Char} (apart : Apart rest) :
    NoDigit (Numeral.exponentPart exponent ++ rest) ∧
      (Numeral.exponentPart exponent ++ rest).head? ≠ some '.' := by
  cases exponent with
  | some exponent => simp [Numeral.exponentPart, Numeral.renderExponent, NoDigit]
  | none => exact ⟨apart.noDigit, apart.noPoint⟩

theorem fractionPart_append (fraction : Option (List Char)) {rest : List Char}
    (apart : NoDigit rest) : NoDigit (Numeral.fractionPart fraction ++ rest) := by
  cases fraction with
  | some digits => simp [Numeral.fractionPart, NoDigit]
  | none => exact apart

theorem head?_ne_minus {digits : List Char} (number : IsDigits digits) (rest : List Char) :
    (digits ++ rest).head? ≠ some '-' := by
  cases digits with
  | nil => exact absurd rfl number.some
  | cons digit more =>
      have isDigit := number.all digit List.mem_cons_self
      rintro ⟨⟩
      simp at isDigit

theorem scanNumeral_render {numeral : Numeral} (formed : numeral.WellFormed) {rest : List Char}
    (apart : Apart rest) : scanNumeral (numeral.render ++ rest) = some (numeral, rest) := by
  obtain ⟨negative, whole, fraction, exponent⟩ := numeral
  obtain ⟨number, leading, fractions⟩ := formed
  -- Each part ends where the next begins: nothing after it could belong to it.
  obtain ⟨noDigit, noPoint⟩ := exponentPart_append exponent apart
  have scannedWhole := scanWhole_append number leading (fractionPart_append fraction noDigit)
  have scannedFraction := scanFraction_append fractions noDigit noPoint
  have scannedExponent := scanExponent_append exponent apart.noDigit apart.noMark
  have unsigned := head?_ne_minus number
    (Numeral.fractionPart fraction ++ (Numeral.exponentPart exponent ++ rest))
  rw [Numeral.render_eq, List.append_assoc, List.append_assoc, List.append_assoc]
  unfold scanNumeral
  cases negative with
  | true => simp [scannedWhole, scannedFraction, scannedExponent]
  | false =>
      simp only [Bool.false_eq_true, if_false, List.nil_append, unsigned, decide_false,
        scannedWhole, scannedFraction, scannedExponent, Option.bind_eq_bind, Option.bind_some,
        Option.pure_def]

end Json

namespace Numeral

/-! Numbers. -/

theorem head?_toDigits_ne_zero {n : Nat} (positive : 0 < n) :
    (Nat.toDigits 10 n).head? ≠ some '0' := by
  induction n using Nat.base_induction 10 (by decide) with
  | single digit small =>
      rw [Nat.toDigits_of_lt_base small]
      simpa using Nat.ne_of_gt positive
  | digit front last small more ih =>
      rw [← Nat.toDigits_append_toDigits (by decide) more small]
      cases start : Nat.toDigits 10 front with
      | nil => exact absurd start Nat.toDigits_ne_nil
      | cons c rest => simpa [start] using ih more

theorem wellFormed_ofNat (n : Nat) : (ofNat n).WellFormed where
  whole := isDigits_toDigits n
  leading zero := by
    rcases Nat.eq_zero_or_pos n with rfl | positive
    · exact Nat.toDigits_zero 10
    · exact absurd zero (head?_toDigits_ne_zero positive)
  fraction := by simp [ofNat]

theorem gather_concat (digits : List Char) (digit : Char) :
    gather 0 (digits ++ [digit]) =
      let state := gather 0 digits
      let next := 10 * state.significand + (digit.toNat - '0'.toNat)
      if state.full then state
      else if next < UInt64.size then { state with significand := next, taken := state.taken + 1 }
      else { state with full := true } := by
  unfold gather
  rw [List.foldl_append]
  rfl

theorem gather_eq {digits : List Char} (small : Text.digitsValue digits < UInt64.size) :
    gather 0 digits = { significand := Text.digitsValue digits, taken := digits.length } := by
  induction digits using List.reverseRecOn with
  | nil => rfl
  | append_singleton digits digit ih =>
      rw [Text.digitsValue_append] at small ⊢
      have before := ih (by omega)
      rw [gather_concat, before]
      simpa using small

theorem number?_ofNat {n : Nat} (small : n < UInt64.size) :
    (ofNat n).number? = some (.natural (UInt64.ofNat n)) := by
  have value := Text.digitsValue_toDigits n
  have gathered := gather_eq (value.symm ▸ small)
  rw [value] at gathered
  simp [number?, ofNat, gathered]

theorem gather_of_not_full {digits : List Char} (whole : (gather 0 digits).full = false) :
    (gather 0 digits).significand = Text.digitsValue digits ∧
      Text.digitsValue digits < UInt64.size := by
  induction digits using List.reverseRecOn with
  | nil => exact ⟨rfl, by decide⟩
  | append_singleton digits digit ih =>
      rw [gather_concat] at whole ⊢
      rw [Text.digitsValue_append]
      dsimp only at whole ⊢
      by_cases full : (gather 0 digits).full = true
      · simp [full] at whole
      · rw [if_neg full] at whole ⊢
        obtain ⟨before, -⟩ := ih (by simpa using full)
        rw [before] at whole ⊢
        split at whole
        · next fits =>
            rw [if_pos fits]
            exact ⟨rfl, fits⟩
        · simp at whole

theorem number?_cases {numeral : Numeral} {number : Number}
    (read : numeral.number? = some number) :
    (∃ x, number = .real x) ∨
    (∃ n : Nat, 0 < n ∧ n ≤ 9223372036854775808 ∧ number = .negative (Int64.ofInt (-n))) ∨
    ∃ digits, numeral = { whole := digits } ∧ Text.digitsValue digits < UInt64.size ∧
      number = .natural (UInt64.ofNat (Text.digitsValue digits)) := by
  obtain ⟨negative, whole, fraction, exponent⟩ := numeral
  unfold number? at read
  dsimp only at read
  have scaled {scale : Option Binary64} {signed : Binary64 → Number}
      (reals : ∀ x, ∃ y, signed x = .real y) (given : scale.map signed = some number) :
      ∃ x, number = .real x := by
    obtain ⟨x, -, rfl⟩ := Option.map_eq_some_iff.mp given
    exact reals x
  split at read
  · split at read
    · exact Or.inl (scaled (fun x => ⟨_, rfl⟩) read)
    · next taken =>
        obtain ⟨value, small⟩ := gather_of_not_full (by simpa using taken)
        split at read
        · split at read
          · next bounds =>
              exact Or.inr (Or.inl ⟨_, bounds.1, bounds.2, (Option.some.inj read).symm⟩)
          · exact Or.inl ⟨_, (Option.some.inj read).symm⟩
        · next unsigned =>
            rw [value] at read
            exact Or.inr (Or.inr ⟨whole, by simp [unsigned], small, (Option.some.inj read).symm⟩)
  · split at read
    · split at read
      · simp at read
      · exact Or.inl ⟨_, (Option.some.inj read).symm⟩
    · exact Or.inl (scaled (fun x => ⟨_, rfl⟩) read)
  · exact Or.inl (scaled (fun x => ⟨_, rfl⟩) read)

theorem number?_eq_natural_iff {numeral : Numeral} {n : UInt64} :
    numeral.number? = some (.natural n) ↔
      ∃ digits, numeral = { whole := digits } ∧ Text.digitsValue digits = n.toNat := by
  constructor
  · intro read
    rcases number?_cases read with ⟨x, other⟩ | ⟨m, -, -, other⟩ | ⟨digits, same, small, value⟩
    · cases other
    · cases other
    · refine ⟨digits, same, ?_⟩
      rw [Number.natural.inj value, UInt64.toNat_ofNat_of_lt' small]
  · rintro ⟨digits, rfl, value⟩
    have small : Text.digitsValue digits < UInt64.size := value ▸ n.toNat_lt
    simp [number?, gather_eq small, value]

theorem toInt_neg_of_number? {numeral : Numeral} {i : Int64}
    (read : numeral.number? = some (.negative i)) : i.toInt < 0 := by
  rcases number?_cases read with ⟨x, other⟩ | ⟨n, positive, small, value⟩ | ⟨_, -, -, other⟩
  · cases other
  · rw [Number.negative.inj value, Int64.toInt_ofInt_of_le (by omega) (by omega)]
    omega
  · cases other
theorem wellFormed_ofInt (i : Int) : (ofInt i).WellFormed where
  whole := (wellFormed_ofNat i.natAbs).whole
  leading := (wellFormed_ofNat i.natAbs).leading
  fraction := by simp [ofInt]

theorem number?_ofInt_of_neg {i : Int} (negative : i < 0) (least : -9223372036854775808 ≤ i) :
    (ofInt i).number? = some (.negative (Int64.ofInt i)) := by
  have bound : i.natAbs ≤ 9223372036854775808 := by omega
  have value := Text.digitsValue_toDigits i.natAbs
  have gathered : gather 0 (Nat.toDigits 10 i.natAbs) = _ :=
    gather_eq (value.symm ▸ Nat.lt_of_le_of_lt bound (by decide))
  rw [value] at gathered
  have back : -(i.natAbs : Int) = i := by omega
  unfold number? ofInt
  simp only [Option.getD_none, gathered, negative, decide_true, Bool.false_eq_true, if_false, if_true,
    back]
  rw [if_pos ⟨by omega, bound⟩]

end Numeral

/-! Shortest decimals. -/

theorem rescale_le_of_le {base numerator denominator : Nat} (positive : 0 < base) {low high : Int}
    (below : low ≤ high)
    (fits : (rescale base numerator denominator high).2 ≤
      (rescale base numerator denominator high).1) :
    (rescale base numerator denominator low).2 ≤ (rescale base numerator denominator low).1 := by
  have smaller : base ^ low.toNat ≤ base ^ high.toNat := Nat.pow_le_pow_right positive (by omega)
  have larger : base ^ (-high).toNat ≤ base ^ (-low).toNat :=
    Nat.pow_le_pow_right positive (by omega)
  calc denominator * base ^ low.toNat ≤ denominator * base ^ high.toNat :=
        Nat.mul_le_mul_left denominator smaller
    _ ≤ numerator * base ^ (-high).toNat := fits
    _ ≤ numerator * base ^ (-low).toNat := Nat.mul_le_mul_left numerator larger

namespace Decimal

theorem width_pos (n : Nat) : 0 < width n := List.length_pos_iff.mpr Nat.toDigits_ne_nil

theorem lt_pow_width (n : Nat) : n < 10 ^ width n :=
  (Nat.length_toDigits_le_iff (by decide) (width_pos n)).mp (Nat.le_refl _)

theorem pow_pred_width_le {n : Nat} (positive : 0 < n) : 10 ^ (width n - 1) ≤ n := by
  rcases Nat.eq_zero_or_pos (width n - 1) with one | more
  · rw [one]
    exact positive
  · have wider : ¬ width n ≤ width n - 1 := by omega
    exact Nat.not_lt.mp (mt (Nat.length_toDigits_le_iff (by decide) more).mpr wider)

theorem floorLog_le {numerator : Nat} (positive : 0 < numerator) (denominator : Nat) :
    (rescale 10 numerator denominator (floorLog numerator denominator)).2 ≤
      (rescale 10 numerator denominator (floorLog numerator denominator)).1 := by
  unfold floorLog
  dsimp only
  split
  · next fits => exact fits
  · have most := Nat.le_of_lt (lt_pow_width denominator)
    have least := pow_pred_width_le positive
    have digits := width_pos numerator
    have exponents : width denominator + ((width numerator : Int) - width denominator - 1).toNat =
        width numerator - 1 + (-((width numerator : Int) - width denominator - 1)).toNat := by omega
    unfold rescale
    generalize ((width numerator : Int) - width denominator - 1).toNat = up at *
    generalize (-((width numerator : Int) - width denominator - 1)).toNat = down at *
    calc denominator * 10 ^ up ≤ 10 ^ width denominator * 10 ^ up := Nat.mul_le_mul_right _ most
      _ = 10 ^ (width numerator - 1) * 10 ^ down := by
        rw [← Nat.pow_add, ← Nat.pow_add, exponents]
      _ ≤ numerator * 10 ^ down := Nat.mul_le_mul_right _ least

theorem nearest?_digits {numerator denominator count : Nat} (positive : 0 < numerator)
    (nonzero : 0 < denominator) (wanted : 0 < count) {found : Decimal}
    (given : nearest? numerator denominator count = some found) : found.digits ≠ 0 := by
  have fits := rescale_le_of_le (by decide)
    (by omega : floorLog numerator denominator + 1 - count ≤ floorLog numerator denominator)
    (floorLog_le positive denominator)
  have unit : 0 < (rescale 10 numerator denominator
      (floorLog numerator denominator + 1 - count)).2 :=
    Nat.mul_pos nonzero (Nat.pow_pos (by decide))
  have quotient := Nat.div_pos fits unit
  have listed := List.mem_of_find?_eq_some given
  split at listed
  · simp only [List.mem_cons, List.not_mem_nil, or_false] at listed
    rcases listed with rfl | rfl
    · exact Nat.ne_of_gt quotient
    · exact Nat.succ_ne_zero _
  · simp only [List.mem_cons, List.not_mem_nil, or_false] at listed
    rcases listed with rfl | rfl
    · exact Nat.succ_ne_zero _
    · exact Nat.ne_of_gt quotient

theorem strip_digits {digits : Nat} (some : digits ≠ 0) (exponent : Int) (steps : Nat) :
    (strip digits exponent steps).digits ≠ 0 := by
  induction steps generalizing digits exponent with
  | zero => exact some
  | succ steps ih =>
      unfold strip
      split
      · exact ih (by omega) _
      · exact some

theorem shortest_cases (x : Binary64) : shortest x = ⟨0, 0⟩ ∨ (shortest x).digits ≠ 0 := by
  unfold shortest
  split
  · exact Or.inl rfl
  · next some =>
      dsimp only
      split
      · next found given =>
          obtain ⟨count, -, given⟩ := List.exists_of_findSome?_eq_some given
          have numerator : 0 < x.ratio.1 :=
            Nat.mul_pos (Nat.pos_of_ne_zero some) (Nat.pow_pos (by decide))
          have denominator : 0 < x.ratio.2 := Nat.mul_pos (by decide) (Nat.pow_pos (by decide))
          have digits := nearest?_digits numerator denominator count.succ_pos given
          exact Or.inr (strip_digits digits _ _)
      · exact Or.inl rfl

end Decimal

namespace Numeral

theorem isDigits_take {digits : List Char} (number : IsDigits digits) {count : Nat}
    (wanted : 0 < count) : IsDigits (digits.take count) where
  some := by simpa [number.some] using Nat.ne_of_gt wanted
  all c member := number.all c (List.mem_of_mem_take member)

theorem isDigits_drop {digits : List Char} (number : IsDigits digits) {count : Nat}
    (left : count < digits.length) : IsDigits (digits.drop count) where
  some := by simpa using left
  all c member := number.all c (List.mem_of_mem_drop member)

theorem isDigits_zero : IsDigits ['0'] where
  some := by simp
  all := by simp

theorem isDigit_of_mem_zeros {count : Nat} {c : Char} (member : c ∈ List.replicate count '0') :
    c.isDigit = true := by
  rw [List.eq_of_mem_replicate member]
  rfl

theorem eq_zero_of_head? {n : Nat} (zero : (Nat.toDigits 10 n).head? = some '0') : n = 0 :=
  Nat.eq_zero_of_not_pos fun positive => head?_toDigits_ne_zero positive zero

theorem wellFormed_ofBinary (x : Binary64) : (ofBinary x).WellFormed := by
  have number := isDigits_toDigits (Decimal.shortest x).digits
  have short := Decimal.shortest_cases x
  have some := List.length_pos_iff.mpr number.some
  unfold ofBinary
  dsimp only
  split
  · next scientific =>
      refine ⟨isDigits_take number (by decide), ?_, ?_⟩
      · cases start : Nat.toDigits 10 (Decimal.shortest x).digits with
        | nil => simp
        | cons c rest => simp
      · intro digits fraction
        split at fraction
        · cases fraction
        · cases fraction
          exact isDigits_drop number (by omega)
  split
  · next whole =>
      have zeros : IsDigits (Nat.toDigits 10 (Decimal.shortest x).digits ++
          List.replicate (Decimal.shortest x).exponent.toNat '0') :=
        ⟨by simp [number.some], fun c member =>
          (List.mem_append.mp member).elim (number.all c) isDigit_of_mem_zeros⟩
      refine ⟨zeros, fun zero => ?_, ?_⟩
      -- A zero has no exponent, so it is one digit.
      · rw [List.head?_append_of_ne_nil _ number.some] at zero
        rw [short.resolve_right (not_not_intro (eq_zero_of_head? zero))]
        rfl
      · rintro _ ⟨⟩
        exact isDigits_zero
  split
  · next mixed =>
      refine ⟨isDigits_take number (by omega), fun zero => ?_, ?_⟩
      · rw [List.head?_take, if_neg (by omega)] at zero
        have single : (Nat.toDigits 10 (Decimal.shortest x).digits).length = 1 := by
          rw [eq_zero_of_head? zero, Nat.toDigits_zero, List.length_singleton]
        omega
      · rintro _ ⟨⟩
        exact isDigits_drop number (by omega)
  · refine ⟨isDigits_zero, fun _ => rfl, ?_⟩
    rintro _ ⟨⟩
    exact ⟨by simp [number.some], fun c member =>
      (List.mem_append.mp member).elim isDigit_of_mem_zeros (number.all c)⟩

end Numeral

end Assay
