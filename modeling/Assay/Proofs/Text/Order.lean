import Mathlib.Data.List.Basic

/-!
The order of texts is the order of their bytes: of two characters the smaller one begins with the
smaller byte, or differs from the other one in a later byte that is smaller.
-/

namespace Assay.Text

theorem fromUTF8?_toUTF8 (text : String) : String.fromUTF8? text.toUTF8 = some text :=
  dif_pos text.isValidUTF8

def bytes (text : String) : List UInt8 := text.toUTF8.data.toList

theorem bytes_eq (text : String) : bytes text = text.toList.flatMap String.utf8EncodeChar := by
  rw [bytes, String.toUTF8_eq_toByteArray, ← String.utf8Encode_toList, List.utf8Encode]
  simp

theorem utf8EncodeChar_lt {first second : Char} (less : first < second) (rest more : List UInt8) :
    String.utf8EncodeChar first ++ rest < String.utf8EncodeChar second ++ more := by
  have values : first.val.toNat < second.val.toNat := less
  have bound : second.val.toNat < 0x110000 := by
    have valid : second.val.toNat.isValidChar := second.valid
    unfold Nat.isValidChar at valid
    omega
  -- Digits to the base of 64, one from the next.
  have third (n : Nat) : n / 4096 = n / 64 / 64 := by omega
  have fourth (n : Nat) : n / 262144 = n / 64 / 64 / 64 := by omega
  unfold String.utf8EncodeChar
  generalize first.val.toNat = small at *
  generalize second.val.toNat = large at *
  -- Each of the two takes from one to four bytes.
  dsimp only
  repeat' split
  all_goals
    simp only [List.cons_append, List.nil_append, List.cons_lt_cons_iff, UInt8.lt_iff_toNat_lt,
      ← UInt8.toNat_inj, UInt8.toNat_ofNat', third, fourth]
    omega

theorem flatMap_utf8EncodeChar_lt {first second : List Char} (less : first < second) :
    first.flatMap String.utf8EncodeChar < second.flatMap String.utf8EncodeChar := by
  induction second generalizing first with
  | nil => cases less
  | cons larger more ih =>
      cases first with
      | nil =>
          rw [List.flatMap_nil, List.flatMap_cons]
          cases start : String.utf8EncodeChar larger with
          | nil => exact absurd start String.utf8EncodeChar_ne_nil
          | cons byte others => exact List.nil_lt_cons _ _
      | cons smaller rest =>
          rw [List.flatMap_cons, List.flatMap_cons]
          rcases List.cons_lt_cons_iff.mp less with here | ⟨rfl, later⟩
          · exact utf8EncodeChar_lt here _ _
          · exact List.append_left_lt (ih later)

theorem bytes_lt_of_lt {first second : String} (less : first < second) :
    bytes first < bytes second := by
  rw [bytes_eq, bytes_eq]
  exact flatMap_utf8EncodeChar_lt less

end Assay.Text
