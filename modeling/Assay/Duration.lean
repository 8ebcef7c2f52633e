/-!
Spans of time: whole nanoseconds, with seconds below 2^64. Adding is exact; a sum that no
longer fits has no value.
-/

namespace Assay

def nanosPerSecond : Nat := 1000000000

def nanosLimit : Nat := UInt64.size * nanosPerSecond

structure Duration where
  nanos : Nat
  fits : nanos < nanosLimit
deriving DecidableEq

namespace Duration

def zero : Duration := ⟨0, by decide⟩

instance : Inhabited Duration := ⟨zero⟩

def ofNanos? (nanos : Nat) : Option Duration :=
  if fits : nanos < nanosLimit then some ⟨nanos, fits⟩ else none

theorem ofNanos?_nanos (span : Duration) : ofNanos? span.nanos = some span :=
  dif_pos span.fits

theorem ofNanos?_eq_none {nanos : Nat} (large : ¬ nanos < nanosLimit) : ofNanos? nanos = none :=
  dif_neg large

def ofSeconds (seconds : UInt64) : Duration :=
  ⟨seconds.toNat * nanosPerSecond, Nat.mul_lt_mul_of_pos_right seconds.toNat_lt (by decide)⟩

def seconds (span : Duration) : Nat := span.nanos / nanosPerSecond

def subsecond (span : Duration) : Nat := span.nanos % nanosPerSecond

def add? (left right : Duration) : Option Duration := ofNanos? (left.nanos + right.nanos)

def sum? (spans : List Duration) : Option Duration := spans.foldlM add? zero

def totalNanos : List Duration → Nat
  | [] => 0
  | span :: rest => span.nanos + totalNanos rest

theorem totalNanos_append (left right : List Duration) :
    totalNanos (left ++ right) = totalNanos left + totalNanos right := by
  induction left with
  | nil => simp [totalNanos]
  | cons span rest ih => simp only [List.cons_append, totalNanos, ih, Nat.add_assoc]

theorem foldlM_add? (spans : List Duration) (start : Duration) :
    spans.foldlM add? start = ofNanos? (start.nanos + totalNanos spans) := by
  induction spans generalizing start with
  | nil => exact (ofNanos?_nanos start).symm
  | cons span rest ih =>
    simp only [List.foldlM_cons, add?, totalNanos, ← Nat.add_assoc]
    by_cases fits : start.nanos + span.nanos < nanosLimit
    · rw [show ofNanos? (start.nanos + span.nanos) = some ⟨_, fits⟩ from dif_pos fits]
      exact ih _
    · rw [ofNanos?_eq_none fits, ofNanos?_eq_none (by omega)]
      rfl

/-- Adding one by one fails exactly when the exact total does not fit. -/
theorem sum?_eq (spans : List Duration) : sum? spans = ofNanos? (totalNanos spans) := by
  unfold sum?
  rw [foldlM_add?]
  exact congrArg ofNanos? (Nat.zero_add _)

end Duration

end Assay
