/-!
Classes of characters by name. They hold for single bytes; beyond ASCII no class has members.
-/

namespace Assay.Text

def isGraphic (c : Char) : Bool := '!' ≤ c && c ≤ '~'

def isSpaceByte (c : Char) : Bool := c = ' ' || ('\t' ≤ c && c ≤ '\r')

def classNamed? (name : String) : Option (Char → Bool) :=
  match name with
  | "alnum" => some Char.isAlphanum
  | "alpha" => some Char.isAlpha
  | "blank" => some fun c => c = ' ' || c = '\t'
  | "cntrl" => some fun c => c.toNat < 32 || c.toNat = 127
  | "digit" => some Char.isDigit
  | "graph" => some isGraphic
  | "lower" => some Char.isLower
  | "print" => some fun c => c = ' ' || isGraphic c
  | "punct" => some fun c => isGraphic c && !c.isAlphanum
  | "space" => some isSpaceByte
  | "upper" => some Char.isUpper
  | "xdigit" => some fun c => c.isDigit || ('a' ≤ c && c ≤ 'f') || ('A' ≤ c && c ≤ 'F')
  | _ => none

namespace Alphabet

def letterRanges : List (Nat × Nat) :=
  [(0xAA, 0xAA), (0xB5, 0xB5), (0xBA, 0xBA), (0xC0, 0xD6), (0xD8, 0xF6), (0xF8, 0x2C1), (0x370, 0x373),
   (0x376, 0x377), (0x37A, 0x37D), (0x37F, 0x37F), (0x386, 0x386), (0x388, 0x3FF), (0x400, 0x481), (0x48A, 0x52F),
   (0x531, 0x556), (0x561, 0x587), (0x5D0, 0x5EA), (0x620, 0x64A), (0x904, 0x939), (0xE01, 0xE30), (0x10A0, 0x10FF),
   (0x1E00, 0x1FBC), (0x3041, 0x3096), (0x30A1, 0x30FA), (0x3400, 0x4DBF), (0x4E00, 0x9FFF), (0xAC00, 0xD7A3),
   (0x20000, 0x2A6DF)]

/-- Ranges of large letters, each with the distance to the small ones and with the step from letter to letter. -/
def caseRanges : List (Nat × Nat × Nat × Nat) :=
  [(0x41, 0x5A, 32, 1), (0xC0, 0xD6, 32, 1), (0xD8, 0xDE, 32, 1), (0x100, 0x12E, 1, 2), (0x132, 0x136, 1, 2),
   (0x139, 0x147, 1, 2), (0x14A, 0x176, 1, 2), (0x179, 0x17D, 1, 2), (0x388, 0x38A, 37, 1), (0x391, 0x3A1, 32, 1),
   (0x3A3, 0x3AB, 32, 1), (0x400, 0x40F, 80, 1), (0x410, 0x42F, 32, 1), (0x460, 0x480, 1, 2), (0x48A, 0x4BE, 1, 2),
   (0x4D0, 0x52E, 1, 2), (0x531, 0x556, 48, 1), (0x1E00, 0x1E94, 1, 2), (0x1EA0, 0x1EFE, 1, 2)]

def casePairs : List (Nat × Nat) := [(0x178, 0xFF), (0x386, 0x3AC), (0x38C, 0x3CC), (0x38E, 0x3CD), (0x38F, 0x3CE)]

def isLetter (c : Char) : Bool :=
  c.isAlpha || letterRanges.any fun (first, last) => first ≤ c.toNat && c.toNat ≤ last

def lower (c : Char) : Char :=
  let code := c.toNat
  match caseRanges.find? fun (first, last, _, gap) => first ≤ code && code ≤ last && (code - first) % gap = 0 with
  | some (_, _, distance, _) => Char.ofNat (code + distance)
  | none => ((casePairs.lookup code).map Char.ofNat).getD c

def upper (c : Char) : Char :=
  let code := c.toNat
  match caseRanges.find? fun (first, last, distance, gap) =>
      first + distance ≤ code && code ≤ last + distance && (code - distance - first) % gap = 0 with
  | some (_, _, distance, _) => Char.ofNat (code - distance)
  | none => ((casePairs.find? fun pair => pair.2 = code).map fun pair => Char.ofNat pair.1).getD c

def isUpper (c : Char) : Bool := lower c ≠ c

def isLower (c : Char) : Bool := upper c ≠ c || c = 'ß'

def isVisible (c : Char) : Bool := 0xA0 ≤ c.toNat && c.toNat < 0x10FF00 && !(0xE000 ≤ c.toNat && c.toNat ≤ 0xF8FF)

def markRanges : List (Nat × Nat) := [(0x300, 0x36F), (0x483, 0x489), (0x591, 0x5BD), (0x64B, 0x65F), (0x200B, 0x200F),
  (0x20D0, 0x20F0), (0xFE00, 0xFE0F), (0xFE20, 0xFE2F)]

def doubleRanges : List (Nat × Nat) := [(0x1100, 0x115F), (0x231A, 0x231B), (0x2E80, 0x303E), (0x3041, 0xA4CF),
  (0xA960, 0xA97C), (0xAC00, 0xD7A3), (0xF900, 0xFAFF), (0xFE30, 0xFE6F), (0xFF01, 0xFF60), (0xFFE0, 0xFFE6),
  (0x1F300, 0x1F64F), (0x1F680, 0x1F6C5), (0x1F900, 0x1F9FF), (0x20000, 0x3FFFD)]

def columns (c : Char) : Nat :=
  let lies := fun ranges : List (Nat × Nat) => ranges.any fun (first, last) => first ≤ c.toNat && c.toNat ≤ last
  if c.toNat < 32 ∨ (127 ≤ c.toNat ∧ c.toNat < 160) ∨ lies markRanges then 0
  else if lies doubleRanges then 2
  else 1

def isSpace (c : Char) : Bool :=
  isSpaceByte c || c.toNat = 0x1680 || (0x2000 ≤ c.toNat && c.toNat ≤ 0x200A && c.toNat ≠ 0x2007)
    || [0x2028, 0x2029, 0x205F, 0x3000].contains c.toNat

end Alphabet

def wideClassNamed? (name : String) : Option (Char → Bool) :=
  (classNamed? name).map fun holds c =>
    if c.toNat < 128 then holds c
    else
      match name with
      | "alnum" | "alpha" => Alphabet.isLetter c
      | "lower" => Alphabet.isLower c
      | "upper" => Alphabet.isUpper c
      | "space" => Alphabet.isSpace c
      | "print" => Alphabet.isVisible c
      | "graph" => Alphabet.isVisible c && !Alphabet.isSpace c
      | "punct" => Alphabet.isVisible c && !Alphabet.isLetter c && !Alphabet.isSpace c
      | "cntrl" => 0x80 ≤ c.toNat && c.toNat < 0xA0
      | _ => false

example : Alphabet.lower (Alphabet.upper 'é') = 'é' := by decide

end Assay.Text
