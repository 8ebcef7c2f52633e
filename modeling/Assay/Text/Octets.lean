/-!
Text from bytes that may not be UTF-8. Each longest piece that could have begun a character is
replaced by one replacement character.
-/

namespace Assay.Text

def replacement : Char := '\ufffd'

/-- A byte that goes on with a character, within bounds for its place. -/
def continues (least most : UInt8) (byte : UInt8) : Bool := least ≤ byte && byte ≤ most

/-- The bounds for the second byte of a character with this first byte. -/
def secondBounds (lead : UInt8) : UInt8 × UInt8 :=
  if lead = 0xE0 then (0xA0, 0xBF)
  else if lead = 0xED then (0x80, 0x9F)
  else if lead = 0xF0 then (0x90, 0xBF)
  else if lead = 0xF4 then (0x80, 0x8F)
  else (0x80, 0xBF)

/-- The number of bytes of a character with this first byte; no character begins with the others. -/
def leadWidth (lead : UInt8) : Nat :=
  if lead < 0x80 then 1
  else if 0xC2 ≤ lead ∧ lead ≤ 0xDF then 2
  else if 0xE0 ≤ lead ∧ lead ≤ 0xEF then 3
  else if 0xF0 ≤ lead ∧ lead ≤ 0xF4 then 4
  else 0

def extend (code : Nat) (byte : UInt8) : Nat := 64 * code + byte.toNat % 64

/-- The character that begins with a byte, and how many further bytes belong to it. When they do
not complete a character they are replaced together. -/
def pieceAt (lead : UInt8) (rest : List UInt8) : Char × Nat :=
  let (least, most) := secondBounds lead
  match leadWidth lead with
  | 0 => (replacement, 0)
  | 1 => (Char.ofNat lead.toNat, 0)
  | width =>
    match rest with
    | [] => (replacement, 0)
    | second :: after =>
      if !continues least most second then (replacement, 0)
      else if width = 2 then (Char.ofNat (extend (lead.toNat % 32) second), 1)
      else
        match after with
        | [] => (replacement, 1)
        | third :: final =>
          if !continues 0x80 0xBF third then (replacement, 1)
          else if width = 3 then
            (Char.ofNat (extend (extend (lead.toNat % 16) second) third), 2)
          else
            match final with
            | [] => (replacement, 2)
            | fourth :: _ =>
              if !continues 0x80 0xBF fourth then (replacement, 2)
              else (Char.ofNat (extend (extend (extend (lead.toNat % 8) second) third) fourth), 3)

def decodeLossy : List UInt8 → List Char
  | [] => []
  | lead :: rest =>
    let (c, taken) := pieceAt lead rest
    c :: decodeLossy (rest.drop taken)
termination_by bytes => bytes.length
decreasing_by
  have := (List.drop_sublist taken rest).length_le
  rw [List.length_cons]
  omega

def ofBytesLossy (bytes : ByteArray) : String :=
  match String.fromUTF8? bytes with
  | some text => text
  | none => String.ofList (decodeLossy bytes.toList)

end Assay.Text

/-!
Texts with one character for each byte. Scripts work on bytes; in such a text every byte, whether
it belongs to a longer character or not, is a character of its own.
-/

namespace Assay.Octets

def isAscii (text : String) : Bool := text.all fun c : Char => decide (c.toNat < 128)

def charOf (byte : UInt8) : Char := Char.ofNat byte.toNat

def byteOf (c : Char) : UInt8 := UInt8.ofNat c.toNat

def chars (bytes : ByteArray) : List Char := bytes.toList.map charOf

def bytes (chars : List Char) : ByteArray := ⟨(chars.map byteOf).toArray⟩

def ofBytes (content : ByteArray) : String := String.ofList (chars content)

def toBytes (octets : String) : ByteArray :=
  if isAscii octets then octets.toUTF8 else bytes octets.toList

def ofText (text : String) : String := if isAscii text then text else ofBytes text.toUTF8

def toText (octets : String) : String :=
  if isAscii octets then octets else Text.ofBytesLossy (toBytes octets)

end Assay.Octets

/-!
Longer characters in texts with one character for each byte. Bytes that spell a character together are
gathered, and a byte that belongs to none stands for itself, beyond all characters that are in use.
-/

namespace Assay.Text.Characters

def strayBase : Nat := 0x10FF00

def isStray (c : Char) : Bool := strayBase + 128 ≤ c.toNat

def stray (octet : Char) : Char := Char.ofNat (strayBase + octet.toNat)

def longer? (lead : Char) (rest : List Char) : Option (Char × Nat) :=
  let byte := Octets.byteOf lead
  let (c, taken) := Text.pieceAt byte (rest.map Octets.byteOf)
  if Text.leadWidth byte = taken + 1 ∧ !isStray c then some (c, taken) else none

/-- Gathers octets to characters. What is known about an octet is known about the character it begins. -/
def gatherTagged {α : Type} : List (Char × α) → List (Char × α)
  | [] => []
  | (lead, tag) :: rest =>
    if lead.toNat < 128 then (lead, tag) :: gatherTagged rest
    else
      match longer? lead ((rest.take 3).map Prod.fst) with
      | some (c, taken) => (c, tag) :: gatherTagged (rest.drop taken)
      | none => (stray lead, tag) :: gatherTagged rest
termination_by octets => octets.length
decreasing_by
  all_goals simp only [List.length_cons, List.length_drop]; omega

def gather (octets : List Char) : List Char := (gatherTagged (octets.map fun c => (c, ()))).map Prod.fst

def octetsOf (c : Char) : List Char :=
  if c.toNat < 128 then [c]
  else if isStray c then [Char.ofNat (c.toNat - strayBase)]
  else Octets.chars (String.ofList [c]).toUTF8

def spread (chars : List Char) : List Char := chars.flatMap octetsOf

def changing (change : List Char → List Char) (octets : List Char) : List Char :=
  if octets.all fun c => c.toNat < 128 then spread (change octets) else spread (change (gather octets))

def count (octets : List Char) : Nat := (gather octets).length

end Assay.Text.Characters

namespace Assay.Text

/-- The variables that tell how the characters of texts are spelled; the first one that says something counts. -/
def spellingNames : List String := ["LC_ALL", "LC_CTYPE", "LANG"]

def spellingIn (value? : String → Option String) : String :=
  ((spellingNames.filterMap value?).find? (· ≠ "")).getD "C"

def wideSettings : List String := ["c.utf-8", "c.utf8"]

def isKnownSetting (setting : String) : Bool :=
  setting = "C" || setting = "POSIX" || wideSettings.contains setting.toLower

def spellsWide (value? : String → Option String) : Bool := wideSettings.contains (spellingIn value?).toLower

end Assay.Text
