import Assay.Utility.Copying

/-!
Bytes written with few characters, each of which stands for some bits.
-/

namespace Assay.Utility

/-- A way to write bytes: the characters for digits of so many bits, in groups that are filled up. -/
structure Radix where
  letters : List Char
  bits : Nat
  group : Nat := 1
  lowFirst : Bool := false
  ignoresCase : Bool := false

namespace Radix

def sixtyFour : Radix where
  letters := "ABCDEFGHIJKLMNOPQRSTUVWXYZabcdefghijklmnopqrstuvwxyz0123456789+/".toList
  bits := 6
  group := 4

def forAddresses : Radix := { sixtyFour with letters := sixtyFour.letters.take 62 ++ ['-', '_'] }

def thirtyTwo : Radix where
  letters := "ABCDEFGHIJKLMNOPQRSTUVWXYZ234567".toList
  bits := 5
  group := 8

def ordered : Radix := { thirtyTwo with letters := "0123456789ABCDEFGHIJKLMNOPQRSTUV".toList }

def sixteen : Radix where
  letters := "0123456789ABCDEF".toList
  bits := 4

def two (lowFirst : Bool) : Radix where
  letters := ['0', '1']
  bits := 1
  lowFirst

def bitsOf (radix : Radix) (code : Nat) : List Nat :=
  let high := (List.range 8).map fun place => code / Nat.pow 2 (7 - place) % 2
  if radix.lowFirst then high.reverse else high

def valueOf (bits : List Nat) : Nat := bits.foldl (fun value bit => 2 * value + bit) 0

def pieces {α : Type} (size : Nat) : Nat → List α → List (List α)
  | 0, _ => []
  | fuel + 1, items => if items.isEmpty then [] else items.take size :: pieces size fuel (items.drop size)

def encode (radix : Radix) (codes : List Nat) : List Char :=
  let digits := (pieces radix.bits (8 * codes.length + 1) (codes.flatMap radix.bitsOf)).map fun bits =>
    radix.letters.getD (valueOf (bits ++ List.replicate (radix.bits - bits.length) 0)) '='
  digits ++ List.replicate ((radix.group - digits.length % radix.group) % radix.group) '='

/-- The bytes that whole groups of characters stand for, and whether all of them make sense. -/
def decode (radix : Radix) (text : List Char) : List Nat × Bool :=
  let size := if radix.group = 1 then 8 / radix.bits else radix.group
  let read := fun group : List Char =>
    let digits := group.map (fun c => radix.letters.idxOf? c) |>.takeWhile Option.isSome |>.filterMap id
    let bits := digits.flatMap fun digit => (radix.bitsOf digit) |> fun all =>
      if radix.lowFirst then all.take radix.bits else all.drop (8 - radix.bits)
    let whole := (pieces 8 (bits.length + 1) bits).filter fun piece => piece.length = 8
    let codes := whole.map fun piece => valueOf (if radix.lowFirst then piece.reverse else piece)
    let rest := group.drop digits.length
    let fits := group.length = size && (rest = [] || (1 < radix.group && whole ≠ []
      && rest.all (· = '=') && bits.length % 8 < radix.bits))
    (if group.length < size ∧ 4 < size then [] else codes, fits)
  let groups := (pieces size (text.length + 1) text).map read
  let fine := groups.takeWhile Prod.snd
  let last := groups[fine.length]?
  (fine.flatMap Prod.fst ++ ((last.map Prod.fst).getD []), last.isNone)

end Radix

def wrapped (width : Nat) : Nat → List Char → List Char
  | 0, _ => []
  | _, [] => []
  | fuel + 1, text => text.take width ++ '\n' :: wrapped width fuel (text.drop width)

def radixFile (radix : Radix) (found : Found) : Utility Unit := do
  let width ← match found.value? "w" with
    | none => pure 76
    | some text =>
      match natural? text with
      | some number => pure number
      | none => fail ("invalid wrap size: " ++ cited text)
  match found.operands with
  | _ :: extra :: _ => misuse ("extra operand " ++ cited extra)
  | files =>
    let file := files.headD "-"
    match ← contentOf file with
    | .error .isAFolder => fail "read error: Is a directory"
    | .error fault => fail ((if file = "-" then "read error" else named file) ++ ": " ++ fault.message)
    | .ok content =>
      if found.has "d" then
        let letters := (Octets.chars content).filter fun c =>
          c ≠ '\n' && (!found.has "i" || c = '=' || radix.letters.contains c)
        let (codes, fine) := radix.decode letters
        emit (codes.map Char.ofNat)
        if !fine then
          flush
          fail "invalid input"
      else
        let letters := radix.encode (content.toList.map UInt8.toNat)
        emit (if width = 0 then letters else wrapped width (letters.length + 1) letters)

def radixOptions : Options where
  flags := "di"
  valued := "w"
  words := [("decode", "d", false), ("ignore-garbage", "i", false), ("wrap", "w", true)]

def base64 : Program := program do radixFile .sixtyFour (← options radixOptions)

def base32 : Program := program do radixFile .thirtyTwo (← options radixOptions)

def basenc : Program := program do
  let known := [("base64", Radix.sixtyFour), ("base64url", .forAddresses), ("base32", .thirtyTwo),
    ("base32hex", .ordered), ("base16", .sixteen), ("base2msbf", .two false), ("base2lsbf", .two true)]
  let found ← options
    { radixOptions with words := radixOptions.words ++ known.map fun item => (item.1, item.1, false) }
  match found.last? (known.map Prod.fst) with
  | some name => radixFile ((known.lookup name).getD .sixtyFour) found
  | none => misuse "missing encoding type"

end Assay.Utility
