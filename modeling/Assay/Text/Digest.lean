/-!
Digests: short numbers that tell long texts apart. Texts are taken as bytes, in blocks that are mixed one after the
other into a few words.
-/

namespace Assay.Text.Digest

structure Words where
  bits : Nat

namespace Words

def size (words : Words) : Nat := Nat.pow 2 words.bits

def add (words : Words) (a b : Nat) : Nat := (a + b) % words.size

def not (words : Words) (a : Nat) : Nat := words.size - 1 - a

def shiftRight (a count : Nat) : Nat := a / Nat.pow 2 count

def rotateRight (words : Words) (a count : Nat) : Nat :=
  shiftRight a count + (a * Nat.pow 2 (words.bits - count)) % words.size

def rotateLeft (words : Words) (a count : Nat) : Nat := words.rotateRight a (words.bits - count)

def bytes (words : Words) (a : Nat) : List Nat :=
  let count := words.bits / 8
  (List.range count).map fun place => shiftRight a (8 * (count - 1 - place)) % 256

def ofBytes (highFirst : Bool) (width : Nat) : Nat → List Nat → List Nat
  | 0, _ => []
  | count + 1, bytes =>
    let group := bytes.take width
    let value := (if highFirst then group else group.reverse).foldl (fun value byte => 256 * value + byte) 0
    value :: ofBytes highFirst width count (bytes.drop width)

end Words

/-- A text filled up to whole blocks: a mark, zeros, and the number of its bits at the end. -/
def padded (highFirst : Bool) (block field : Nat) (text : List Nat) : List Nat :=
  let count := 8 * text.length
  let digits := (List.range field).map fun place => Words.shiftRight count (8 * place) % 256
  let opened := (text.length + 1 + field) % block
  let zeros := if opened = 0 then 0 else block - opened
  text ++ 128 :: List.replicate zeros 0 ++ (if highFirst then digits.reverse else digits)

/-- Mixes the blocks of a text into a state. The number bounds them. -/
def blocks (size : Nat) (mix : List Nat → List Nat → List Nat) : Nat → List Nat → List Nat → List Nat
  | 0, state, _ => state
  | _, state, [] => state
  | fuel + 1, state, text => blocks size mix fuel (mix state (text.take size)) (text.drop size)

/-- The largest number whose power is at most a value. Bits are tried from the highest one on. -/
def root (power value : Nat) : Nat → Nat → Nat
  | 0, found => found
  | bits + 1, found =>
    let larger := found + Nat.pow 2 bits
    root power value bits (if Nat.pow larger power ≤ value then larger else found)

def rootBits (power value : Nat) : Nat := root power (value * Nat.pow 2 (64 * power)) 72 0 % Nat.pow 2 64

def isPrime (n : Nat) : Bool := (List.range (n - 2)).all fun d => n % (d + 2) ≠ 0

def primes (count : Nat) : List Nat := (((List.range 500).drop 2).filter isPrime).take count

/-- The members of the family differ in their words, their rounds and how far words are turned. -/
structure Family where
  words : Words
  rounds : Nat
  /-- Turns of the two sums over the state, and of the two over the schedule; the last ones are shifts. -/
  upper : List Nat
  lower : List Nat
  early : List Nat
  late : List Nat

namespace Family

def narrow : Family :=
  { words := ⟨32⟩, rounds := 64, upper := [2, 13, 22], lower := [6, 11, 25], early := [7, 18, 3], late := [17, 19, 10] }

def wide : Family :=
  { words := ⟨64⟩, rounds := 80, upper := [28, 34, 39], lower := [14, 18, 41], early := [1, 8, 7], late := [19, 61, 6] }

def high (family : Family) (bits : Nat) : Nat := Words.shiftRight bits (64 - family.words.bits)

def turned (family : Family) (turns : List Nat) (a : Nat) : Nat :=
  turns.foldl (fun all turn => Nat.xor all (family.words.rotateRight a turn)) 0

def mixed (family : Family) (turns : List Nat) (a : Nat) : Nat :=
  Nat.xor (family.turned (turns.take 2) a) (Words.shiftRight a (turns.getD 2 0))

def schedule (family : Family) : Nat → List Nat → List Nat
  | 0, found => found
  | count + 1, found =>
    let next := family.words.add
      (family.words.add (family.mixed family.late (found.getD 1 0)) (found.getD 6 0))
      (family.words.add (family.mixed family.early (found.getD 14 0)) (found.getD 15 0))
    schedule family count (next :: found)

def round (family : Family) (state : List Nat) (constant word : Nat) : List Nat :=
  match state with
  | [a, b, c, d, e, f, g, h] =>
    let add := family.words.add
    let choice := Nat.xor (Nat.land e f) (Nat.land (family.words.not e) g)
    let first := add (add (add h (family.turned family.lower e)) (add choice constant)) word
    let majority := Nat.xor (Nat.xor (Nat.land a b) (Nat.land a c)) (Nat.land b c)
    let second := add (family.turned family.upper a) majority
    [add first second, a, b, c, add d first, e, f, g]
  | other => other

def mix (family : Family) (constants : List Nat) (state block : List Nat) : List Nat :=
  let start := (Words.ofBytes true (family.words.bits / 8) 16 block).reverse
  let words := (family.schedule (family.rounds - 16) start).reverse
  let after := (constants.zip words).foldl (fun state item => family.round state item.1 item.2) state
  (state.zip after).map fun item => family.words.add item.1 item.2

def digest (family : Family) (start : List Nat) (size : Nat) (text : List Nat) : List Nat :=
  let block := 2 * family.words.bits
  let constants := (primes family.rounds).map fun p => family.high (rootBits 3 p)
  let filled := padded true block (block / 8) text
  ((blocks block (family.mix constants) (filled.length + 1) start filled).flatMap family.words.bytes).take size

end Family

def starts (skipped : Nat) : List Nat := ((primes (skipped + 8)).drop skipped).map (rootBits 2)

def sha256 (text : List Nat) : List Nat :=
  Family.narrow.digest ((starts 0).map Family.narrow.high) 32 text

def sha224 (text : List Nat) : List Nat :=
  Family.narrow.digest ((starts 8).map fun bits => bits % Nat.pow 2 32) 28 text

def sha512 (text : List Nat) : List Nat := Family.wide.digest (starts 0) 64 text

def sha384 (text : List Nat) : List Nat := Family.wide.digest (starts 8) 48 text

def single : Words := ⟨32⟩

def firstSchedule : Nat → List Nat → List Nat
  | 0, found => found
  | count + 1, found =>
    let word := Nat.xor (Nat.xor (found.getD 2 0) (found.getD 7 0)) (Nat.xor (found.getD 13 0) (found.getD 15 0))
    firstSchedule count (single.rotateLeft word 1 :: found)

def firstRound (state : List Nat) (number word : Nat) : List Nat :=
  match state with
  | [a, b, c, d, e] =>
    let (mixed, constant) :=
      if number < 20 then (Nat.lor (Nat.land b c) (Nat.land (single.not b) d), 0x5A827999)
      else if number < 40 then (Nat.xor (Nat.xor b c) d, 0x6ED9EBA1)
      else if number < 60 then (Nat.lor (Nat.lor (Nat.land b c) (Nat.land b d)) (Nat.land c d), 0x8F1BBCDC)
      else (Nat.xor (Nat.xor b c) d, 0xCA62C1D6)
    let next := single.add (single.add (single.add (single.rotateLeft a 5) mixed) (single.add e constant)) word
    [next, a, single.rotateLeft b 30, c, d]
  | other => other

def firstMix (state block : List Nat) : List Nat :=
  let words := (firstSchedule 64 (Words.ofBytes true 4 16 block).reverse).reverse
  let after := ((List.range 80).zip words).foldl (fun state item => firstRound state item.1 item.2) state
  (state.zip after).map fun item => single.add item.1 item.2

def sha1 (text : List Nat) : List Nat :=
  let filled := padded true 64 8 text
  (blocks 64 firstMix (filled.length + 1) [0x67452301, 0xEFCDAB89, 0x98BADCFE, 0x10325476, 0xC3D2E1F0]
    filled).flatMap single.bytes

def sineBits (number : Nat) : Nat :=
  ((Float.ofNat (number + 1)).sin.abs * 4294967296.0).toUInt64.toNat

def turns : List Nat := [7, 12, 17, 22, 5, 9, 14, 20, 4, 11, 16, 23, 6, 10, 15, 21]

def sineRound (words state : List Nat) (number : Nat) : List Nat :=
  match state with
  | [a, b, c, d] =>
    let (mixed, place) :=
      if number < 16 then (Nat.lor (Nat.land b c) (Nat.land (single.not b) d), number)
      else if number < 32 then (Nat.lor (Nat.land d b) (Nat.land (single.not d) c), (5 * number + 1) % 16)
      else if number < 48 then (Nat.xor (Nat.xor b c) d, (3 * number + 5) % 16)
      else (Nat.xor c (Nat.lor b (single.not d)), (7 * number) % 16)
    let total := single.add (single.add a mixed) (single.add (sineBits number) (words.getD place 0))
    let turn := turns.getD (4 * (number / 16) + number % 4) 0
    [d, single.add b (single.rotateLeft total turn), b, c]
  | other => other

def sineMix (state block : List Nat) : List Nat :=
  let words := Words.ofBytes false 4 16 block
  let after := (List.range 64).foldl (sineRound words) state
  (state.zip after).map fun item => single.add item.1 item.2

def md5 (text : List Nat) : List Nat :=
  let filled := padded false 64 8 text
  (blocks 64 sineMix (filled.length + 1) [0x67452301, 0xEFCDAB89, 0x98BADCFE, 0x10325476] filled).flatMap
    fun word => (single.bytes word).reverse

def divided : Nat → Nat → Nat
  | 0, value => value
  | count + 1, value =>
    divided count (if 2147483648 ≤ value then Nat.xor (2 * value % 4294967296) 0x04C11DB7 else 2 * value)

def remainderStep (value byte : Nat) : Nat := divided 8 (Nat.xor value (byte * 16777216))

def lengthBytes : Nat → Nat → List Nat
  | 0, _ => []
  | fuel + 1, length => if length = 0 then [] else length % 256 :: lengthBytes fuel (length / 256)

def remainder (text : List Nat) : Nat :=
  single.not ((text ++ lengthBytes 20 text.length).foldl remainderStep 0)

def turnedSum (text : List Nat) : Nat :=
  text.foldl (fun total byte => (total / 2 + 32768 * (total % 2) + byte) % 65536) 0

def hexadecimal (bytes : List Nat) : String :=
  String.ofList (bytes.flatMap fun byte =>
    let digits := Nat.toDigits 16 byte
    if digits.length < 2 then '0' :: digits else digits)

end Assay.Text.Digest

/-!
The digest of BLAKE2 with words of 64 bits. Sixteen words of a block are stirred into a state in twelve rounds, each of
which takes them in another order.
-/

namespace Assay.Text.Blake

def orders : List (List Nat) :=
  [[0, 1, 2, 3, 4, 5, 6, 7, 8, 9, 10, 11, 12, 13, 14, 15], [14, 10, 4, 8, 9, 15, 13, 6, 1, 12, 0, 2, 11, 7, 5, 3],
   [11, 8, 12, 0, 5, 2, 15, 13, 10, 14, 3, 6, 7, 1, 9, 4], [7, 9, 3, 1, 13, 12, 11, 14, 2, 6, 5, 10, 4, 0, 15, 8],
   [9, 0, 5, 7, 2, 4, 10, 15, 14, 1, 11, 12, 6, 8, 3, 13], [2, 12, 6, 10, 0, 11, 8, 3, 4, 13, 7, 5, 15, 14, 1, 9],
   [12, 5, 1, 15, 14, 13, 4, 10, 0, 7, 6, 3, 9, 2, 8, 11], [13, 11, 7, 14, 12, 1, 3, 9, 5, 0, 15, 4, 8, 6, 2, 10],
   [6, 15, 14, 9, 11, 3, 0, 8, 12, 2, 13, 7, 1, 4, 10, 5], [10, 2, 8, 4, 7, 6, 1, 5, 15, 11, 9, 14, 3, 12, 13, 0]]

def quarters : List (Nat × Nat × Nat × Nat) :=
  [(0, 4, 8, 12), (1, 5, 9, 13), (2, 6, 10, 14), (3, 7, 11, 15), (0, 5, 10, 15), (1, 6, 11, 12), (2, 7, 8, 13),
   (3, 4, 9, 14)]

def turned (word : UInt64) (count : UInt64) : UInt64 := (word >>> count) ||| (word <<< (64 - count))

def stirred (state : Array UInt64) (places : Nat × Nat × Nat × Nat) (x y : UInt64) : Array UInt64 :=
  let (i, j, k, l) := places
  let word := fun place : Nat => state.getD place 0
  let a := word i + word j + x
  let d := turned (word l ^^^ a) 32
  let c := word k + d
  let b := turned (word j ^^^ c) 24
  let e := a + b + y
  let h := turned (d ^^^ e) 16
  let g := c + h
  let f := turned (b ^^^ g) 63
  (((state.setIfInBounds i e).setIfInBounds j f).setIfInBounds k g).setIfInBounds l h

def firstWords : Array UInt64 := ((Digest.starts 0).map UInt64.ofNat).toArray

/-- Mixes a block into the words so far. `count` is how many bytes there have been with it. -/
def mixed (words : Array UInt64) (block : List Nat) (count : Nat) (last : Bool) : Array UInt64 :=
  let taken := ((Digest.Words.ofBytes false 8 16 (block ++ List.replicate (128 - block.length) 0)).map UInt64.ofNat).toArray
  let start := words ++ firstWords
  let counted := start.modify 12 (· ^^^ UInt64.ofNat count)
  let marked := if last then counted.modify 14 (· ^^^ 0xffffffffffffffff) else counted
  let stirredAll := (orders ++ orders.take 2).foldl (fun state order =>
    (quarters.zip (List.range 8)).foldl (fun (state : Array UInt64) (places, number) =>
      let word := fun offset : Nat => taken.getD (order.getD (2 * number + offset) 0) 0
      stirred state places (word 0) (word 1)) state) marked
  (words.zip (Array.range 8)).map fun (word, place) =>
    word ^^^ stirredAll.getD place 0 ^^^ stirredAll.getD (place + 8) 0

def blocks : Nat → Array UInt64 → Nat → List Nat → Array UInt64
  | 0, words, _, _ => words
  | fuel + 1, words, done, text =>
    if text.length ≤ 128 then mixed words text (done + text.length) true
    else blocks fuel (mixed words (text.take 128) (done + 128) false) (done + 128) (text.drop 128)

def digest (size : Nat) (text : List Nat) : List Nat :=
  let words := firstWords.modify 0 (· ^^^ UInt64.ofNat (0x01010000 + size))
  let result := blocks (text.length / 128 + 1) words 0 text
  (result.toList.flatMap fun word => (Digest.Words.bytes ⟨64⟩ word.toNat).reverse).take size

end Assay.Text.Blake
