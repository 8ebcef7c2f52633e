/-!
Blanks and words. A blank is a character with the Unicode property White_Space; the words of
a text are its maximal runs of other characters.
-/

namespace Assay.Text

def blankRanges : List (Nat × Nat) :=
  [(0x09, 0x0D), (0x20, 0x20), (0x85, 0x85), (0xA0, 0xA0), (0x1680, 0x1680), (0x2000, 0x200A),
   (0x2028, 0x2029), (0x202F, 0x202F), (0x205F, 0x205F), (0x3000, 0x3000)]

def isBlank (c : Char) : Bool :=
  blankRanges.any fun range => range.1 ≤ c.toNat && c.toNat ≤ range.2

def cutWords : List Char → List Char × List (List Char)
  | [] => ([], [])
  | c :: rest =>
    let (word, others) := cutWords rest
    if isBlank c then ([], if word = [] then others else word :: others)
    else (c :: word, others)

def words (text : List Char) : List (List Char) :=
  let (word, others) := cutWords text
  if word = [] then others else word :: others

def digitsValue (digits : List Char) : Nat :=
  digits.foldl (fun value digit => 10 * value + (digit.toNat - '0'.toNat)) 0

end Assay.Text
