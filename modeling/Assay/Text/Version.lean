/-!
The order of version numbers and of file names with such numbers: stretches of digits are compared as numbers, and the
endings of names count only where nothing else makes a difference.
-/

namespace Assay.Text.Version

/-- The rank of the character at hand where no digits are compared: a tilde comes before the end, and the end before
everything else; letters come before other signs. -/
def rank : List Char → Int
  | [] => -1
  | c :: _ =>
    if c.isDigit then 0
    else if c.isAlpha then c.toNat
    else if c = '~' then -2
    else c.toNat + 256

def startsPlain (text : List Char) : Bool := text.head?.any fun c => !c.isDigit

def ofInts (left right : Int) : Ordering := if left < right then .lt else if right < left then .gt else .eq

/-- Compares two texts from stretch to stretch; the number bounds how many there are. -/
def stretches : Nat → List Char → List Char → Ordering
  | 0, _, _ => .eq
  | fuel + 1, left, right =>
    if left = [] ∧ right = [] then .eq
    else if startsPlain left ∨ startsPlain right then
      match ofInts (rank left) (rank right) with
      | .eq => stretches fuel (left.drop 1) (right.drop 1)
      | other => other
    else
      let first := (left.dropWhile (· = '0')).takeWhile Char.isDigit
      let second := (right.dropWhile (· = '0')).takeWhile Char.isDigit
      let number := fun digits : List Char => digits.foldl (fun n c => 10 * n + (c.toNat - '0'.toNat)) 0
      match compare (number first) (number second) with
      | .eq =>
        stretches fuel ((left.dropWhile (· = '0')).drop first.length) ((right.dropWhile (· = '0')).drop second.length)
      | other => other

/-- All of a text belongs to endings: points with a letter or a tilde behind, and letters and digits after it. -/
def isEnding (text : List Char) : Bool :=
  match text with
  | [] => true
  | '.' :: c :: rest =>
    if c.isAlpha ∨ c = '~' then isEnding (rest.dropWhile fun d => d.isAlphanum || d = '~') else false
  | _ => false
termination_by text.length
decreasing_by
  simp only [List.length_cons]
  have := (List.dropWhile_sublist (fun d : Char => d.isAlphanum || d = '~') (l := rest)).length_le
  omega

def withoutEndings : List Char → List Char
  | [] => []
  | c :: rest => c :: body rest
where
  body : List Char → List Char
    | [] => []
    | c :: rest => if isEnding (c :: rest) then [] else c :: body rest

def front : List Char → Nat
  | [] => 0
  | ['.'] => 1
  | ['.', '.'] => 2
  | '.' :: _ => 3
  | _ => 4

def compare (left right : List Char) : Ordering :=
  match Ord.compare (front left) (front right) with
  | .eq =>
    if front left < 3 then .eq
    else
      let size := left.length + right.length + 1
      match stretches size (withoutEndings left) (withoutEndings right) with
      | .eq => stretches size left right
      | other => other
  | other => other

example : compare "a2.txt".toList "a10.txt".toList = .lt ∧ compare "1.0~rc".toList "1.0".toList = .lt := by cbv

end Assay.Text.Version
