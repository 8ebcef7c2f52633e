import Assay.Files.Tree
import Assay.Text.Citation
import Assay.Text.Numeral
import Assay.Text.Octets
import Assay.Utility.Escape

/-!
The conditions of `test` and of square brackets.
-/

namespace Assay.Utility.Test

structure View where
  tree : FileTree
  folder : Location
  isSet : String → Bool := fun _ => false
  isOn : String → Bool := fun _ => false
  ends : List (Nat × Entry) := []

def View.target? (view : View) (text : String) : Option (Location × Entry) :=
  match view.tree.target? view.folder ⟨Octets.toText text⟩ with
  | some (location, .device (.channel number)) =>
    (view.ends.lookup number).map fun entry => (location, entry)
  | found => found

def unaryOperators : List String :=
  ["-r", "-w", "-x", "-e", "-f", "-d", "-c", "-b", "-p", "-u", "-g", "-k", "-s", "-t", "-z", "-n", "-h",
   "-O", "-G", "-L", "-S"]

def binaryOperators : List String :=
  ["=", "!=", "<", ">", "-eq", "-ne", "-gt", "-ge", "-lt", "-le", "-nt", "-ot", "-ef", "=="]

def isUnary (manner : Manner) (word : String) : Bool :=
  unaryOperators.contains word || (manner ≠ .plain && ["-a", "-o", "-v", "-N"].contains word)

def isBinary (manner : Manner) (word : String) : Bool :=
  binaryOperators.contains word && (word ≠ "==" || manner ≠ .plain)

inductive Fault
  | illegalNumber (text : String)
  | argumentExpected (operator : String)
  | unexpectedOperator (word : String)
  | closingBracket
  | unaryExpected (word : String)
  | binaryExpected (word : String)
  | tooMany
  | extra (word : String)
deriving DecidableEq

def unary (view : View) (operator operand : String) : Bool :=
  let path : Path := ⟨Octets.toText operand⟩
  let found := view.target? operand
  let entry := found.map Prod.snd
  let traits := found.map fun item => view.tree.traitsOf item.1 item.2
  let hasBit := fun bit : Nat => traits.any fun known => Mode.has known.mode bit
  let linked : Bool :=
    match view.tree.locate view.folder false path with
    | .ok (.present _ (.link _)) => true
    | _ => false
  match operator with
  | "-n" => operand ≠ ""
  | "-z" => operand = ""
  | "-e" | "-a" | "-r" | "-w" | "-O" | "-G" => entry.isSome
  | "-N" => traits.any fun known => known.accessed < known.modified
  | "-u" => hasBit Mode.asOwner
  | "-g" => hasBit Mode.asGroup
  | "-k" => hasBit Mode.sticky
  | "-p" =>
    match entry with
    | some (.device (.pipe _)) => true
    | _ => false
  | "-f" =>
    match entry with
    | some (.file ..) => true
    | _ => false
  | "-d" =>
    match entry with
    | some .folder => true
    | _ => false
  | "-c" =>
    match entry with
    | some (.device (.pipe _)) => false
    | some (.device _) => true
    | _ => false
  | "-h" | "-L" => linked
  | "-v" => view.isSet operand
  | "-o" => view.isOn operand
  | "-s" =>
    match entry with
    | some (.file _ content _) => !content.isEmpty
    | some .folder => true
    | _ => false
  | "-x" =>
    match entry with
    | some .folder => true
    | _ => hasBit Mode.running
  | _ => false

def number (text : String) : Except Fault Int :=
  let scanned := Text.scanInteger true text.toList
  if scanned.found && scanned.rest.all Text.isSpaceByte && scanned.value ≤ Text.greatestInteger
      && Text.leastInteger ≤ scanned.value then .ok scanned.value
  else .error (.illegalNumber text)

def comparison? (operator : String) : Option (Int → Int → Bool) :=
  match operator with
  | "-eq" => some fun left right => left = right
  | "-ne" => some fun left right => left ≠ right
  | "-lt" => some fun left right => left < right
  | "-le" => some fun left right => left ≤ right
  | "-gt" => some fun left right => left > right
  | "-ge" => some fun left right => left ≥ right
  | _ => none

def identity? (view : View) (text : String) : Option (Location × Option Nat) :=
  (view.target? text).map fun (location, entry) =>
    match entry with
    | .file serial _ _ => ([], some serial)
    | _ => (location, none)

def modified? (view : View) (text : String) : Option Int :=
  (view.target? text).map fun (location, entry) => (view.tree.traitsOf location entry).modified

/-- The first one is there and was modified later than the second one, or that one is not there. -/
def isNewer (first second : Option Int) : Bool :=
  match first, second with
  | some time, some other => other < time
  | some _, none => true
  | none, _ => false

def binary (view : View) (operator left right : String) : Except Fault Bool :=
  match operator, comparison? operator with
  | "=", _ | "==", _ => .ok (left = right)
  | "!=", _ => .ok (left ≠ right)
  | "<", _ => .ok (left < right)
  | ">", _ => .ok (right < left)
  | "-ef", _ => .ok ((identity? view left).isSome && identity? view left = identity? view right)
  | "-nt", _ => .ok (isNewer (modified? view left) (modified? view right))
  | "-ot", _ => .ok (isNewer (modified? view right) (modified? view left))
  | _, some holds => do return holds (← number left) (← number right)
  | _, none => .error (.unexpectedOperator operator)

inductive Role
  | operand
  | unary
  | binary
  | negation
  | both
  | either
  | opening
  | closing
  | nothing
deriving DecidableEq

def roleOf (words : List String) : Role :=
  match words with
  | [] => .nothing
  | word :: rest =>
    if isUnary .plain word then
      match rest with
      | [] => .operand
      | next :: _ :: _ => if isBinary .plain next then .operand else .unary
      | [_] => .unary
    else if isBinary .plain word then .binary
    else if word = "!" then .negation
    else if word = "-a" then .both
    else if word = "-o" then .either
    else if word = "(" then if rest = [] then .operand else .opening
    else if word = ")" then .closing
    else .operand

inductive Goal
  | either
  | both
  | negation
  | primary
deriving DecidableEq

/-- Reads a goal from the words on, whose first one has a role. The words that it ends at are given
back, the last one that it took in front. -/
def plainValue (view : View) : Nat → Goal → Role → List String → Except Fault (Bool × List String)
  | 0, _, _, words => .ok (false, words)
  | fuel + 1, goal, role, words =>
    match goal with
    | .either => do
      let (first, after) ← plainValue view fuel .both role words
      if roleOf (after.drop 1) = .either then
        let (others, final) ← plainValue view fuel .either (roleOf (after.drop 2)) (after.drop 2)
        return (first || others, final)
      else return (first, after)
    | .both => do
      let (first, after) ← plainValue view fuel .negation role words
      if roleOf (after.drop 1) = .both then
        let (others, final) ← plainValue view fuel .both (roleOf (after.drop 2)) (after.drop 2)
        return (first && others, final)
      else return (first, after)
    | .negation =>
      if role = .negation then do
        let next := roleOf (words.drop 1)
        let (value, after) ←
          plainValue view fuel .negation next (if next = .nothing then words else words.drop 1)
        return (!value, after)
      else plainValue view fuel .primary role words
    | .primary =>
      match role, words with
      | .nothing, _ => .ok (false, words)
      | .opening, _ =>
        let inside := words.drop 1
        if roleOf inside = .closing then .ok (false, inside)
        else do
          let (value, after) ← plainValue view fuel .either (roleOf inside) inside
          if roleOf (after.drop 1) = .closing then return (value, after.drop 1)
          else throw .closingBracket
      | .unary, operator :: operand :: rest => .ok (unary view operator operand, operand :: rest)
      | .unary, [operator] => .error (.argumentExpected operator)
      | _, left :: operator :: rest =>
        if roleOf (operator :: rest) = .binary then
          match rest with
          | right :: _ => do return (← binary view operator left right, rest)
          | [] => .error (.argumentExpected operator)
        else .ok (left ≠ "", words)
      | _, [only] => .ok (only ≠ "", [only])
      | _, [] => .ok (false, [])

def plainWhole (view : View) (role : Role) (words : List String) : Except Fault Bool := do
  let (value, left) ← plainValue view (4 * words.length + 8) .either role words
  match left with
  | word :: _ :: _ => throw (.unexpectedOperator word)
  | _ => return value

def plainHolds (view : View) : List String → Except Fault Bool
  | [] => .ok false
  | first :: rest =>
    let words := first :: rest
    let usual := plainWhole view (roleOf words) words
    let bracketed : Except Fault Bool :=
      if first = "(" && rest.getLast? = some ")" then plainWhole view (roleOf rest.dropLast) rest.dropLast
      else if first = "!" then (plainHolds view rest).map not
      else usual
    match rest with
    | [operator, _] => if isBinary .plain operator then plainWhole view .operand words else bracketed
    | [_, _, _] => bracketed
    | _ => usual

def richValue (view : View) : Nat → Goal → List String → Except Fault (Bool × List String)
  | 0, _, words => .ok (false, words)
  | fuel + 1, goal, words =>
    match goal, words with
    | .either, _ => do
      let (first, after) ← richValue view fuel .both words
      match after with
      | "-o" :: rest =>
        let (others, final) ← richValue view fuel .either rest
        return (first || others, final)
      | _ => return (first, after)
    | .both, _ => do
      let (first, after) ← richValue view fuel .negation words
      match after with
      | "-a" :: rest =>
        let (others, final) ← richValue view fuel .both rest
        return (first && others, final)
      | _ => return (first, after)
    | .negation, "!" :: rest => do
      let (value, after) ← richValue view fuel .negation rest
      return (!value, after)
    | .negation, _ => richValue view fuel .primary words
    | .primary, [] => .error (.argumentExpected "")
    | .primary, "(" :: rest => do
      let (value, after) ← richValue view fuel .either rest
      match after with
      | ")" :: final => return (value, final)
      | _ => throw .closingBracket
    | .primary, first :: rest =>
      match rest with
      | operator :: right :: after =>
        if isBinary .rich operator then do return (← binary view operator first right, after)
        else if isUnary .rich first then .ok (unary view first operator, right :: after)
        else .ok (first ≠ "", rest)
      | [operand] =>
        if isUnary .rich first then .ok (unary view first operand, []) else .ok (first ≠ "", rest)
      | [] => .ok (first ≠ "", [])

def richWhole (view : View) (words : List String) : Except Fault Bool := do
  match ← richValue view (4 * words.length + 8) .either words with
  | (value, []) => return value
  | (_, word :: _) => throw (.extra word)

def richHolds (view : View) : List String → Except Fault Bool
  | [] => .ok false
  | [only] => .ok (only ≠ "")
  | [operator, operand] =>
    if operator = "!" then .ok (operand = "")
    else if isUnary .rich operator then .ok (unary view operator operand)
    else .error (.unaryExpected operator)
  | [left, operator, right] =>
    if isBinary .rich operator then binary view operator left right
    else if operator = "-a" then .ok (left ≠ "" && right ≠ "")
    else if operator = "-o" then .ok (left ≠ "" || right ≠ "")
    else if left = "!" then (richHolds view [operator, right]).map not
    else if left = "(" && right = ")" then .ok (operator ≠ "")
    else .error (.binaryExpected operator)
  | [first, second, third, fourth] =>
    if first = "!" then (richHolds view [second, third, fourth]).map not
    else if first = "(" && fourth = ")" then richHolds view [second, third]
    else richWhole view [first, second, third, fourth]
  | words => richWhole view words

def holds (manner : Manner) (view : View) (words : List String) : Except Fault Bool :=
  if manner = .plain then plainHolds view words else richHolds view words

def Fault.message (manner : Manner) : Fault → String
  | illegalNumber text =>
    match manner with
    | .plain => "Illegal number: " ++ text
    | .rich => text ++ ": integer expression expected"
    | .program => "invalid integer " ++ Text.Citation.marked text
  | argumentExpected operator =>
    match manner with
    | .plain => (if operator = "" then "" else operator ++ ": ") ++ "argument expected"
    | .rich => "argument expected"
    | .program => "missing argument after " ++ Text.Citation.marked operator
  | unexpectedOperator word =>
    (if word = "" then "" else word ++ ": ") ++ "unexpected operator"
  | closingBracket =>
    match manner with
    | .plain => "closing paren expected"
    | .rich => "\x60)' expected"
    | .program => Text.Citation.marked ")" ++ " expected"
  | unaryExpected word =>
    if manner = .program then Text.Citation.marked word ++ ": unary operator expected"
    else word ++ ": unary operator expected"
  | binaryExpected word =>
    if manner = .program then Text.Citation.marked word ++ ": binary operator expected"
    else word ++ ": binary operator expected"
  | tooMany => "too many arguments"
  | extra word => if manner = .program then "extra argument " ++ Text.Citation.marked word else "too many arguments"

def bracketMissing (manner : Manner) : String :=
  match manner with
  | .plain => "missing ]"
  | .rich => "missing \x60]'"
  | .program => "missing ']'"

def conditionOf (name : String) (arguments : List String) : Option (List String) :=
  if name = "[" then
    if arguments.getLast? = some "]" then some arguments.dropLast else none
  else some arguments

def result (manner : Manner) (view : View) (name : String) (arguments : List String) :
    Nat × Option String :=
  match conditionOf name arguments with
  | none => (2, some (bracketMissing manner))
  | some words =>
    match holds manner view words with
    | .ok true => (0, none)
    | .ok false => (1, none)
    | .error fault => (2, some (fault.message manner))

end Assay.Utility.Test
