import Assay.Text.Blank

/-!
What an analyzer says it found. Two summary lines are known: a compiler ends with
`3 errors generated`, an abstract interpreter with `frama-c kernel: 0 errors 2 warnings`.
Both are read word by word, without regard to letter case, and the first one counts.
-/

namespace Assay

structure Diagnostics where
  errors : UInt32 := 0
  warnings : UInt32 := 0
  found : Bool := false
deriving DecidableEq, Repr

namespace Diagnostics

/-- A count, held at the largest one that can be stored. -/
def saturate (count : Nat) : UInt32 :=
  UInt32.ofNat (min count 4294967295)

def count? (word : List Char) : Option UInt32 :=
  if word ≠ [] ∧ word.all Char.isDigit then some (saturate (Text.digitsValue word)) else none

def finalDigits (word : List Char) : List Char :=
  (word.reverse.takeWhile Char.isDigit).reverse

def isNoun (noun word : List Char) : Bool :=
  word == noun || word == noun ++ ['s']

def generatedCount (noun : List Char) : List (List Char) → Option UInt32
  | [] => none
  | number :: rest =>
    match rest with
    | name :: verb :: _ =>
      if isNoun noun name && "generated".toList.isPrefixOf verb then
        match count? (finalDigits number) with
        | some count => some count
        | none => generatedCount noun rest
      else generatedCount noun rest
    | _ => none

def kernelCounts : List (List Char) → Option (UInt32 × UInt32)
  | tool :: kernel :: errors :: noun :: warnings :: last :: _ =>
    if "frama-c".toList.isSuffixOf tool && kernel == "kernel:".toList
        && isNoun "error".toList noun && "warning".toList.isPrefixOf last then
      match count? errors, count? warnings with
      | some errorCount, some warningCount => some (errorCount, warningCount)
      | _, _ => none
    else none
  | _ => none

def firstKernelCounts : List (List Char) → Option (UInt32 × UInt32)
  | [] => none
  | word :: rest =>
    match kernelCounts (word :: rest) with
    | some counts => some counts
    | none => firstKernelCounts rest

def lowerWords (text : String) : List (List Char) :=
  Text.words (text.toList.map Char.toLower)

/-- Reads the summary of a compiler. Errors and warnings are looked for on their own. -/
def ofCompilerText (text : String) : Diagnostics :=
  let errors := generatedCount "error".toList (lowerWords text)
  let warnings := generatedCount "warning".toList (lowerWords text)
  { errors := errors.getD 0, warnings := warnings.getD 0, found := errors.isSome || warnings.isSome }

/-- Reads the summary of an abstract interpreter. Both counts come from one line. -/
def ofKernelText (text : String) : Diagnostics :=
  match firstKernelCounts (lowerWords text) with
  | some (errors, warnings) => { errors, warnings, found := true }
  | none => {}

def reported (found : Diagnostics) : Bool :=
  0 < found.errors || 0 < found.warnings

end Diagnostics

end Assay
