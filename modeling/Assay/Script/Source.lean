import Assay.Script.Grammar

/-!
The text of a script while it is read: what is left of it, the line, and the documents that begin
on this line and stand on the next ones.
-/

namespace Assay.Script

inductive Token
  | word (parts : Word)
  | keyword (text : String)
  | operator (text : String)
  | redirect (channel : Nat) (direction : Direction) (holder : String)
  | newLine
  | endOfText

instance : Inhabited Token := ⟨.endOfText⟩

inductive Misreading
  | unexpected (found : Token) (expected : Option Token)
  | openQuote (mark : Char)
  | openBrace
  | openSum
  | openBackquote
  | openBracket
  | badLoopVariable
  | badFunctionName
  | badChannel
  | badSum (text : String)
  | badCondition (reason : Option String)

structure Complaint where
  line : Nat
  misreading : Misreading
  placed : Bool := false
  left : Nat := 0

structure Waiting where
  id : Nat
  line : Nat
  mark : List Char
  indented : Bool
  expands : Bool

structure Document where
  content : Word := []
  written : String := ""

structure Source where
  text : List Char
  line : Nat := 1
  dialect : Dialect := .plain
  pushed : Bool := false
  last : Token := .newLine
  aliases : List (String × String) := []
  working : List (String × Nat) := []
  extended : Bool := false
  wide : Bool := false
  grouped : Bool := false
  waiting : List Waiting := []
  within : Option Waiting := none
  documents : List (Nat × Document) := []
  nextDocument : Nat := 0
  opening : List Char := []
  warnings : List (Nat × String) := []

abbrev Reading (α : Type) := StateT Source (Except Complaint) α

namespace Reading

def fail {α : Type} (misreading : Misreading) : Reading α := do
  let source ← get
  throw { line := source.line, misreading, left := source.text.length }

def placing {α : Type} (part : Reading α) : Reading α := fun source =>
  match part source with
  | .ok result => .ok result
  | .error complaint =>
    let opened : Bool := match complaint.misreading with
      | .openQuote _ | .openBrace | .openSum | .openBackquote => true
      | _ => false
    if source.dialect = .rich ∧ opened ∧ ¬complaint.placed then
      .error { complaint with line := source.line, placed := true }
    else .error complaint

def peek : Reading (Option Char) := do return (← get).text.head?

def next : Reading (Option Char) := do
  let source ← get
  match source.text with
  | [] => return none
  | c :: rest =>
    set { source with text := rest, line := if c = '\n' then source.line + 1 else source.line }
    return some c

def written : Reading String := do
  let source ← get
  if source.dialect = .plain then return ""
  else
    return (String.ofList (source.opening.take (source.opening.length - source.text.length))).replace "\\\n" ""

def joinLines : List Char → Nat → List Char × Nat
  | '\\' :: '\n' :: rest, line => joinLines rest (line + 1)
  | text, line => (text, line)

def joined : Reading Unit := do
  let source ← get
  match source.text with
  | '\\' :: '\n' :: _ =>
    let (text, line) := joinLines source.text source.line
    set { source with text, line }
  | _ => return

def nextJoined : Reading (Option Char) := do
  joined
  next

def peekJoined : Reading (Option Char) := do
  joined
  peek

def accept (c : Char) : Reading Bool := do
  joined
  match (← get).text with
  | d :: _ =>
    if c = d then
      let _ ← next
      return true
    else return false
  | [] => return false

def run (fits : Char → Bool) : Nat → List Char → Reading (List Char)
  | 0, taken => return taken.reverse
  | size + 1, taken => do
    match ← peekJoined with
    | some c =>
      if fits c then
        let _ ← next
        run fits size (c :: taken)
      else return taken.reverse
    | none => return taken.reverse

def limit : Nat := 1000000000

def takeWhile (fits : Char → Bool) : Reading (List Char) := run fits limit []

def untilChar (closing : Char) : Nat → List Char → Reading (Option (List Char))
  | 0, _ => return none
  | size + 1, taken => do
    match ← next with
    | none => return none
    | some c => if c = closing then return some taken.reverse else untilChar closing size (c :: taken)

end Reading

def isNameStart (c : Char) : Bool := c.isAlpha || c = '_'

def isNameChar (c : Char) : Bool := c.isAlphanum || c = '_'

def isName (text : List Char) : Bool :=
  match text with
  | first :: _ => isNameStart first && text.all isNameChar
  | [] => false

def isSpecial (c : Char) : Bool := c.isDigit || "@*#?$!-".toList.contains c

end Assay.Script
