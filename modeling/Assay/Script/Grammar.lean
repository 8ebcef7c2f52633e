/-!
The language of scripts: commands, words and redirections. An analyzer program may be a script in
this language.
-/

namespace Assay.Script

inductive Dialect
  | plain
  | rich
deriving DecidableEq, Repr

inductive Fallback
  | replace
  | assign
  | refuse
  | whenSet
deriving DecidableEq, Repr

structure Trim where
  atEnd : Bool
  longest : Bool
deriving DecidableEq, Repr

inductive Anchor
  | anywhere
  | everywhere
  | front
  | back
deriving DecidableEq, Repr

inductive Casing
  | upper
  | lower
  | turned
deriving DecidableEq, Repr

inductive Onward
  | stops
  | falls
  | looks
deriving DecidableEq, Repr

inductive Direction
  | read
  | write
  | overwrite
  | append
  | readWrite
  | duplicate
  | document (id : Nat)
  | line
  | writeBoth
  | appendBoth
deriving DecidableEq, Repr

mutual

inductive Part
  | text (content : List Char) (quoted : Bool)
  /-- A variable, an argument or a special parameter. An index that is not empty tells a member of
  a list. -/
  | parameter (name : String) (index : List Part) (operation : Operation) (quoted : Bool)
  | output (line : Nat) (body : Command) (quoted : Bool)
  | arithmetic (source : List Part) (quoted : Bool)
  | channelOf (body : Command) (reads : Bool)

inductive Operation
  | value
  | size
  | unknown (written : List Char)
  | fallback (kind : Fallback) (whenEmpty : Bool) (word : List Part)
  | trim (trim : Trim) (pattern : List Part)
  | slice (start : List Part) (size : Option (List Part)) (written : String)
  | substitute (anchor : Anchor) (pattern replacement : List Part)
  | recase (casing : Casing) (all : Bool) (pattern : List Part)
  | indirect (operation : Operation)
  | indices
  /-- The variables whose names begin so; the flag tells that quotes keep them apart. -/
  | names (apart : Bool)
  | transform (letter : Char)

/-- A redirection, with its target as it was written. A variable may keep the number of the channel, which is then
chosen freely. -/
inductive Redirect
  | mk (channel : Nat) (direction : Direction) (target : List Part) (written holder : String)

inductive Assignment
  | single (name : String) (index : List Part) (adds : Bool) (value : List Part)
  | several (name : String) (adds : Bool) (shown : String) (values : List Assignment)

inductive Condition
  | unary (operator : String) (operand : List Part) (written : String)
  | binary (operator : String) (left right : List Part) (written other : String)
  | negation (inner : Condition)
  | enclosed (inner : Condition)
  | both (first second : Condition)
  | either (first second : Condition)

/-- The patterns of a choice, which are shown as they were written, and what is done when one of them fits. -/
inductive Arm
  | mk (patterns : List (List Part)) (shown : String) (body : Command) (onward : Onward)

inductive Command
  | empty
  /-- Assignments, words and redirections; the first two are shown as they were written. -/
  | simple (line : Nat) (assignments : List Assignment) (words : List (List Part))
      (redirects : List Redirect) (shown : String)
  | sequence (first second : Command)
  | both (first second : Command)
  | either (first second : Command)
  | negated (body : Command)
  | pipeline (line : Nat) (stages : List Command)
  | background (line : Nat) (body : Command)
  | partner (line : Nat) (name : String) (body : Command)
  | subshell (line : Nat) (body : Command) (redirects : List Redirect)
  | redirected (line : Nat) (body : Command) (redirects : List Redirect)
  | group (body : Command)
  | branch (test yes no : Command)
  | loop (whileSucceeding : Bool) (test body : Command)
  | each (line : Nat) (name shown : String) (words : List (List Part)) (body : Command)
  | menu (line : Nat) (name shown : String) (words : List (List Part)) (body : Command)
  | choice (line : Nat) (shown : String) (word : List Part) (arms : List Arm)
  | define (line : Nat) (name : String) (body : Command)
  | conditional (line : Nat) (condition : Condition)
  | sum (line : Nat) (source : List Part) (shown : String)
  | counting (line : Nat) (start test step : List Part) (shown : String) (body : Command)
  | timed (body : Command)

end

abbrev Word := List Part

instance : Inhabited Command := ⟨.empty⟩
instance : Inhabited Part := ⟨.text [] false⟩

namespace Redirect

def channel : Redirect → Nat
  | mk channel .. => channel

def direction : Redirect → Direction
  | mk _ direction .. => direction

def target : Redirect → Word
  | mk _ _ target .. => target

def written : Redirect → String
  | mk _ _ _ written _ => written

def holder : Redirect → String
  | mk _ _ _ _ holder => holder

end Redirect

namespace Part

def plain? : List Part → Option String
  | [.text content false] => some (String.ofList content)
  | _ => none

def wholeList? : List Part → Option Bool
  | [.text ['@'] _] => some true
  | [.text ['*'] _] => some false
  | _ => none

def addText (content : List Char) (quoted : Bool) : List Part → List Part
  | .text following same :: rest =>
    if same = quoted then .text (content ++ following) quoted :: rest
    else .text content quoted :: .text following same :: rest
  | parts => .text content quoted :: parts

end Part

end Assay.Script
