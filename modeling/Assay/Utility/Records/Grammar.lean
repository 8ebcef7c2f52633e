import Assay.Utility.Records.Pattern

/-!
Programs that work on records: rules, each with a pattern that records fit and with statements to be carried out.
-/

namespace Assay.Utility.Records

inductive Arithmetic
  | add
  | subtract
  | multiply
  | divide
  | remainder
  | power
deriving DecidableEq

inductive Relation
  | less
  | atMost
  | equal
  | unequal
  | more
  | atLeast
deriving DecidableEq

mutual

inductive Place
  | named (name : String)
  | field (index : Expression)
  | item (array : String) (indices : List Expression)

inductive Expression
  | number (x : Float)
  | text (content : String)
  | pattern (pattern : Pattern)
  | value (place : Place)
  | assign (place : Place) (value : Expression)
  | update (operation : Arithmetic) (place : Place) (value : Expression)
  /-- A place goes up or down by one; `before` tells whether the value is taken before that. -/
  | step (up before : Bool) (place : Place)
  | negative (operand : Expression)
  | positive (operand : Expression)
  | negation (operand : Expression)
  | arithmetic (operation : Arithmetic) (left right : Expression)
  | compare (relation : Relation) (left right : Expression)
  | fits (wanted : Bool) (subject pattern : Expression)
  | both (left right : Expression)
  | either (left right : Expression)
  | choice (condition first second : Expression)
  | joined (left right : Expression)
  | member (indices : List Expression) (array : String)
  | call (function : String) (arguments : List Expression)
  | own (function : String) (arguments : List Expression)
  | read (origin : Origin) (target : Option Place)
  | group (members : List Expression)

inductive Origin
  | input
  | file (name : Expression)
  | command (line : Expression)

end

inductive Direction
  | replace
  | append
  | pipe
deriving DecidableEq

inductive Statement
  | block (statements : List Statement)
  | evaluate (expression : Expression)
  | print (values : List Expression) (target : Option (Direction × Expression))
  | printf (values : List Expression) (target : Option (Direction × Expression))
  | choose (condition : Expression) (first : Statement) (second : Option Statement)
  | repeatWhile (condition : Expression) (body : Statement)
  | doWhile (body : Statement) (condition : Expression)
  | loop (start : Option Statement) (condition : Option Expression) (step : Option Statement) (body : Statement)
  | forEach (name array : String) (body : Statement)
  | next
  | nextFile
  | exit (status : Option Expression)
  | giveBack (value : Option Expression)
  | leave
  | again
  | delete (array : String) (indices : Option (List Expression))

inductive Trigger
  | atStart
  | atEnd
  | always
  | when (condition : Expression)
  | between (first last : Expression)

structure Rule where
  trigger : Trigger
  action : Option Statement

structure Function where
  parameters : List String
  body : Statement

structure Source where
  rules : List Rule := []
  functions : List (String × Function) := []

end Assay.Utility.Records
