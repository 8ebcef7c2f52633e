import Assay.Json.Reader

/-!
The analyzers that are compared, by the role each one plays.
-/

namespace Assay

inductive Kind
  | reference
  | subject
  | abstractInterpreter
deriving DecidableEq, Repr, Inhabited

namespace Kind

def all : List Kind := [reference, subject, abstractInterpreter]

theorem mem_all (kind : Kind) : kind ∈ all := by cases kind <;> simp [all]

def rank : Kind → Nat
  | reference => 0
  | subject => 1
  | abstractInterpreter => 2

instance : Ord Kind := ⟨compareOn rank⟩

instance : Std.TransOrd Kind := inferInstanceAs (Std.TransCmp (compareOn rank))

instance : Std.LawfulEqOrd Kind where
  compare_self := by intro kind; cases kind <;> rfl
  eq_of_compare := by intro left right; cases left <;> cases right <;> decide

def name : Kind → String
  | reference => "reference"
  | subject => "subject"
  | abstractInterpreter => "abstract_interpreter"

def aliases : Kind → List String
  | reference => ["reference", "clang"]
  | subject => ["subject", "smacpp"]
  | abstractInterpreter => ["abstract_interpreter", "abstract-interpreter", "frama", "frama-c"]

/-- The kind that goes by a name, without regard to the case of ASCII letters. No other letter
turns into one of an alias. -/
def named? (name : String) : Option Kind :=
  all.find? fun kind => kind.aliases.contains (String.ofList (name.toList.map Char.toLower))

def known : List (String × Kind) := all.map fun kind => (kind.name, kind)

def toJson (kind : Kind) : Json := .text kind.name

def reader : Json.Reader Kind := Json.Reader.oneOf known

def ofFieldName (name : String) : Except Json.Fault Kind := Json.Reader.choose known name

end Kind

end Assay
