import Assay.Json.Token

/-!
What a JSON text holds, as far as it could be read. A text that breaks off or goes wrong still has
an outline up to that place, so that a reader meets the problems of a text in the order in which
they stand in it.
-/

namespace Assay.Json

inductive Outline
  | null
  | bool (value : Bool)
  | number (numeral : Numeral)
  | text (content : Option String)
  | list (items : List Outline) (closed : Bool)
  | object (fields : List (Outline × Outline)) (closed : Bool)
  | broken
deriving Inhabited

namespace Outline

structure Run (α : Type) where
  found : List α
  closed : Bool
  rest : List Token

mutual

def value : Nat → List Token → Outline × List Token
  | 0, _ => (.broken, [])
  | fuel + 1, tokens =>
    match tokens with
    | .null :: rest => (.null, rest)
    | .bool value :: rest => (.bool value, rest)
    | .number numeral :: rest => (.number numeral, rest)
    | .text content :: rest => (.text content, rest)
    | .openList :: .closeList :: rest => (.list [] true, rest)
    | .openList :: rest =>
      let run := items fuel rest
      (.list run.found run.closed, run.rest)
    | .openObject :: .closeObject :: rest => (.object [] true, rest)
    | .openObject :: rest =>
      let run := fields fuel rest
      (.object run.found run.closed, run.rest)
    | _ => (.broken, [])

def items : Nat → List Token → Run Outline
  | 0, _ => ⟨[], false, []⟩
  | fuel + 1, tokens =>
    let (item, after) := value fuel tokens
    match after with
    | .comma :: rest =>
      let run := items fuel rest
      { run with found := item :: run.found }
    | .closeList :: rest => ⟨[item], true, rest⟩
    | _ => ⟨[item], false, []⟩

def fields : Nat → List Token → Run (Outline × Outline)
  | 0, _ => ⟨[], false, []⟩
  | fuel + 1, tokens =>
    let (name, afterName) := value fuel tokens
    match afterName with
    | .colon :: valueTokens =>
      let (content, after) := value fuel valueTokens
      match after with
      | .comma :: rest =>
        let run := fields fuel rest
        { run with found := (name, content) :: run.found }
      | .closeObject :: rest => ⟨[(name, content)], true, rest⟩
      | _ => ⟨[(name, content)], false, []⟩
    | _ => ⟨[(name, .broken)], false, []⟩

end

def ofText (text : List Char) : Outline × Bool :=
  let all := tokens text
  let (outline, rest) := value (all.length + 1) all
  (outline, rest.isEmpty)

mutual

def complete : Outline → Bool
  | .list items closed => closed && completeItems items
  | .object fields closed => closed && completeFields fields
  | .broken => false
  | _ => true

def completeItems : List Outline → Bool
  | [] => true
  | item :: rest => complete item && completeItems rest

def completeFields : List (Outline × Outline) → Bool
  | [] => true
  | (name, content) :: rest => isName name && complete content && completeFields rest

def isName : Outline → Bool
  | .text _ => true
  | _ => false

end

/-- The number of containers that may be open at once. -/
def depthLimit : Nat := 127

mutual

/-- It can be kept as a value: complete, no container too deep, every number in range and every
string whole. The first argument counts the containers around it. -/
def storable (depth : Nat) : Outline → Bool
  | .null => true
  | .bool _ => true
  | .number numeral => numeral.number?.isSome
  | .text content => content.isSome
  | .list items closed => depth < depthLimit && storableItems (depth + 1) items && closed
  | .object fields closed => depth < depthLimit && storableFields (depth + 1) fields && closed
  | .broken => false

def storableItems (depth : Nat) : List Outline → Bool
  | [] => true
  | item :: rest => storable depth item && storableItems depth rest

def storableFields (depth : Nat) : List (Outline × Outline) → Bool
  | [] => true
  | (name, content) :: rest =>
    isName name && storable depth name && storable depth content && storableFields depth rest

end

end Outline

end Assay.Json
