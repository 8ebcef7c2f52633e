import Assay.Script.Expansion
import Assay.Script.Parser

/-!
Carrying out assignments.
-/

namespace Assay.Script.Assigning

section

variable (commands : Expansion.Commands)

def placesOf : Value → List (Nat × String)
  | .list members => members
  | .single text => [(0, text)]
  | _ => []

def indexOf (index : Word) : Work Int64 := do
  let text ← Expansion.text commands index
  Work.abandoning (Expansion.reckon text.toList)

def assignMember (name : String) (index : Word) (adds : Bool) (text : String) : Work Unit := do
  let shell ← get
  let old := (shell.binding? name).getD { name := shell.target name }
  if old.fixed then Work.refuse (name ++ ": readonly variable") 1
  match old.value with
  | .table members =>
    let key ← Expansion.text commands index
    let grown := old.cased (if adds then (members.lookup key).getD "" ++ text else text)
    let after : Value :=
      if (members.lookup key).isSome then
        .table (members.map fun member => if member.1 = key then (key, grown) else member)
      else .table (members ++ [(key, grown)])
    modify fun shell => shell.setBinding { old with value := after }
  | value =>
    let members := placesOf value
    let number ← indexOf commands index
    let size := members.foldl (fun most member => max most (member.1 + 1)) 0
    let place := if number < 0 then size - number.toInt.natAbs else number.toInt.toNat
    let before := (members.lookup place).getD ""
    let grown ← if old.whole then do
        let added := if adds ∧ before ≠ "" then before ++ "+(" ++ text ++ ")" else text
        pure (toString (← Work.abandoning (Expansion.reckon added.toList)).toInt)
      else pure (old.cased (if adds then before ++ text else text))
    modify fun shell =>
      shell.setBinding { old with value := .list ((place, grown) :: members.filter (·.1 ≠ place)) }

/-- What a member of a list of values comes to: its index and whether it adds to what is there, and the texts. -/
structure Listed where
  index : Word := []
  adds : Bool := false
  texts : List String

def expandListed (values : List Assignment) : Work (List Listed) :=
  values.mapM fun value => do
    match value with
    | .single _ [] _ word => return { texts := ← Expansion.allFields commands [word] }
    | .single _ index adds word => return { index, adds, texts := [← Expansion.assignedText commands word] }
    | .several .. => return { texts := [] }

/-- Gives a list its members: those with an index, and the others one after the other. In a table, texts
without an index are keys and values in turn. -/
def listed (name : String) : List Listed → Nat → Work Unit
  | [], _ => return
  | { index := [], texts, .. } :: rest, place => do
    if ← isTable then
      let all := texts ++ rest.flatMap Listed.texts
      for key in (List.range ((all.length + 1) / 2)).map (2 * ·) do
        assignMember commands name [.text (all.getD key "").toList true] false (all.getD (key + 1) "")
    else
      for (offset, text) in (List.range texts.length).zip texts do
        assignMember commands name [.text (toString (place + offset)).toList true] false text
      listed name rest (place + texts.length)
  | { index, adds, texts } :: rest, place => do
    assignMember commands name index adds (texts.headD "")
    if ← isTable then listed name rest place
    else
      let number ← indexOf commands index
      listed name rest (number.toInt.toNat + 1)
where
  isTable : Work Bool := do
    match ((← get).binding? name).map Binding.value with
    | some (.table _) => return true
    | _ => return false

def carryOut (assignment : Assignment) : Work String := do
  match assignment with
  | .single name index adds value =>
    let text ← Expansion.assignedText commands value
    if index ≠ [] then
      assignMember commands name index adds text
      return name ++ "=" ++ text
    else
      let before := (← Work.value? name).getD ""
      let whole := (((← get).binding? name).map Binding.whole).getD false
      let given ← if whole then do
          let added := if adds ∧ before ≠ "" then before ++ "+(" ++ text ++ ")" else text
          pure (toString (← Work.abandoning (Expansion.reckon added.toList)).toInt)
        else pure (if adds then before ++ text else text)
      Work.assign name given
      let shell ← get
      return if shell.isRich then name ++ (if adds then "+=" else "=") ++ Quoting.tracedValue shell.isWide text
        else name ++ "=" ++ given
  | .several name adds shown values =>
    let shell ← get
    let old := (shell.binding? name).getD { name := shell.target name }
    if old.fixed then Work.refuse (name ++ ": readonly variable") 1
    let start : Value := match old.value, adds with
      | value, true => match value with
        | .missing => .list []
        | .single text => .list [(0, text)]
        | other => other
      | .table _, false => .table []
      | _, false => .list []
    let members ← expandListed commands values
    modify fun after => after.setBinding { old with value := start }
    let place := (placesOf start).foldl (fun most member => max most (member.1 + 1)) 0
    listed commands name members place
    return name ++ (if adds then "+=(" else "=(") ++ shown ++ ")"

end

def nameOf : Assignment → String
  | .single name _ _ _ => name
  | .several name _ _ _ => name

end Assay.Script.Assigning
