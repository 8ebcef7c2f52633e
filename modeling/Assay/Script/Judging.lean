import Assay.Script.Expansion
import Assay.Text.Regex
import Assay.Utility.Test

/-!
Conditions between double brackets.
-/

namespace Assay.Script.Judging

section

variable (commands : Expansion.Commands)

def isSign (c : Char) : Bool := ".[\\*^$(+?\x7b|)\x7d]".toList.contains c

/-- A pattern as it is written: quoted characters that need it have a backslash before them. -/
def shownPattern (needs : Char → Bool) (glyphs : List Glyph) : String :=
  String.ofList (glyphs.flatMap fun (c, quoted) => if quoted && needs c then ['\\', c] else [c])

def matched (expression : List Char) (caseless : Bool) (text : String) : Work Bool := do
  let shell ← get
  let style : Text.Regex.Style := { extended := true, ignoresCase := caseless, strict := true, wide := shell.isWide }
  let chars := shell.reads text.toList
  match Text.Regex.read style (shell.reads expression) with
  | .error _ =>
    Work.setStatus 2
    throw .fails
  | .ok (regex, _) =>
    let subject : Text.Regex.Subject := { chars := chars.toArray, style }
    let note := fun parts : List String => modify fun shell : Shell =>
      shell.setBinding { name := "BASH_REMATCH", value := .list ((List.range parts.length).zip parts) }
    match Text.Regex.find? subject regex 0 with
    | none =>
      note []
      return false
    | some found =>
      let groups := (Text.Regex.withGroups subject regex found).groups
      let part := fun start stop : Nat => String.ofList (shell.writes ((chars.take stop).drop start))
      let inner := (List.range regex.groupCount).map fun index =>
        match groups.lookup (index + 1) with
        | some (start, stop) => part start stop
        | none => ""
      note (part found.start found.stop :: inner)
      return true

def compared (operator : String) (left right : Word) (trace : String → String → Work Unit) : Work Bool := do
  let text ← Expansion.text commands left
  let caseless := (← get).options.contains "nocasematch"
  let fits : Work Bool := do
    let glyphs ← Expansion.pattern commands right
    trace text (shownPattern (fun _ => true) glyphs)
    let shell ← get
    let items := Pattern.ofGlyphs { grouped := true, caseless, wide := shell.isWide } (shell.readsPattern glyphs)
    return Pattern.fitsAll items (shell.reads text.toList)
  match operator with
  | "=" | "==" => fits
  | "!=" => do return !(← fits)
  | "=~" =>
    let expression := shownPattern isSign (← Expansion.pattern commands right)
    trace text expression
    matched expression.toList caseless text
  | _ =>
    let other ← Expansion.text commands right
    trace text other
    match operator, Utility.Test.comparison? operator with
    | _, some holds => do
      let first ← Expansion.reckon text.toList
      let second ← Expansion.reckon other.toList
      return holds first.toInt second.toInt
    | _, none =>
      let view : Utility.Test.View := { tree := ← Work.ask .tree, folder := ← Work.ask .folder, ends := ← Work.ask .ends }
      match Utility.Test.binary view operator text other with
      | .ok value => return value
      | .error _ => return false

def tested (operator : String) (operand : Word) (trace : String → Work Unit) : Work Bool := do
  let text ← Expansion.text commands operand
  trace text
  if operator = "-v" then
    let plainName := String.ofList (text.toList.takeWhile (· ≠ '['))
    let index := String.ofList ((text.toList.dropWhile (· ≠ '[')).drop 1).dropLast
    match (← get).binding? plainName with
    | none => return false
    | some binding =>
      if plainName = text then return binding.value.text?.isSome
      else return ((binding.value.members).lookup index).isSome
  else
    if operator = "-R" then
      return (((← get).ownBinding? text).map Binding.refers).getD false
    else
      let view : Utility.Test.View :=
        { tree := ← Work.ask .tree, folder := ← Work.ask .folder, ends := ← Work.ask .ends, isOn := isOnNamed (← get) }
      return Utility.Test.unary view operator text

/-- Whether a condition holds. Its tests are traced as they are made; a sign tells that the outcome is turned
around. -/
def holds (trace : String → Work Unit) (turned : Bool) : Condition → Work Bool
  | .unary operator operand _ =>
    let asked := if operator = "" then "-n" else operator
    tested commands asked operand fun text => shown (asked ++ " " ++ orQuotes text)
  | .enclosed inner => holds trace turned inner
  | .binary operator left right _ _ =>
    compared commands operator left right fun text other =>
      shown (orQuotes text ++ " " ++ operator ++ " " ++ orQuotes other)
  | .negation inner => do return !(← holds trace (!turned) inner)
  | .both first second => do
    if ← holds trace false first then holds trace false second else return false
  | .either first second => do
    if ← holds trace false first then return true else holds trace false second
where
  orQuotes (text : String) : String := if text = "" then "''" else text
  shown (text : String) : Work Unit := trace ("[[ " ++ (if turned then "! " else "") ++ text ++ " ]]")

def judge (trace : String → Work Unit) (condition : Condition) : Work Unit := do
  Work.setStatus (if ← holds commands trace false condition then 0 else 1)

end

end Assay.Script.Judging
