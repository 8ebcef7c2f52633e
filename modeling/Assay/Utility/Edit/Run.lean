import Assay.Text.Octets
import Assay.Utility.Edit.Edition
import Assay.Utility.Edit.Command

/-!
Running scripts that edit texts. One line is worked on at a time, in a space that commands change, with another
space to keep things in.
-/

namespace Assay.Utility.Edit

open Text (Regex)

namespace Editing

def meant (pattern : Pattern) : Editing (Regex × Regex.Style) := do
  let last := (← get).lastPattern
  match pattern.orElse fun _ => last with
  | some found =>
    modify fun edition => { edition with lastPattern := some found }
    return found
  | none => utility (fail ((← read).place ++ ": no previous regular expression"))

def spelled (text : List Char) : Editing (List Char) := do
  let wide := (← read).wide
  return if wide && text.any fun c => decide (128 ≤ c.toNat) then Text.Characters.gather text else text

def octets (text : List Char) : Editing (List Char) := do
  let wide := (← read).wide
  return if wide then Text.Characters.spread text else text

def subject (style : Regex.Style) : Editing Regex.Subject := do
  return { chars := (← spelled (← get).space).toArray, style }

def fits (pattern : Pattern) : Editing Bool := do
  let (regex, style) ← meant pattern
  return (Regex.find? (← subject style) regex 0).isSome

def addressFits (address : Address) : Editing Bool := do
  let edition ← get
  match address with
  | .line number => return edition.number = number
  | .last => atLast
  | .fits pattern => fits pattern
  | .stepped first step =>
    if step = 0 then return edition.number = first
    else return first ≤ edition.number && (edition.number - first) % step = 0

def setRange (place : Nat) (state : Option RangeState) : Editing Unit :=
  modify fun edition =>
    let others := edition.ranges.filter (·.1 ≠ place)
    { edition with ranges := match state with
        | some state => (place, state) :: others
        | none => others }

def inRange (place : Nat) : Editing Bool := do
  match (← get).ranges.lookup place with
  | none | some .past => return false
  | some _ => return true

/-- The line lies in the range of the command at a place. One whose beginning is a number begins at the first line
from there on that the command meets, and only once. -/
def between (place : Nat) (first : Address) (last : RangeEnd) : Editing Bool := do
  let number := (← get).number
  let leave := setRange place (match first with
    | .line _ => some .past
    | _ => none)
  match (← get).ranges.lookup place with
  | some .past => return false
  | some (.until line) =>
    if line ≤ number then leave
    return number ≤ line
  | some (.through line) =>
    if line ≤ number then leave
    return true
  | some .untilFit =>
    match last with
    | .at address =>
      if ← addressFits address then leave
    | _ => leave
    return true
  | none =>
    let begins ← match first with
      | .line start => pure (start ≤ number : Bool)
      | _ => addressFits first
    if !begins then return false
    match last with
    | .at (.line line) =>
      if number < line then setRange place (some (.until line)) else leave
      return match first with
        | .line start => number ≤ line || number = start
        | _ => true
    | .after count =>
      if 0 < count then setRange place (some (.through (number + count))) else leave
      return true
    | .multiple factor =>
      if 0 < factor then setRange place (some (.through ((number / factor + 1) * factor))) else leave
      return true
    | .at .last =>
      if ← atLast then leave else setRange place (some .untilFit)
      return true
    | .at _ =>
      setRange place (some .untilFit)
      return true

def selected (place : Nat) (selector : Selector) : Editing Bool := do
  let inside ← match selector.first, selector.last with
    | none, _ => pure true
    | some first, none => addressFits first
    | some first, some last => between place first last
  return inside != selector.negated

def outcomeNumber : Nat := 651

def outcome (command : List Char) : Editing (List Char) := do
  let become := (← read).become
  utility do
    flush
    let environment := (← get).call.environment
    let (reader, writer) ← ask .pipe
    let before ← ask .channels
    ask (.setChannels (before.put outcomeNumber reader))
    let child ← lift (Process.fork do
      Process.ask (.setChannels (before.put 1 writer))
      let _ ← Program.becomeFirst become
        { name := "sh", arguments := ["-c", String.ofList command], environment } .notFound ["/bin/sh"]
      return 127)
    let written ← lift (Process.readAll outcomeNumber)
    ask (.setChannels ((← ask .channels).drop outcomeNumber))
    let _ ← awaitNumber child Process.manySteps
    match written with
    | .ok content => return Octets.chars content
    | .error _ => return []

def runSpace : Editing Unit := do
  let mark := (← read).mark
  let written ← outcome (← get).space
  modify fun edition =>
    { edition with space := if written.getLast? = some mark then written.dropLast else written }

def substitute (substitution : Substitution) : Editing Unit := do
  let (regex, style) ← meant substitution.pattern
  let (made, any) := replaced substitution (← subject style) regex
  if any then
    let text ← octets made
    modify fun edition => { edition with space := text, replaced := true }
    if substitution.printsBefore then putLine text (← get).complete
    if substitution.runs then runSpace
    let edition ← get
    if substitution.prints then putLine edition.space edition.complete
    match substitution.target with
    | some target => putTo target edition.space edition.complete
    | none => pure ()

def transliterate (table : List (Char × Char)) : Editing Unit := do
  let text ← spelled (← get).space
  let made ← octets (text.map fun c => (table.lookup c).getD c)
  modify fun edition => { edition with space := made }

def visible (c : Char) : List Char :=
  match c with
  | '\\' => ['\\', '\\']
  | '\x07' => ['\\', 'a']
  | '\x08' => ['\\', 'b']
  | '\x0c' => ['\\', 'f']
  | '\n' => ['\\', 'n']
  | '\r' => ['\\', 'r']
  | '\t' => ['\\', 't']
  | '\x0b' => ['\\', 'v']
  | _ =>
    if c = ' ' || Text.isGraphic c then [c]
    else
      let digits := Nat.toDigits 8 c.toNat
      '\\' :: List.replicate (3 - digits.length) '0' ++ digits

def broken (width : Nat) : List (List Char) → Nat → List Char
  | [], _ => ['$']
  | shown :: rest, column =>
    if 0 < width && width - 1 < column + shown.length then
      '\\' :: '\n' :: shown ++ broken width rest shown.length
    else shown ++ broken width rest (column + shown.length)

inductive Way
  | onward
  | to (place : Nat)
  | done
  | dropped
  | again
  | quit (status : Nat) (silent : Bool)

def perform (place : Nat) (command : Command) : Editing Way := do
  let setup ← read
  let edition ← get
  let mark := setup.mark
  let first := edition.space.takeWhile (· ≠ mark)
  let jump := fun goal : String =>
    if goal = "" then Way.done else Way.to ((setup.script.place? goal).getD 0)
  match command.action with
  | .block _ | .close | .label _ | .nothing => return .onward
  | .substitute substitution =>
    substitute substitution
    return .onward
  | .transliterate table =>
    transliterate table
    return .onward
  | .delete => return .dropped
  | .deleteFirst =>
    if edition.space.contains mark then
      set { edition with space := edition.space.drop (first.length + 1) }
      return .again
    else return .dropped
  | .print =>
    putLine edition.space edition.complete
    return .onward
  | .printFirst =>
    putLine first (edition.complete || edition.space.contains mark)
    return .onward
  | .next =>
    if ← atLast then return .done
    else
      if !setup.quiet then putLine edition.space edition.complete
      dump
      let _ ← advance
      return .onward
  | .appendNext =>
    if ← atLast then return if setup.plain then .dropped else .done
    else
      dump
      let before := (← get).space
      let _ ← advance
      modify fun now => { now with space := before ++ mark :: now.space }
      return .onward
  | .quit status silent => return .quit status silent
  | .append text =>
    set { edition with queue := edition.queue ++ [Queued.text text] }
    return .onward
  | .insert text =>
    putText text
    return .onward
  | .change text =>
    if !(← inRange place) then putText text
    return .dropped
  | .hold adds =>
    set { edition with
      kept := if adds then edition.kept ++ mark :: edition.space else edition.space
      keptComplete := edition.complete }
    return .onward
  | .fetch adds =>
    set { edition with
      space := if adds then edition.space ++ mark :: edition.kept else edition.kept
      complete := edition.keptComplete }
    return .onward
  | .exchange =>
    set { edition with
      space := edition.kept, kept := edition.space
      complete := edition.keptComplete, keptComplete := edition.complete }
    return .onward
  | .number =>
    put ((toString edition.number).toList ++ [mark])
    return .onward
  | .list width =>
    put (broken (width.getD setup.width) (edition.space.map visible) 0 ++ [mark])
    return .onward
  | .branch goal => return jump goal
  | .branchIf goal wanted =>
    set { edition with replaced := false }
    return if edition.replaced = wanted then jump goal else .onward
  | .readFile name =>
    set { edition with queue := edition.queue ++ [Queued.file name] }
    return .onward
  | .readLine name =>
    let line ← sourceLine name
    if !line.isEmpty then modify fun now => { now with queue := now.queue ++ [Queued.text line] }
    return .onward
  | .writeFile target firstOnly =>
    if firstOnly then putTo target first (edition.complete || edition.space.contains mark)
    else putTo target edition.space edition.complete
    return .onward
  | .fileName =>
    put (edition.feed.shown.toList ++ [mark])
    return .onward
  | .clear =>
    set { edition with space := [] }
    return .onward
  | .run [] =>
    runSpace
    return .onward
  | .run command =>
    let written ← outcome command
    put written
    return .onward

def jumpTime : Nat := 1

def passTime : Editing Unit := utility (ask (.pause jumpTime))

def commandsFrom : Nat → Nat → Editing Way
  | 0, _ => return .done
  | fuel + 1, place => do
    match (← read).script.commands[place]? with
    | none => return .done
    | some command =>
      if ← selected place command.selector then
        match ← perform place command with
        | .onward => commandsFrom fuel (place + 1)
        | .to goal =>
          passTime
          commandsFrom fuel goal
        | way => return way
      else
        match command.action with
        | .block close => commandsFrom fuel (close + 1)
        | _ => commandsFrom fuel (place + 1)

/-- Works on line after line; the number bounds them. With `again` the space is kept. The result is the
status of a script that quits. -/
def cycle : Nat → Bool → Editing (Option Nat)
  | 0, _ => return none
  | fuel + 1, again => do
    let goes ← if again then pure true else advance
    if !goes then return none
    else
      match ← commandsFrom Process.manySteps 0 with
      | .done | .onward | .to _ =>
        finish
        cycle fuel false
      | .dropped =>
        dump
        cycle fuel false
      | .again =>
        dump
        passTime
        cycle fuel true
      | .quit status silent =>
        if !silent then finish
        giveBack
        return some status

end Editing

end Assay.Utility.Edit
