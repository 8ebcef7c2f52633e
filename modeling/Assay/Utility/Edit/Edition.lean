import Assay.Utility.Basic
import Assay.Utility.Edit.Command

/-!
Texts while they are edited: the line that is worked on, what has still to be read, and where lines are written.
-/

namespace Assay.Utility.Edit

abbrev Line := List Char × Bool

structure Setup where
  script : Script
  become : Become
  quiet : Bool := false
  plain : Bool := false
  wide : Bool := false
  prompt : Bool := false
  separate : Bool := false
  width : Nat := 70
  mark : Char := '\n'
  place : String

structure Feed where
  files : List String := []
  current : Option String := none
  shown : String := "-"
  ready : List Line := []
  begun : List Char := []

inductive Queued
  | text (chars : List Char)
  | file (name : String)

inductive RangeState
  | until (line : Nat)
  | through (line : Nat)
  | untilFit
  | past

structure Edition where
  feed : Feed := {}
  space : List Char := []
  complete : Bool := true
  kept : List Char := []
  keptComplete : Bool := true
  number : Nat := 0
  replaced : Bool := false
  queue : List Queued := []
  ranges : List (Nat × RangeState) := []
  lastPattern : Pattern := none
  midLine : Bool := false
  midLines : List Nat := []
  replacement : Option ByteArray := none
  sources : List (String × List Char) := []

abbrev Editing (α : Type) := ReaderT Setup (StateT Edition Utility) α

def Script.startRanges (script : Script) : List (Nat × RangeState) :=
  (List.range script.commands.size).filterMap fun place =>
    match script.commands[place]?.bind fun command : Command => command.selector.first with
    | some (Address.line 0) => some (place, RangeState.untilFit)
    | _ => none

namespace Editing

def utility {α : Type} (part : Utility α) : Editing α := fun _ => StateT.lift part

def emitRaw (chars : List Char) : Editing Unit := do
  match (← get).replacement with
  | some content => modify fun edition => { edition with replacement := some (content ++ Octets.bytes chars) }
  | none =>
    utility (emit chars)
    if (← read).prompt then utility flush

def put (chars : List Char) : Editing Unit := do
  if (← get).midLine then
    emitRaw [(← read).mark]
    modify fun edition => { edition with midLine := false }
  emitRaw chars

def putLine (chars : List Char) (complete : Bool) : Editing Unit := do
  let mark := (← read).mark
  put (if complete then chars ++ [mark] else chars)
  modify fun edition => { edition with midLine := !complete }

def putText (text : List Char) : Editing Unit := do
  let mark := (← read).mark
  put (if text.isEmpty then [] else text.dropLast ++ [mark])

def firstTarget : Nat := 700

def putTo (target : Target) (chars : List Char) (complete : Bool) : Editing Unit := do
  let mark := (← read).mark
  let number := match target with
    | .output => 1
    | .errors => 2
    | .file place => firstTarget + place
  let front := if (← get).midLines.contains number then [mark] else []
  let text := front ++ chars ++ (if complete then [mark] else [])
  match target with
  | .output => utility (emit text)
  | _ =>
    let _ ← utility (lift (Process.write number (Octets.bytes text)))
  modify fun edition =>
    let others := edition.midLines.filter (· ≠ number)
    { edition with midLines := if complete then others else number :: others }

def sourceNumber : Nat := 650

def sourceSize : Nat := 4096

def startText : Editing Unit := do
  let ranges := (← read).script.startRanges
  modify fun edition =>
    { edition with number := 0, kept := [], keptComplete := true, ranges, sources := [] }

def startFile (file : String) : Editing Unit := do
  if (← read).separate then startText
  modify fun edition => { edition with feed := { edition.feed with current := some file, shown := file } }

def openNext : Nat → Editing Bool
  | 0 => return false
  | fuel + 1 => do
    let feed := (← get).feed
    match feed.files with
    | [] => return false
    | file :: rest =>
      modify fun edition => { edition with feed := { feed with files := rest } }
      if file = "-" then
        startFile "-"
        return true
      else
        match ← utility (ask (.openFile (path file) .read sourceNumber)) with
        | .ok () =>
          startFile file
          return true
        | .error fault =>
          utility (complain ("can't read " ++ file ++ ": " ++ fault.message) 2)
          openNext fuel

def split (mark : Char) (begun : List Char) (text : List Char) : List Line × List Char :=
  let (lines, last) := text.foldl (fun (found : List Line × List Char) c =>
    if c = mark then ((found.2.reverse, true) :: found.1, []) else (found.1, c :: found.2)) ([], begun)
  (lines.reverse, last)

/-- Reads on until a line is ready, or as much of one as shows that there is one, or all is read. With `across` the
next files are opened; the number bounds the pieces. -/
def fill (partly across : Bool) : Nat → Editing Unit
  | 0 => return
  | fuel + 1 => do
    let feed := (← get).feed
    if !feed.ready.isEmpty || (partly && !feed.begun.isEmpty) then return
    match feed.current with
    | none =>
      if across then
        if ← openNext (feed.files.length + 1) then fill partly across fuel
    | some file =>
      let number := if file = "-" then 0 else sourceNumber
      let size := if (← read).prompt then 1 else sourceSize
      match ← utility (ask (.read number size)) with
      | .error fault =>
        if fault = .isAFolder || file = "-" then
          utility (fail ("read error on " ++ (if file = "-" then "stdin" else file) ++ ": " ++ fault.message) 4)
        utility (complain ("couldn't read " ++ file ++ ": " ++ fault.message) 2)
        modify fun edition => { edition with feed := { feed with current := none } }
        fill partly across fuel
      | .ok content =>
        if content.isEmpty then
          let last : List Line := if feed.begun.isEmpty then [] else [(feed.begun.reverse, false)]
          modify fun edition =>
            { edition with feed := { feed with ready := feed.ready ++ last, begun := [], current := none } }
          fill partly across fuel
        else
          let (lines, begun) := split (← read).mark feed.begun (Octets.chars content)
          modify fun edition => { edition with feed := { feed with ready := feed.ready ++ lines, begun } }
          fill partly across fuel

def advance : Editing Bool := do
  fill false true Process.manySteps
  let feed := (← get).feed
  match feed.ready with
  | [] => return false
  | (line, complete) :: rest =>
    modify fun edition =>
      { edition with
        space := line, complete, number := edition.number + 1, replaced := false
        feed := { feed with ready := rest } }
    return true

def atLast : Editing Bool := do
  fill true (!(← read).separate) Process.manySteps
  let feed := (← get).feed
  return feed.ready.isEmpty && feed.begun.isEmpty

def giveBack : Editing Unit := do
  let feed := (← get).feed
  if feed.current = some "-" then
    let left := (feed.ready.map fun line => line.1.length + 1).foldl (· + ·) feed.begun.length
    utility (ask (.giveBack 0 left))

def sourceLine (name : String) : Editing (List Char) := do
  let mark := (← read).mark
  let known := (← get).sources.lookup name
  let text ← match known with
    | some text => pure text
    | none =>
      match ← utility (contentOf (if name = "/dev/stdin" then "-" else name)) with
      | .ok content => pure (Octets.chars content)
      | .error _ => pure []
  let line := text.takeWhile (· ≠ mark)
  let whole := text.take (line.length + 1)
  modify fun edition =>
    { edition with sources := (name, text.drop whole.length) :: edition.sources.filter (·.1 ≠ name) }
  return whole

def dump : Editing Unit := do
  let queue := (← get).queue
  if !queue.isEmpty then
    modify fun edition => { edition with queue := [] }
    put []
    for item in queue do
      match item with
      | .text chars => emitRaw chars
      | .file name =>
        match ← utility (contentOf (if name = "/dev/stdin" then "-" else name)) with
        | .ok content => emitRaw (Octets.chars content)
        | .error _ => pure ()

def finish : Editing Unit := do
  let edition ← get
  if !(← read).quiet then putLine edition.space edition.complete
  dump

end Editing

end Assay.Utility.Edit
