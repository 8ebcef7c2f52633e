import Assay.Host.Programs
import Assay.Script.Jobs
import Assay.Script.Redirection

/-!
What runs a script: its text line by line, its traps, and the commands inside its words.
-/

namespace Assay.Script

structure Manner where
  tested : Bool := false
  last : Bool := false

structure Engine where
  become : Become
  run : Manner → Command → Work Unit

namespace Complaint

def reason (misreading : Misreading) : String :=
  match misreading with
  | .unexpected found expected =>
    found.shown ++ " unexpected" ++
      (match expected with
        | some token => " (expecting " ++ token.shown ++ ")"
        | none => "")
  | .openQuote _ => "Unterminated quoted string"
  | .openBrace => "Missing '\x7d'"
  | .openSum => "Missing '))'"
  | .openBackquote => "EOF in backquote substitution"
  | .badLoopVariable => "Bad for loop variable"
  | .badFunctionName => "Bad function name"
  | .badChannel => "Bad fd number"
  | .badSum text => text
  | .openBracket => "Missing ')'"
  | .badCondition reason => reason.getD ""

def richReason (misreading : Misreading) : String :=
  match misreading with
  | .unexpected .endOfText _ => "syntax error: unexpected end of file"
  | .unexpected found _ => "syntax error near unexpected token \x60" ++ found.written ++ "'"
  | .openQuote mark => "unexpected EOF while looking for matching \x60" ++ String.ofList [mark] ++ "'"
  | .openBrace => "unexpected EOF while looking for matching \x60\x7d'"
  | .openSum => "unexpected EOF while looking for matching \x60)'"
  | .openBackquote => "unexpected EOF while looking for matching \x60\x60'"
  | .openBracket => "unexpected EOF while looking for matching \x60)'"
  | .badCondition reason => reason.getD ""
  | other => "syntax error: " ++ reason other

end Complaint

namespace Engine

open Work (ask)

/-- The line of a text that has been reached when so much is left, before that place and behind it. -/
def lineAround (text : List Char) (left : Nat) : List Char × List Char :=
  let read := text.take (text.length - left)
  let before := if read.getLast? = some '\n' then read.dropLast else read
  ((before.reverse.takeWhile (· ≠ '\n')).reverse, (text.drop before.length).takeWhile (· ≠ '\n'))

def lastWord (front : List Char) : List Char :=
  let back := front.reverse.dropWhile fun c => c = ' ' || c = '\t'
  let word := back.takeWhile fun c => !" \t;|&".toList.contains c
  match back.drop word.length with
  | c :: _ => if c = ' ' ∨ c = '\t' then word.reverse else c :: word.reverse
  | [] => word.reverse

def tell (complaint : Complaint) (text : List Char) : Work Unit := do
  let shell ← get
  set { shell with line := complaint.line }
  if shell.isRich then
    let (front, rest) := lineAround text complaint.left
    let passed : Bool := match complaint.misreading with
      | .unexpected .newLine _ | .badCondition _ => (text.drop (text.length - complaint.left - 1)).head? = some '\n'
      | _ => false
    set { shell with
          line := if passed then complaint.line - 1 else complaint.line, builtin := none, calls := []
          name := shell.title ++ ((shell.reading.map (": " ++ ·)).getD "") }
    let quoted := fun word : List Char => "\x60" ++ String.ofList word ++ "'"
    match complaint.misreading with
    | .unexpected .endOfText _ => Work.warn (Complaint.richReason complaint.misreading)
    | .unexpected .. =>
      Work.warn (Complaint.richReason complaint.misreading)
      Work.warn (quoted (front ++ rest))
    | .badCondition reason =>
      if reason.isSome then Work.warn (Complaint.richReason complaint.misreading)
      Work.warn ("syntax error near " ++ quoted (lastWord (front ++ rest.take 1)))
      Work.warn (quoted (front ++ rest))
    | _ => Work.warn (Complaint.richReason complaint.misreading)
    modify fun after => { after with status := 2, name := shell.name, builtin := shell.builtin, calls := shell.calls }
    throw .fails
  else Work.refuse ("Syntax error: " ++ Complaint.reason complaint.misreading)

def consumed (before after : Source) : List Char :=
  before.text.take (before.text.length - after.text.length)

def atEnd (source : Source) : Bool :=
  match source.last, source.dialect with
  | .endOfText, _ => source.pushed
  | _, .rich => source.text = []
  | _, .plain => false

section

variable (engine : Engine)

def runLines (manner : Manner) (fromFile : Bool) : Nat → Bool → Source → Work Unit
  | 0, _, _ => return
  | steps + 1, started, source => do
    let shell ← get
    let start : Source :=
      { source with
        aliases := if shell.isRich && !shell.options.contains "expand_aliases" then [] else shell.aliases
        extended := shell.isRich && shell.options.contains "extglob"
        grouped := shell.isRich && shell.options.contains "extglob"
        wide := shell.isWide
        documents := [], nextDocument := shell.nextDocument }
    match StateT.run Parser.line start with
    | .error complaint => tell complaint start.text
    | .ok (none, _) => if started then return else Work.setStatus 0
    | .ok (some command, after) =>
      set { shell with
            readLine := after.line, documents := after.documents ++ shell.documents,
            nextDocument := after.nextDocument }
      if shell.isRich then
        for (line, text) in after.warnings.reverse do
          Work.put 2 (shell.title ++ ": line " ++ toString line ++ ": " ++ text ++ "\n")
      if fromFile && shell.hasFlag 'v' then Work.put 2 (String.ofList (consumed start after))
      match ← Work.outcome (engine.run { manner with last := manner.last && atEnd after } command) with
      | .ok () => pure ()
      | .error .abandons => goOn
      | .error jump => throw jump
      let empty : Bool := match command with
        | .empty => true
        | _ => false
      runLines manner fromFile steps (started || !empty) after
where
  goOn : Work Unit := do
    modify fun shell => { shell with stages := [shell.status] }
    if (← get).depth > 0 then throw .leaves

def withEnd (text : List Char) : List Char :=
  match text.getLast? with
  | some '\n' | some '\\' | none => text
  | some _ => text ++ ['\n']

def runText (manner : Manner) (text : String) (fromFile : Bool := false) (line : Nat := 1) : Work Unit := do
  let rich := (← get).isRich
  runLines engine manner fromFile Process.manySteps false
    { text := if rich then withEnd text.toList else text.toList, dialect := (← get).dialect, line }

/-- Carries out a text inside of another one. In the rich dialect its name stands in complaints about it. -/
def runInside (manner : Manner) (called : Option String) (line : Nat) (text : String) (fromFile : Bool) :
    Work Unit := do
  let before ← get
  set { before with level := before.level + 1, shift := 0, reading := if before.isRich then called else none }
  let result ← Work.outcome (runText engine manner text fromFile line)
  modify fun after =>
    { after with level := before.level, shift := before.shift, reading := before.reading, current := before.current }
  match result with
  | .ok () => return
  | .error jump => throw jump

/-- Carries out the command that something calls which happens; meanwhile it is not called again. The result is the
status of that command, and the status of the script stays what it was. -/
def answer (happening line : Nat) (action : String) : Work Nat := do
  let before ← get
  set { before with
        attending := happening :: before.attending
        interrupted := some (before.interrupted.getD before.current) }
  let result ← Work.outcome (runInside engine {} none line action false)
  modify fun after => { after with attending := before.attending, interrupted := before.interrupted }
  match result with
  | .ok () =>
    let status := (← get).status
    modify fun after => { after with status := before.status, stages := before.stages }
    return status
  | .error jump => throw jump

def happen (happening : Nat) : Work Nat := do
  let shell ← get
  match shell.traps.lookup happening with
  | some action =>
    if action = "" || shell.attending.contains happening then return 0
    else answer engine happening shell.line action
  | none => return 0

def attend : Work Unit := do
  let signals := (← get).pending ++ (← ask .caught)
  if !signals.isEmpty then
    modify fun shell => { shell with pending := [] }
    let before ← get
    for signal in signals.mergeSort do
      match (← get).traps.lookup signal with
      | some action =>
        if action ≠ "" then
          modify fun shell => { shell with held := some (shell.held.getD before.status) }
          let result ← Work.outcome (answer engine signal 1 action)
          modify fun shell => { shell with held := before.held }
          match result with
          | .ok _ => Work.setStatus before.status
          | .error jump => throw jump
      | none => pure ()

def conclude : Work Unit := do
  let shell ← get
  match shell.traps.lookup 0 with
  | none => return
  | some action =>
    set { shell with
          traps := shell.traps.filter (·.1 ≠ 0), held := some shell.status, builtin := none,
          arguments := shell.arguments }
    match ← Work.outcome (answer engine 0 1 action) with
    | .ok _ | .error (.breaks _) | .error (.continues _) | .error .returns => Work.setStatus shell.status
    | .error .leaves | .error .fails | .error .abandons => return

def copy (body : Work Unit) (listsJobs : Bool := true) : Work Unit := do
  Jobs.enterCopy listsJobs
  let _ ← Work.outcome body
  conclude engine

def freeNumber : Work Nat := do
  let channels ← ask .channels
  return 1000 * (channels.foldl (fun most item => max most item.1) 0 / 1000 + 1)

def rechannel (change : Channels → Channels) : Work Unit := do
  ask (.setChannels (change (← ask .channels)))

def outputOf (line : Nat) (body : Command) : Work (List Char) := do
  match body with
  | .empty => return []
  | .simple _ [] [] [.mk 0 .read target _ ""] _ =>
    if (← get).isRich then return (← contentOf target) else piped
  | _ => piped
where
  contentOf (target : Word) : Work (List Char) := do
    let name ← Expansion.text { outputOf := fun _ _ => return [], channelOf := fun _ _ => return "" } target
    match (← ask .tree).read (← ask .folder) (Work.path name) with
    | .ok content =>
      modify fun shell => { shell with outputStatus := 0 }
      let text := (Octets.chars content).filter (· ≠ '\x00')
      return (text.reverse.dropWhile (· = '\n')).reverse
    | .error fault =>
      Work.warn (name ++ ": " ++ fault.message)
      modify fun shell => { shell with outputStatus := 1 }
      return []
  piped : Work (List Char) := do
    let tested : Bool := (← get).isRich && (← get).tested
    let base ← freeNumber
    let (reader, writer) ← ask .pipe
    rechannel fun channels => (channels.put base reader).put (base + 1) writer
    let number ← Work.fork <| copy engine do
      rechannel fun channels => ((channels.drop base).drop (base + 1)).put 1 writer
      modify fun shell =>
        let keeps := !shell.isRich || shell.options.contains "inherit_errexit"
        { shell with
          shift := if shell.isRich then Int.ofNat shell.line - line else 0
          level := shell.level + 1, flags := if keeps then shell.flags else shell.flags.filter (· ≠ 'e') }
      engine.run { last := true, tested := tested } body
    rechannel fun channels => channels.drop (base + 1)
    let content ← (Process.readAll base : Process _)
    rechannel fun channels => channels.drop base
    let status ← Jobs.await [number] false
    modify fun shell => { shell with outputStatus := status }
    let text := (Octets.chars (content.toOption.getD .empty)).filter (· ≠ '\x00')
    return (text.reverse.dropWhile (· = '\n')).reverse

/-- A channel that leads to or from a command; its name is the result. -/
def channelOf (body : Command) (reads : Bool) : Work String := do
  let base ← freeNumber
  let channels ← ask .channels
  let number := ((List.range 64).reverse.find? fun n => (channels.lookup n).isNone).getD 63
  let (reader, writer) ← ask .pipe
  rechannel fun channels => (channels.put base reader).put (base + 1) writer
  let _ ← Work.fork <| copy engine do
    rechannel fun channels =>
      let left := (channels.drop base).drop (base + 1)
      if reads then left.put 1 writer else left.put 0 reader
    engine.run { last := true } body
  rechannel fun channels =>
    ((channels.drop base).drop (base + 1)).put number (if reads then reader else writer)
  modify fun shell => { shell with passages := number :: shell.passages }
  return "/dev/fd/" ++ toString number

def commands : Expansion.Commands where
  outputOf := outputOf engine
  channelOf := channelOf engine

end

end Engine

end Assay.Script
