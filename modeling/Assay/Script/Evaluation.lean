import Assay.Script.Assigning
import Assay.Script.Builtin.Basic
import Assay.Script.Judging

/-!
Carrying out commands. What a command means is told by what the commands inside it mean; a number
bounds how deep they stand inside one another.
-/

namespace Assay.Script.Evaluation

open Work (ask)

section

variable (engine : Engine)

def commands : Expansion.Commands := engine.commands

def standAt (line : Nat) : Work Unit :=
  modify fun shell => { shell with line := (Int.ofNat line + shell.shift).toNat }

def checkFailure (manner : Manner) : Work Unit := do
  let shell ← get
  if shell.status ≠ 0 ∧ ¬manner.tested then
    let _ ← engine.happen Happening.failure
    if shell.hasFlag 'e' then throw .leaves

/-- Notes that a command is about to be carried out, and calls the command that waits for this. The flag tells
whether it is to be carried out. -/
def announce (manner : Manner) (line : Nat) (command : Command) : Work Bool := do
  standAt line
  let shell ← get
  if !shell.isRich then return true
  else if shell.announced then
    set { shell with announced := false, tested := manner.tested }
    return true
  else
    set { shell with current := command, tested := manner.tested }
    let status ← engine.happen Happening.command
    return status = 0 || !shell.options.contains "extdebug"

def takesAssignments (rich : Bool) (fields : List String) : Bool :=
  match fields.dropWhile fun field => field = "command" || field = "builtin" with
  | name :: _ =>
    ["export", "readonly", "local"].contains name
      || (rich && ["declare", "typeset"].contains name)
  | [] => false

def expandEach : List Word → List String → Work (List String)
  | [], fields => return fields
  | word :: rest, fields => do
    let shell ← get
    let whole := takesAssignments shell.isRich fields
      && (Parser.assignment? shell.dialect word).isSome
    let here ← if whole then do pure [← Expansion.assignedText (commands engine) word]
      else Expansion.fields (commands engine) word
    expandEach rest (fields ++ here)

def expandWords (words : List Word) : Work (List String) := do
  expandEach engine (← words.mapM Expansion.unbraced).flatten []

inductive Target
  | nothing
  | function (routine : Routine)
  | builtin
  | program (path : Option String)

structure Called where
  fields : List String
  target : Target
  special : Bool

/-- Takes words such as `command` from the front. The flag tells that functions do not count. -/
def unwrap (shell : Shell) : Nat → Bool → List String → List String × Bool × Bool
  | 0, direct, fields => (fields, direct, false)
  | fuel + 1, direct, fields =>
    match fields with
    | "command" :: rest =>
      if direct && (shell.functions.lookup "command").isSome then (fields, direct, false)
      else
        match rest with
        | "-p" :: others =>
          if others.isEmpty then (fields, false, false)
          else
            let (left, _, _) := unwrap shell fuel false others
            (left, false, true)
        | "--" :: others =>
          if others.isEmpty then (fields, false, false) else unwrap shell fuel false others
        | [] => (fields, false, false)
        | next :: _ => if "-".isPrefixOf next ∧ next ≠ "-" then (fields, false, false)
          else unwrap shell fuel false rest
    | "builtin" :: next :: rest =>
      if shell.isRich then unwrap shell fuel false (next :: rest) else (fields, direct, false)
    | _ => (fields, direct, false)

def calledBy (shell : Shell) (fields : List String) : Called :=
  let (left, direct, standard) := unwrap shell (fields.length + 1) true fields
  match left with
  | [] => { fields := left, target := .nothing, special := false }
  | name :: _ =>
    let special := direct && !shell.isRich && Lookup.isSpecial name
    match if direct then shell.functions.lookup name else none with
    | some routine => { fields := left, target := .function routine, special := false }
    | none =>
      if Lookup.isBuiltin shell name then { fields := left, target := .builtin, special }
      else
        { fields := left, special := false,
          target := .program (if standard then some Program.standardPath else none) }

/-- The words of a traced command. In the rich dialect they stand between quotes where it matters. -/
def traced (shell : Shell) (assigned fields : List String) : String :=
  " ".intercalate
    (assigned ++ fields.map fun field => if shell.isRich then Quoting.requoted shell.isWide field else field)

def traceLines (channel : Nat) (lines : List String) : Work Unit := do
  let shell ← get
  if shell.hasFlag 'x' then
    let mark := ((← Work.value? "PS4").getD "").toList
    let inner : Inner := Parser.inner (Parser.read Reading.limit)
    let shown ← match StateT.run (Words.read inner .document) { text := mark } with
      | .ok (word, _) => do
        set { shell with flags := shell.flags.filter (· ≠ 'x') }
        let text ← Expansion.text (commands engine) word
        modify fun after => { after with flags := shell.flags }
        pure text
      | .error _ => pure (String.ofList mark)
    let deep := if shell.isRich then
        String.ofList (List.replicate shell.level ((shown.toList.head?).getD '+')) ++ shown
      else shown
    for line in lines do Work.put channel (deep ++ line ++ "\n")

/-- Writes a traced command where errors went before its redirections. In the rich dialect each assignment has
a line of its own. -/
def trace (channel : Nat) (assigned fields : List String) : Work Unit := do
  let shell ← get
  if shell.isRich then
    traceLines engine channel assigned
    if !fields.isEmpty then traceLines engine channel [traced shell [] fields]
  else traceLines engine channel [traced shell assigned fields]

def traceHead (head : String) : Work Unit := do
  if (← get).isRich then traceLines engine 2 [head]

def assignAll (passing exported : Bool) : List Assignment → Work (List String)
  | [] => return []
  | assignment :: rest => do
    let name := Assigning.nameOf assignment
    if passing then Work.keep name
    let carried ← Work.outcome (Assigning.carryOut (commands engine) assignment)
    let rich := (← get).isRich
    let text ← match carried with
      | .ok text => pure text
      | .error .fails => if rich && passing then pure "" else throw (if rich then .abandons else .fails)
      | .error jump => throw jump
    if passing || exported then
      modify fun shell =>
        match shell.binding? name with
        | some binding => shell.setBinding { binding with exported := true }
        | none => shell
    return text :: (← assignAll passing exported rest)

def runBuiltin (manner : Manner) (special : Bool) (fields : List String) : Work Unit := do
  let name := fields.headD ""
  let before := (← get).builtin
  modify fun shell => { shell with builtin := some name }
  let result ← Work.outcome (Builtin.run engine manner name (fields.drop 1))
  modify fun shell => { shell with builtin := before }
  match result with
  | .ok status => Work.setStatus status
  | .error .fails => if special then throw .fails
  | .error jump => throw jump

def callFunction (manner : Manner) (routine : Routine) (fields : List String) : Work Unit := do
  let before ← get
  let passes := fun trap : Nat × String =>
    trap.1 ≤ Signal.highest || before.traces trap.1 || (routine.traced && trap.1 ≠ Happening.failure)
  set { before with
        traps := before.traps.filter passes
        arguments := fields.drop 1, functionLine := routine.line, shift := 0, loops := 0
        optionIndex := if before.isRich then before.optionIndex else 1
        optionPlace := if before.isRich then before.optionPlace else none
        calls := { name := fields.headD "", origin := routine.origin, line := before.line } :: before.calls }
  let result ← Work.outcome <| Work.localized do
    if before.isRich then
      standAt routine.line
      let _ ← engine.happen Happening.command
    let result ← Work.outcome (engine.run { tested := manner.tested } routine.body)
    if before.isRich then ended routine.line result
    match result with
    | .ok () => return
    | .error jump => throw jump
  modify fun shell =>
    let kept := before.traps.filter fun trap => !passes trap && (shell.traps.lookup trap.1).isNone
    { shell with
      traps := kept ++ shell.traps
      arguments := before.arguments, functionLine := before.functionLine, loops := before.loops,
      optionIndex := if shell.isRich then shell.optionIndex else before.optionIndex
      optionPlace := if shell.isRich then shell.optionPlace else before.optionPlace, calls := before.calls
      line := if shell.isRich then before.line else shell.line, shift := before.shift }
  match result with
  | .ok () | .error .returns => return
  | .error jump => throw jump
where
  ended (line : Nat) (result : Except Jump Unit) : Work Unit := do
    let seen : Option Nat ← match result with
      | .ok () => do pure (some (← get).status)
      | .error .returns => do pure (some (← get).statusBefore)
      | .error _ => pure none
    match seen with
    | none => return
    | some status =>
      let shell ← get
      if (shell.traps.lookup Happening.ending).isSome then
        set { shell with status, line }
        let _ ← engine.happen Happening.ending
        Work.setStatus shell.status

def runProgram (manner : Manner) (standard : Option String) (fields : List String) : Work Unit := do
  let name := fields.headD ""
  let places := Program.candidates ((← Lookup.searchPath).getD "") name
  let found : Except FileFault (List String) ←
    if name.toList.contains '/' then pure (.ok [name])
    else
      match standard with
      | some folders => do pure ((← Lookup.search folders name).map ([·]))
      | none => do
        let rich := (← get).isRich
        pure ((← Lookup.remembered name 1).map fun path =>
          if rich then [path] else places.dropWhile (· ≠ path))
  match found with
  | .error fault =>
    let rich := (← get).isRich
    Work.warn (name ++ ": " ++
      (if fault = .notFound || fault = .notAFolder then if rich then "command not found" else "not found"
        else fault.message))
    Work.setStatus (if rich && fault = .denied then 126 else 127)
  | .ok places =>
    if manner.last && !(← get).hasTraps then
      Builtin.become engine name places (fields.drop 1)
      throw .leaves
    else
      let number ← Work.fork (Builtin.become engine name places (fields.drop 1))
      Jobs.entitle number (← get).current
      Work.setStatus (← Jobs.await [number])

def call (manner : Manner) (called : Called) : Work Unit :=
  match called.target with
  | .nothing => return
  | .function routine => callFunction engine manner routine called.fields
  | .builtin => runBuiltin engine manner called.special called.fields
  | .program path => runProgram engine manner path called.fields

def redirected (redirects : List Redirect) (part : Redirection.Aside → Bool → Work Unit) : Work Unit := do
  if redirects.isEmpty then part { base := 0, numbers := [] } true
  else
    let aside ← Redirection.putAside redirects
    let result ← Work.outcome do
      part aside (← Redirection.apply (commands engine) redirects)
    Redirection.putBack aside
    match result with
    | .ok () => return
    | .error jump => throw jump

def isLasting (called : Called) : Bool :=
  match called.target, called.fields with
  | .builtin, "exec" :: _ => true
  | _, _ => false

/-- A simple command: its words are expanded, then come redirections, assignments, and the call. -/
def simple (manner : Manner) (assignments : List Assignment) (words : List Word) (redirects : List Redirect) :
    Work Unit := do
  modify fun shell => { shell with outputStatus := 0 }
  let fields ← expandWords engine words
  let called := calledBy (← get) fields
  let shell ← get
  let lists : Bool := shell.isRich && takesAssignments true fields
  let (late, early) := assignments.partition fun assignment =>
    match assignment with
    | .several .. => lists
    | _ => false
  let passing := !fields.isEmpty && !called.special
  let lasting : Bool := isLasting called
  let perform := fun (aside : Redirection.Aside) => do
    let errors := if aside.numbers.contains 2 then aside.base + 2 else 2
    let assigned ← assignAll engine passing (lasting && called.fields.length > 1) early
    if !(assigned.isEmpty && fields.isEmpty) then trace engine errors assigned fields
    if fields.isEmpty then Work.setStatus (← get).outputStatus
    else
      if lasting && called.fields.length = 1 then Redirection.abandon aside
      call engine manner called
      let _ ← assignAll engine false false late
  let whole := redirected engine redirects fun aside fine => do
    if fine then perform aside
    else
      let status := if (← get).isRich then 1 else 2
      Work.setStatus status
      if called.special then throw .fails
  if lasting && called.fields.length = 1 then
    let aside ← Redirection.putAside redirects
    if ← Redirection.apply (commands engine) redirects then perform aside
    else
      Redirection.putBack aside
      let rich := (← get).isRich
      Work.setStatus (if rich then 1 else 2)
      if called.special then throw .fails
  else if passing && !early.isEmpty then Work.localized whole
  else whole
  if (← get).isRich then
    modify fun after =>
      { after with lastWord := fields.getLast?.getD after.lastWord, stages := [after.status] }

def foresee (stage : Command) : Work Unit := do
  match stage with
  | .simple _ _ ([.text name false] :: _) _ _ =>
    let shell ← get
    let called := String.ofList name
    if isName name && !shell.isRich && (shell.functions.lookup called).isNone
        && !Lookup.isBuiltin shell called then
      let _ ← Lookup.remembered called 0
  | _ => return

/-- A simple command that a copy of the script carries out is announced before the copy begins. -/
def foretell (manner : Manner) (stage : Command) : Work Unit := do
  match stage with
  | .simple line .. =>
    if (← get).isRich then
      let _ ← announce engine manner line stage
      modify fun shell => { shell with announced := true }
  | _ => return

/-- Begins the stages of a pipeline, each one's output leading to the next one. The number is beyond those of all
channels. The flags tell that a stage before waits to be read from, and that no stage follows behind the last one. -/
def beginStages (manner : Manner) (background : Bool) (base : Nat) :
    List Command → Bool → Bool → List Nat → Work (List Nat)
  | [], _, _, numbers => return numbers.reverse
  | stage :: rest, reads, ends, numbers => do
    let writes := !(rest.isEmpty && ends)
    foresee stage
    if writes then
      let (reader, writer) ← ask .pipe
      Engine.rechannel fun channels => (channels.put (base + 1) reader).put (base + 2) writer
    foretell engine manner stage
    let number ← Work.fork <| engine.copy do
      if background then Jobs.enterBackground (!reads)
      Engine.rechannel fun channels =>
        let input := match channels.lookup base with
          | some channel => channels.put 0 channel
          | none => channels
        let output := match channels.lookup (base + 2) with
          | some channel => input.put 1 channel
          | none => input
        ((output.drop base).drop (base + 1)).drop (base + 2)
      engine.run { tested := manner.tested, last := true } stage
    Jobs.entitle number stage
    modify fun shell => { shell with announced := false }
    Engine.rechannel fun channels =>
      let moved := match channels.lookup (base + 1) with
        | some channel => channels.put base channel
        | none => channels.drop base
      (moved.drop (base + 1)).drop (base + 2)
    beginStages manner background base rest writes ends (number :: numbers)

def pipeline (manner : Manner) (stages : List Command) : Work Unit := do
  let shell ← get
  let base ← Engine.freeNumber
  match if shell.isRich && shell.options.contains "lastpipe" then stages.getLast? else none with
  | none =>
    let numbers ← beginStages engine manner false base stages false true []
    conclude (← Jobs.await numbers)
  | some last =>
    let numbers ← beginStages engine manner false base stages.dropLast false false []
    Engine.rechannel fun channels =>
      let reader := (channels.lookup base).map fun channel => (0, channel)
      let aside := (channels.lookup 0).map fun channel => (base, channel)
      reader.toList ++ aside.toList ++ (channels.drop base).drop 0
    let alone : Bool := match last with
      | .simple .. => true
      | _ => manner.tested
    let result ← Work.outcome (engine.run { tested := alone } last)
    Engine.rechannel fun channels =>
      let restored := (channels.lookup base).map fun channel => (0, channel)
      restored.toList ++ (channels.drop base).drop 0
    let status := (← get).status
    let _ ← Jobs.await numbers
    modify fun after => { after with stages := after.stages ++ [status] }
    conclude status
    match result with
    | .ok () => return
    | .error jump => throw jump
where
  conclude (status : Nat) : Work Unit := do
    let shell ← get
    let failed := shell.stages.reverse.find? (· ≠ 0)
    Work.setStatus (if shell.options.contains "pipefail" then failed.getD 0 else status)

def background (line : Nat) (body : Command) : Work Unit := do
  standAt line
  let numbers ← match body with
    | .pipeline _ stages => beginStages engine {} true (← Engine.freeNumber) stages false true []
    | _ => do
      let copied : Work Unit := do
        Jobs.enterBackground true
        engine.run { last := true } body
      foretell engine {} body
      let number ← Work.fork (engine.copy copied false)
      Jobs.entitle number body
      modify fun shell => { shell with announced := false }
      pure [number]
  Jobs.note numbers
  Work.setStatus 0

/-- A command beside the script. Of the numbers up to 63 that are free it gets the highest ones. -/
def partner (line : Nat) (name : String) (body whole : Command) : Work Unit := do
  standAt line
  if !isName name.toList then
    Work.warn ("\x60" ++ name ++ "': not a valid identifier")
    Work.setStatus 1
  else
    match (← get).partners with
    | (number, other) :: _ =>
      let shell ← get
      Work.put 2 (shell.title ++ ": line " ++ toString shell.line ++ ": warning: execute_coproc: coproc ["
        ++ toString number ++ ":" ++ other.name ++ "] still exists\n")
    | [] => pure ()
    let channels ← ask .channels
    let free := ((List.range 64).reverse.filter fun number => (channels.lookup number).isNone).take 4
    let fromIt := free.headD 63
    let toIt := free.getLast?.getD 60
    let base ← Engine.freeNumber
    let (itsReader, writer) ← ask .pipe
    Engine.rechannel fun channels => (channels.put base itsReader).put toIt writer
    let (reader, itsWriter) ← ask .pipe
    Engine.rechannel fun channels => (channels.put (base + 1) itsWriter).put fromIt reader
    let number ← Work.fork <| engine.copy (do
      Engine.rechannel fun channels =>
        (((((channels.drop base).drop (base + 1)).drop fromIt).drop toIt).put 0 itsReader).put 1 itsWriter
      engine.run { last := true } body) false
    Engine.rechannel fun channels => (channels.drop base).drop (base + 1)
    Jobs.entitle number whole
    Jobs.note [number]
    modify fun shell =>
      let list : Binding :=
        { name, value := .list [(0, toString fromIt), (1, toString toIt)] }
      let after := (shell.setBinding list).setBinding
        { name := name ++ "_PID", value := .single (toString number) }
      { after with partners := (number, { name, channels := [fromIt, toIt] }) :: shell.partners }
    Work.setStatus 0

def subshell (manner : Manner) (line : Nat) (body : Command) (redirects : List Redirect) : Work Unit := do
  standAt line
  modify fun shell => { shell with current := .subshell line body redirects }
  let inner : Work Unit := do
    if ← Redirection.apply (commands engine) redirects then
      engine.run { tested := manner.tested, last := true } body
    else
      Work.setStatus (if (← get).isRich then 1 else 2)
      throw .leaves
  if manner.last && !(← get).hasTraps then
    modify fun shell => { shell with inside := true, depth := shell.depth + 1, jobs := [] }
    inner
    throw .leaves
  else
    let number ← Work.fork (engine.copy inner false)
    Jobs.entitle number (.subshell line body redirects)
    Work.setStatus (← Jobs.await [number])

def goesOn (result : Except Jump Unit) : Work Bool := do
  match result with
  | .ok () => return true
  | .error (.breaks levels) => if levels ≤ 1 then return false else throw (.breaks (levels - 1))
  | .error (.continues levels) => if levels ≤ 1 then return true else throw (.continues (levels - 1))
  | .error jump => throw jump

def looping (part : Work Unit) : Work Unit := do
  let before := (← get).loops
  modify fun shell => { shell with loops := before + 1 }
  let result ← Work.outcome part
  modify fun shell => { shell with loops := before }
  match result with
  | .ok () => return
  | .error jump => throw jump

/-- Rounds of a loop, as long as a test goes as it should. The status is that of the last round. -/
def rounds (manner : Manner) (whileSucceeding : Bool) (test body : Command) : Nat → Nat → Work Unit
  | 0, _ => return
  | steps + 1, status => do
    let tried ← Work.outcome (engine.run { tested := true } test)
    let again ← goesOn tried
    let jumped : Bool := tried.toOption.isNone
    let succeeds : Bool := (← get).status = 0
    if jumped && again then rounds manner whileSucceeding test body steps status
    else if jumped || succeeds != whileSucceeding then Work.setStatus status
    else
      let result ← Work.outcome (engine.run { tested := manner.tested } body)
      if ← goesOn result then rounds manner whileSucceeding test body steps (← get).status

def eachRound (manner : Manner) (name : String) (announced : Work Bool) (body : Command) : List String → Work Unit
  | [] => return
  | value :: rest => do
    if !(← announced) then eachRound manner name announced body rest
    else
      match ← Work.outcome (Work.assign name value) with
      | .ok () =>
        let result ← Work.outcome (engine.run { tested := manner.tested } body)
        if ← goesOn result then eachRound manner name announced body rest
      | .error jump => if !(← get).isRich then throw jump

def fitsAny (text : List Char) : List Word → Work Bool
  | [] => return false
  | pattern :: rest => do
    let glyphs ← Expansion.pattern (commands engine) pattern
    let shell ← get
    let style := { shell.patternStyle with caseless := shell.options.contains "nocasematch" }
    let items := Pattern.ofGlyphs style (shell.readsPattern glyphs)
    if Pattern.fitsAll items (shell.reads text) then return true else fitsAny text rest

/-- The bodies from the first arm on that fits, up to one behind which the choice ends. The flags tell whether a
body has been carried out, and whether the next one is, whatever its patterns are. -/
def choose (manner : Manner) (text : List Char) : Bool → Bool → List Arm → Work Unit
  | done, _, [] => if done then return else Work.setStatus 0
  | done, follows, .mk patterns _ body onward :: rest => do
    let chosen ← if follows then pure true else fitsAny engine text patterns
    if chosen then
      match body with
      | .empty => Work.setStatus 0
      | _ => engine.run { manner with last := manner.last && onward = .stops } body
      match onward with
      | .stops => return
      | .falls => choose manner text true true rest
      | .looks => choose manner text true false rest
    else choose manner text done false rest

def indentation (start stop : Nat) : String :=
  let tabs := stop / 8 - start / 8
  let reached := if tabs = 0 then start else stop / 8 * 8
  String.ofList (List.replicate tabs '\t' ++ List.replicate (stop - reached) ' ')

def menuLines (items : List String) : List String :=
  let count := items.length
  let digits := fun number : Nat => (toString number).length
  let wide := (items.foldl (fun most item => max most item.length) 0) + digits count + 4
  let fitting := max 1 (80 / wide)
  let tall := (count + fitting - 1) / fitting
  let columns := (count + tall - 1) / tall
  let rows := if tall = 1 then columns else tall
  let numbered := (List.range count).zip items
  (List.range rows).map fun row =>
    let inRow := numbered.filter fun item => item.1 % rows = row
    let (line, _) := inRow.foldl (fun (line, place) (index, item) =>
      let width := if place = 0 then digits rows else digits count
      let number := toString (index + 1)
      let text := String.ofList (List.replicate (width - number.length) ' ') ++ number ++ ") " ++ item
      let gap := if count ≤ index + rows then "" else indentation (place + text.length) (place + wide)
      (line ++ text ++ gap, place + wide)) ("", 0)
    line

/-- Rounds for the items that are chosen, by their numbers, until nothing is left to be read. -/
def menuRounds (manner : Manner) (name : String) (items : List String) (body : Command) :
    Nat → Bool → Work Unit
  | 0, _ => return
  | steps + 1, shows => do
    if shows then Work.put 2 (String.join ((menuLines items).map (· ++ "\n")))
    Work.put 2 ((← Work.value? "PS3").getD "#? ")
    let status ← Builtin.read []
    if status ≠ 0 then
      Work.put 1 "\n"
      Work.setStatus 1
    else
      let reply := (← Work.value? "REPLY").getD ""
      if reply = "" then menuRounds manner name items body steps true
      else
        let scanned := Text.scanInteger true reply.toList
        let chosen := if scanned.found && scanned.rest.all Text.isSpaceByte && 1 ≤ scanned.value then
            items.getD (scanned.value.toNat - 1) ""
          else ""
        Work.assign name chosen
        let result ← Work.outcome (engine.run { tested := manner.tested } body)
        if ← goesOn result then
          menuRounds manner name items body steps ((← Work.value? "REPLY") = some "")

def counted (source : Word) : Work Int64 := do
  let text ← Expansion.text (commands engine) source
  traceHead engine ("(( " ++ String.ofList (text.toList.dropWhile fun c => c = ' ' || c = '\t') ++ " ))")
  Expansion.reckon text.toList

def countingRounds (manner : Manner) (test : Work Bool) (step : Work Unit) (body : Command) : Nat → Work Unit
  | 0 => return
  | steps + 1 => do
    let holds ← test
    let _ ← ask .caught
    if holds then
      let result ← Work.outcome (engine.run { tested := manner.tested } body)
      if ← goesOn result then
        step
        countingRounds manner test step body steps

/-- A part with the channels to and from commands that it names; they are closed at its end. -/
def withPassages (part : Work Unit) : Work Unit := do
  let before := (← get).passages
  let result ← Work.outcome part
  let opened := ((← get).passages).filter fun number => !before.contains number
  if !opened.isEmpty then
    Engine.rechannel fun channels => opened.foldl (fun left number => left.drop number) channels
    modify fun shell => { shell with passages := before }
  match result with
  | .ok () => return
  | .error jump => throw jump

/-- A command that stands for its status alone. What cannot be reckoned in it is told about in its name, and
it fails. -/
def reckoning (name : String) (part : Work Unit) : Work Unit := do
  let before := (← get).builtin
  modify fun shell => { shell with builtin := some name }
  let result ← Work.outcome part
  modify fun shell => { shell with builtin := before }
  match result with
  | .ok () => pure ()
  | .error .fails => Work.setStatus (max 1 (← get).status)
  | .error jump => throw jump
  modify fun shell => { shell with stages := [shell.status] }

def step (manner : Manner) (command : Command) : Work Unit := do
  match command with
  | .empty => return
  | .simple line assignments words redirects _ =>
    if ← announce engine manner line command then
      withPassages (simple engine manner assignments words redirects)
      engine.attend
      checkFailure engine manner
  | .sequence first second =>
    engine.run { tested := manner.tested } first
    engine.run manner second
  | .both first second =>
    engine.run { tested := true } first
    if (← get).status = 0 then engine.run manner second
  | .either first second =>
    engine.run { tested := true } first
    if (← get).status ≠ 0 then engine.run manner second
  | .negated body =>
    engine.run { tested := true } body
    Work.setStatus (if (← get).status = 0 then 1 else 0)
  | .pipeline _ stages =>
    pipeline engine manner stages
    engine.attend
    checkFailure engine manner
  | .background line body =>
    background engine line body
    engine.attend
  | .partner line name body =>
    partner engine line name body command
    engine.attend
    checkFailure engine manner
  | .subshell line body redirects =>
    subshell engine manner line body redirects
    engine.attend
    checkFailure engine manner
  | .redirected line body redirects =>
    standAt line
    withPassages <| redirected engine redirects fun _ fine => do
      if fine then engine.run { tested := manner.tested } body
      else
        Work.setStatus (if (← get).isRich then 1 else 2)
        checkFailure engine manner
  | .group body => engine.run manner body
  | .branch test yes no =>
    engine.run { tested := true } test
    if (← get).status = 0 then engine.run manner yes
    else
      match no with
      | .empty => Work.setStatus 0
      | _ => engine.run manner no
  | .loop whileSucceeding test body =>
    looping (rounds engine manner whileSucceeding test body Process.manySteps 0)
  | .each line name shown words body =>
    standAt line
    let values ← Expansion.allFields (commands engine) words
    if values.isEmpty then Work.setStatus 0
    let announced : Work Bool := do
      traceHead engine ("for " ++ name ++ " in " ++ shown)
      if (← get).isRich then announce engine manner line command else return true
    looping (eachRound engine manner name announced body values)
  | .menu line name shown words body =>
    standAt line
    traceHead engine ("select " ++ name ++ " in " ++ shown)
    let _ ← announce engine manner line command
    let values ← Expansion.allFields (commands engine) words
    if values.isEmpty then Work.setStatus 0
    else looping (menuRounds engine manner name values body Process.manySteps true)
  | .choice line shown word arms =>
    standAt line
    traceHead engine ("case " ++ shown ++ " in")
    let _ ← announce engine manner line command
    modify fun shell => { shell with outputStatus := 0 }
    let text ← Expansion.text (commands engine) word
    choose engine manner text.toList false false arms
  | .define line name body =>
    modify fun shell =>
      { shell with
        functions := (name, { line, body, origin := shell.origin }) :: shell.functions.filter (·.1 ≠ name) }
    Work.setStatus 0
  | .conditional line condition =>
    let _ ← announce engine manner line command
    reckoning "[[" (Judging.judge (commands engine) (traceHead engine) condition)
    engine.attend
    checkFailure engine manner
  | .sum line source _ =>
    let _ ← announce engine manner line command
    let text ← Expansion.text (commands engine) source
    traceHead engine ("(( " ++ text ++ " ))")
    reckoning "((" do
      let value ← Expansion.reckon text.toList
      Work.setStatus (if value = 0 then 1 else 0)
    engine.attend
    checkFailure engine manner
  | .counting line start test change shown body =>
    standAt line
    let texts := (shown.toList.splitOn ';').map fun text => String.ofList (text.dropWhile (· = ' '))
    let value := fun (place : Nat) (source : Word) => do
      if source = [] then return 1
      else
        let _ ← announce engine manner line (.sum line source (texts.getD place ""))
        counted engine source
    let _ ← value 0 start
    Work.setStatus 0
    let holds : Work Bool := do return (← value 1 test) ≠ 0
    let counts : Work Unit := do
      let _ ← value 2 change
    looping (countingRounds engine manner holds counts body Process.manySteps)
  | .timed body =>
    engine.run { tested := manner.tested } body
    Work.put 2 "\nreal\t0m0.000s\nuser\t0m0.000s\nsys\t0m0.000s\n"

end

def unlessOnlyRead (part : Work Unit) : Work Unit := do
  if (← get).hasFlag 'n' then return else part

/-- Carries out a command; the number bounds how deep commands stand inside others. -/
def run (become : Become) : Nat → Manner → Command → Work Unit
  | 0, _, _ => return
  | depth + 1, manner, command =>
    unlessOnlyRead (step { become, run := run become depth } manner command)

def depthLimit : Nat := 1000000

def engine (become : Become) : Engine where
  become
  run := run become depthLimit

end Assay.Script.Evaluation
