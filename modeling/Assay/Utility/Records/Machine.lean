import Assay.Utility.Basic
import Assay.Utility.Records.Parser
import Assay.Utility.Records.Value

/-!
The state of a program that works on records: its variables, the record at hand with its fields, and the files and
commands that it reads from and writes to.
-/

namespace Assay.Utility.Records

inductive Cell
  | unset
  | scalar (value : Value)
  | table (table : Table)
  | link (index : Nat)
deriving Inhabited

structure Stream where
  rest : List Char := []
  channel : Option Nat := none
  child : Option Nat := none

structure Sink where
  channel : Nat
  buffer : ByteArray := .empty
  child : Option Nat := none

inductive Input
  | between (argument : Nat) (found : Bool)
  | inside (argument : Nat) (stream : Stream)
  | finished

structure Machine where
  cells : Array Cell := #[]
  globals : Std.HashMap String Nat := {}
  frame : List (String × Nat) := []
  functions : Std.HashMap String Function := {}
  record : Value := .text ""
  fields : Array Value := #[]
  separator : Separator := .blanks
  divided : Bool := true
  stale : Bool := false
  input : Input := .between 1 false
  streams : List (String × Stream) := []
  sinks : List (String × Sink) := []
  nextChannel : Nat := 1000
  patterns : Std.HashMap String Pattern := {}
  within : List Nat := []
  seed : Nat := 0
  chance : Nat := 1
  ended : Bool := false

inductive Unwind
  | next
  | nextFile
  /-- The end, perhaps with a status; what is to be done at the end is done. -/
  | exit (status : Option Nat)
  | fatal (status : Nat)

abbrev Running (α : Type) := ExceptT Unwind (StateT Machine Utility) α

namespace Running

def perform {α : Type} (part : Utility α) : Running α :=
  ExceptT.lift (StateT.lift part)

def cellOf? (name : String) : Running (Option Nat) := do
  let machine ← get
  match machine.frame.lookup name with
  | some index => return some index
  | none => return machine.globals[name]?

def cellOf (name : String) : Running Nat := do
  match ← cellOf? name with
  | some index => return index
  | none =>
    modifyGet fun machine =>
      (machine.cells.size,
        { machine with cells := machine.cells.push .unset, globals := machine.globals.insert name machine.cells.size })

def rootOf (cells : Array Cell) : Nat → Nat → Nat
  | 0, index => index
  | fuel + 1, index =>
    match cells[index]? with
    | some (.link next) => rootOf cells fuel next
    | _ => index

def maxLinks : Nat := 10000

def globalValue (name : String) : Running Value := do
  let machine ← get
  match machine.globals[name]?.bind fun index => machine.cells[index]? with
  | some (.scalar value) => return value
  | _ => return .blank

def setGlobal (name : String) (value : Value) : Running Unit :=
  modify fun machine =>
    match machine.globals[name]? with
    | some index => { machine with cells := machine.cells.setIfInBounds index (.scalar value) }
    | none =>
      { machine with
        cells := machine.cells.push (.scalar value), globals := machine.globals.insert name machine.cells.size }

def conversion : Running String := do
  match ← globalValue "CONVFMT" with
  | .text form => return form
  | other => return other.toText "%.6g"

def textOf (value : Value) : Running String := do
  match value with
  | .text content | .input content _ => return content
  | .blank => return ""
  | .number x => return numberText (← conversion) x

def globalText (name : String) : Running String := do textOf (← globalValue name)

def say (message : String) : Running Unit := perform (do Utility.say ((← name) ++ ": " ++ message ++ "\n"))

def refuse {α : Type} (message : String) : Running α := do
  say message
  throw (.fatal 2)

def fault {α : Type} (message : String) : Running α := do
  let file ← globalText "FILENAME"
  let counted := fun (name : String) => do
    return toString (truncated 0 greatest (← globalValue name).toFloat)
  refuse ("run time error: " ++ message ++ "\n\tFILENAME=\"" ++ file ++ "\" FNR=" ++ (← counted "FNR") ++ " NR="
    ++ (← counted "NR"))

def patternOf (source : String) : Running Pattern := do
  match (← get).patterns[source]? with
  | some pattern => return pattern
  | none =>
    match Pattern.read source with
    | .ok pattern =>
      modify fun machine => { machine with patterns := machine.patterns.insert source pattern }
      return pattern
    | .error message => fault message

def separatorOf (text : String) : Running Separator := do
  match text.toList with
  | [] => return .each
  | [' '] => return .blanks
  | [c] => return .char c
  | _ => return .fitting (← patternOf text)

/-- The cell of an array; a name that stands for nothing yet becomes an array. -/
def arrayCell (array : String) : Running Nat := do
  let start ← cellOf array
  let index := rootOf (← get).cells maxLinks start
  match (← get).cells[index]? with
  | some (.table _) => return index
  | some (.scalar _) => fault ("reference to a scalar as array " ++ array)
  | _ =>
    modify fun machine => { machine with cells := machine.cells.setIfInBounds index (.table {}) }
    return index

def withTable {α : Type} [Inhabited α] (array : String) (part : Table → α × Table) : Running α := do
  let index ← arrayCell array
  modifyGet fun machine =>
    if h : index < machine.cells.size then
      let (cell, cells) := machine.cells.swapAt index .unset h
      match cell with
      | .table table =>
        let (result, changed) := part table
        (result, { machine with cells := cells.setIfInBounds index (.table changed) })
      | other => (default, { machine with cells := cells.setIfInBounds index other })
    else (default, machine)

def changeTable (array : String) (part : Table → Table) : Running Unit :=
  withTable array fun table => ((), part table)

def indexText (values : List Value) : Running String := do
  let texts ← values.mapM textOf
  match texts with
  | [only] => return only
  | several => return (← globalText "SUBSEP").intercalate several

def setRecord (content : String) : Running Unit := do
  let separator ← separatorOf (← globalText "FS")
  modify fun machine =>
    { machine with record := .ofInput content, fields := #[], separator, divided := false, stale := false }

def divide : Running Unit := do
  let machine ← get
  if !machine.divided then
    let text ← textOf machine.record
    let fields := (machine.separator.fields text.toList).map fun field => Value.ofInput (String.ofList field)
    modify fun machine => { machine with fields := fields.toArray, divided := true }

def recordValue : Running Value := do
  let machine ← get
  if machine.stale then
    let between ← globalText "OFS"
    let texts ← machine.fields.toList.mapM textOf
    let record := Value.ofInput (between.intercalate texts)
    modify fun machine => { machine with record, stale := false }
    return record
  else return machine.record

def fieldNumber (value : Value) : Running Nat := do
  let number := truncated (-greatest) greatest value.toFloat
  if number < 0 then fault ("negative field index $" ++ toString number)
  else return number.toNat

def field (number : Nat) : Running Value := do
  if number = 0 then recordValue
  else
    divide
    return ((← get).fields[number - 1]?).getD .blank

def resized (fields : Array Value) (count : Nat) : Array Value :=
  if count ≤ fields.size then fields.extract 0 count
  else fields ++ Array.replicate (count - fields.size) (Value.text "")

def setField (number : Nat) (value : Value) : Running Unit := do
  if number = 0 then setRecord (← textOf value)
  else
    divide
    modify fun machine =>
      let fields := if machine.fields.size < number then resized machine.fields number else machine.fields
      { machine with fields := fields.setIfInBounds (number - 1) value, stale := true }

def valueOf (name : String) : Running Value := do
  if name = "NF" then
    divide
    return .ofNat (← get).fields.size
  else
    let start ← cellOf name
    let machine ← get
    match machine.cells[rootOf machine.cells maxLinks start]? with
    | some (.scalar value) => return value
    | some (.table _) => fault ("reference to array " ++ name ++ " as a scalar")
    | _ => return .blank

def setVariable (name : String) (value : Value) : Running Unit := do
  if name = "NF" then
    divide
    let count ← fieldNumber value
    modify fun machine => { machine with fields := resized machine.fields count, stale := true }
  else
    let index ← cellOf name
    match (← get).cells[index]? with
    | some (.table _) => fault ("reference to array " ++ name ++ " as a scalar")
    | _ => modify fun machine => { machine with cells := machine.cells.setIfInBounds index (.scalar value) }

def countUp (name : String) : Running Unit := do
  setGlobal name (.number ((← globalValue name).toFloat + 1))

def flushSink (sink : Sink) : Running Sink := do
  if sink.buffer.isEmpty then return sink
  else
    let _ ← perform (lift (Process.write sink.channel sink.buffer))
    return { sink with buffer := .empty }

def flushAll : Running Unit := do
  perform flush
  let mut sinks := []
  for (key, sink) in (← get).sinks do
    sinks := sinks ++ [(key, ← flushSink sink)]
  modify fun machine => { machine with sinks }

def freeChannel : Running Nat :=
  modifyGet fun machine => (machine.nextChannel, { machine with nextChannel := machine.nextChannel + 1 })

def startShell (become : Become) (called : String) (command : String) (channels : Channels → Channels) :
    Running Nat := do
  perform (do
    let environment := (← get).call.environment
    lift (Process.fork do
      Process.ask (.setChannels (channels (← Process.ask .channels)))
      let _ ← Program.becomeFirst become { name := called, arguments := ["-c", command], environment } .notFound
        ["/bin/sh"]
      return 127))

def openSink (become : Become) (direction : Direction) (key : String) : Running Sink := do
  let channel ← freeChannel
  match direction with
  | .pipe =>
    flushAll
    let (reader, writer) ← perform (ask .pipe)
    let before ← perform (ask .channels)
    perform (ask (.setChannels (before.put channel writer)))
    let child ← startShell become "/bin/sh" key fun channels => channels.put 0 reader
    return { channel, child := some child }
  | _ =>
    let mode := if direction = .append then OpenMode.append else .write
    match ← perform (ask (.openFile (path key) mode channel)) with
    | .ok () => return { channel }
    | .error problem => refuse ("cannot open " ++ key ++ " for output (" ++ problem.message ++ ")")

def writeTo (become : Become) (direction : Direction) (key : String) (text : List Char) : Running Unit := do
  if direction ≠ .pipe ∧ (key = "/dev/stdout" ∨ key = "-") then perform (emit text)
  else if direction ≠ .pipe ∧ key = "/dev/stderr" then perform (Utility.say (String.ofList text))
  else
    let sink ← match (← get).sinks.lookup key with
      | some sink => pure sink
      | none => openSink become direction key
    let fuller := { sink with buffer := sink.buffer ++ Octets.bytes text }
    let kept ← if bufferSize ≤ fuller.buffer.size then flushSink fuller else pure fuller
    modify fun machine =>
      { machine with
        sinks := if machine.sinks.any (·.1 = key) then
            machine.sinks.map fun item => if item.1 = key then (key, kept) else item
          else machine.sinks ++ [(key, kept)] }

def statusOf : Ending → Nat
  | .code status => status
  | .signal number => 256 + number

def roundTime : Nat := 1

def passTime : Running Unit := perform (ask (.pause roundTime))

def dropChannel (channel : Nat) : Running Unit :=
  perform (do ask (.setChannels ((← ask .channels).drop channel)))

def awaitChild (child : Nat) : Running Nat := do
  return statusOf (← perform (awaitNumber child Process.manySteps))

def closeSink (sink : Sink) : Running Nat := do
  let sink ← flushSink sink
  dropChannel sink.channel
  match sink.child with
  | some child => awaitChild child
  | none => return 0

def close (key : String) : Running Value := do
  let machine ← get
  let sink? := machine.sinks.lookup key
  let stream? := machine.streams.lookup key
  set { machine with
    sinks := machine.sinks.filter (·.1 ≠ key), streams := machine.streams.filter (·.1 ≠ key) }
  let written ← match sink? with
    | some sink => do pure (some (← closeSink sink))
    | none => pure none
  let read ← match stream? with
    | some stream =>
      match stream.channel with
      | some channel => dropChannel channel
      | none => pure ()
      match stream.child with
      | some child => do pure (some (← awaitChild child))
      | none => pure (some 0)
    | none => pure none
  match written.orElse fun _ => read with
  | some status => return .ofNat status
  | none => return .number (-1)

def system (become : Become) (command : String) : Running Value := do
  flushAll
  let child ← startShell become "sh" command id
  return .ofNat (← awaitChild child)

def recordEnd : Running RecordEnd := do
  match (← globalText "RS").toList with
  | [] => return .paragraph
  | [c] => return .char c
  | letters => return .fitting (← patternOf (String.ofList letters))

def chunkSize : Nat := 4096

/-- Reads on until a stream holds a whole record; the number bounds how often. -/
def fill (recordEnd : RecordEnd) : Nat → Stream → Running Stream
  | 0, stream => return stream
  | fuel + 1, stream => do
    let complete := match recordEnd with
      | .char c => stream.rest.contains c
      | _ => false
    match stream.channel with
    | none => return stream
    | some channel =>
      if complete then return stream
      else
        match ← perform (ask (.read channel chunkSize)) with
        | .error problem => refuse ("read error (" ++ problem.message ++ ")")
        | .ok piece =>
          if piece.isEmpty then
            if channel ≠ 0 then dropChannel channel
            return { stream with channel := none }
          else fill recordEnd fuel { stream with rest := stream.rest ++ Octets.chars piece }

def nextOf (stream : Stream) : Running (Option String × Stream) := do
  let recordEnd ← recordEnd
  let full ← fill recordEnd 100000000 stream
  match recordEnd.next? full.rest with
  | some (record, rest) => return (some (String.ofList record), { full with rest })
  | none => return (none, { full with rest := [] })

def openStream (file : String) : Running (Except FileFault Stream) := do
  if file = "-" ∨ file = "/dev/stdin" then return .ok { channel := some 0 }
  else
    let channel ← freeChannel
    match ← perform (ask (.openFile (path file) .read channel)) with
    | .ok () => return .ok { channel := some channel }
    | .error problem => return .error problem

def openCommand (become : Become) (command : String) : Running Stream := do
  flushAll
  let channel ← freeChannel
  let (reader, writer) ← perform (ask .pipe)
  let before ← perform (ask .channels)
  perform (ask (.setChannels (before.put channel reader)))
  let child ← startShell become "/bin/sh" command fun channels => channels.put 1 writer
  return { channel := some channel, child := some child }

def assignment? (text : String) : Option (String × String) :=
  let letters := text.toList
  let name := letters.takeWhile Token.isNameChar
  match name, letters.drop name.length with
  | c :: _, '=' :: value =>
    if Token.isNameStart c then some (String.ofList name, String.ofList value) else none
  | _, _ => none

def unescaped : Nat → List Char → List Char
  | 0, _ => []
  | _, [] => []
  | fuel + 1, '\\' :: c :: rest =>
    if c = '"' ∨ c = '\\' ∨ c = '/' then c :: unescaped fuel rest
    else
      match Pattern.escaped (c :: rest) with
      | some (meant, left) => meant :: unescaped fuel left
      | none => '\\' :: c :: unescaped fuel rest
  | fuel + 1, c :: rest => c :: unescaped fuel rest

def assign (name value : String) : Running Unit :=
  setVariable name (.ofInput (String.ofList (unescaped (value.length + 1) value.toList)))

def nextRecord : Nat → Running (Option String)
  | 0 => return none
  | fuel + 1 => do
    match (← get).input with
    | .finished => return none
    | .inside argument stream =>
      let (record?, after) ← nextOf stream
      match record? with
      | some record =>
        modify fun machine => { machine with input := .inside argument after }
        countUp "NR"
        countUp "FNR"
        return some record
      | none =>
        modify fun machine => { machine with input := .between (argument + 1) true }
        nextRecord fuel
    | .between argument found =>
      let count := truncated 0 greatest (← globalValue "ARGC").toFloat
      if count ≤ (argument : Int) then
        if found then
          modify fun machine => { machine with input := .finished }
          return none
        else
          modify fun machine => { machine with input := .inside argument { channel := some 0 } }
          nextRecord fuel
      else
        let index := toString argument
        let given ← withTable "ARGV" fun table =>
          if table.contains index then (table.get index) else (.blank, table)
        let file ← textOf given
        match assignment? file with
        | some (name, value) =>
          assign name value
          modify fun machine => { machine with input := .between (argument + 1) found }
          nextRecord fuel
        | none =>
          if file = "" then
            modify fun machine => { machine with input := .between (argument + 1) found }
            nextRecord fuel
          else
            match ← openStream file with
            | .error problem => refuse ("cannot open " ++ file ++ " (" ++ problem.message ++ ")")
            | .ok stream =>
              setGlobal "FILENAME" (.text file)
              setGlobal "FNR" (.number 0)
              modify fun machine => { machine with input := .inside argument stream }
              nextRecord fuel

def manyFiles : Nat := 1000000

def skipFile : Running Unit :=
  modify fun machine =>
    match machine.input with
    | .inside argument _ => { machine with input := .between (argument + 1) true }
    | _ => machine

end Running

end Assay.Utility.Records
