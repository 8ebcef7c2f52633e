import Assay.Utility.Records.Machine

/-!
Carrying out programs that work on records.
-/

namespace Assay.Utility.Records

inductive Flow
  | onward
  | leave
  | again
  | giveBack (value : Value)

namespace Running

def Arithmetic.of (operation : Arithmetic) (left right : Float) : Float :=
  match operation with
  | .add => left + right
  | .subtract => left - right
  | .multiply => left * right
  | .divide => left / right
  | .remainder =>
    if right == 0 then Text.notANumber
    else if right.isInf then left
    else
      let (a, b) := (exactOf left, exactOf right)
      -- both magnitudes as whole numbers of one unit
      let unit := a.ratio.2 * b.ratio.2
      let rest := (a.ratio.1 * b.ratio.2) % (b.ratio.1 * a.ratio.2)
      let size := exactFloat (Binary64.ofRatio false rest unit)
      if left < 0 then -size else size
  | .power => Float.pow left right
where
  exactFloat (x : Binary64) : Float :=
    Float.scaleB (Float.ofScientific x.mantissa false 0) x.exponent

def Relation.holds (relation : Relation) (order : Ordering) : Bool :=
  match relation with
  | .less => order = .lt
  | .atMost => order ≠ .gt
  | .equal => order = .eq
  | .unequal => order ≠ .eq
  | .more => order = .gt
  | .atLeast => order ≠ .lt

def Relation.holdsOf (relation : Relation) (left right : Float) : Bool :=
  match relation with
  | .less => left < right
  | .atMost => left ≤ right
  | .equal => left == right
  | .unequal => left != right
  | .more => right < left
  | .atLeast => right ≤ left

def related (relation : Relation) (left right : Value) : Running Bool := do
  match left, right with
  | .text _, _ | _, .text _ =>
    let a ← textOf left
    let b ← textOf right
    return Relation.holds relation (compare a b)
  | _, _ => return Relation.holdsOf relation left.toFloat right.toFloat

def part (text : String) (start : Float) (size : Option Float) : String :=
  let first := truncated (-greatest) greatest start
  let count := match size with
    | some size => truncated (-greatest) greatest size
    | none => greatest
  let (place, wanted) := if first ≤ 0 then (1, count - first) else (first, count)
  String.ofList ((text.toList.drop (place - 1).toNat).take wanted.toNat)

def placeIn (piece : List Char) : Nat → List Char → Nat
  | place, [] => if piece.isEmpty then place else 0
  | place, c :: rest => if piece.isPrefixOf (c :: rest) then place else placeIn piece (place + 1) rest

def nextChance (chance : Nat) : Nat := (chance * 6364136223846793005 + 1442695040888963407) % 18446744073709551616

def number (x : Float) : Value := .number x

def ownValue (become : Become) (function : String) (values : List Value) : Running Value := do
  let first := values.headD .blank
  let x := first.toFloat
  match function with
  | "length" =>
    let text ← if values.isEmpty then do textOf (← recordValue) else textOf first
    return .ofNat text.length
  | "substr" =>
    return .text (part (← textOf first) ((values[1]?).getD Value.blank).toFloat ((values[2]?).map Value.toFloat))
  | "index" =>
    let text ← textOf first
    return .ofNat (placeIn (← textOf ((values[1]?).getD .blank)).toList 1 text.toList)
  | "sprintf" =>
    let form ← textOf first
    let shown := numberText (← conversion)
    let (text, problem) := formatted (fun value => match value with
      | .number y => shown y
      | other => other.toText "%.6g") form (values.drop 1)
    match problem with
    | some problem => fault ((problem.message form).replace "printf(" "sprintf(")
    | none => return .text (String.ofList text)
  | "sin" => return number x.sin
  | "cos" => return number x.cos
  | "atan2" => return number (Float.atan2 x ((values[1]?).getD Value.blank).toFloat)
  | "exp" => return number x.exp
  | "log" => return number x.log
  | "sqrt" => return number x.sqrt
  | "int" => return number (if x < 0 then x.ceil else x.floor)
  | "rand" =>
    modifyGet fun machine =>
      let chance := nextChance machine.chance
      (number (Text.floatOfNat (chance / 8589934592) / 2147483648.0), { machine with chance })
  | "srand" =>
    let seed ← if values.isEmpty then perform (ask .clock) else pure (truncated 0 greatest x).toNat
    modifyGet fun machine => (.ofNat machine.seed, { machine with seed, chance := seed })
  | "tolower" => return .text (String.ofList ((← textOf first).toList.map Char.toLower))
  | "toupper" => return .text (String.ofList ((← textOf first).toList.map Char.toUpper))
  | "system" => system become (← textOf first)
  | "close" => close (← textOf first)
  | "systime" => return .ofNat ((← perform (ask .clock)) / 1000000)
  | _ =>
    flushAll
    return .ofNat 0

inductive Target
  | named (name : String)
  | field (number : Nat)
  | item (array index : String)

def Target.value : Target → Running Value
  | named name => valueOf name
  | field number => Running.field number
  | item array index => withTable array fun table => table.get index

def Target.give (value : Value) : Target → Running Unit
  | named name => setVariable name value
  | field number => setField number value
  | item array index => changeTable array fun table => table.put index value

mutual

/-- The value of an expression. The number bounds how deep the work goes. -/
def evaluate (become : Become) : Nat → Expression → Running Value
  | 0, _ => fault "function call nesting too deep"
  | fuel + 1, expression => do
    let value := evaluate become fuel
    match expression with
    | .number x => return .number x
    | .text content => return .text content
    | .pattern pattern => return .ofBool (pattern.fits (← textOf (← recordValue)))
    | .value place => (← target become fuel place).value
    | .assign place source =>
      let given ← value source
      let target ← target become fuel place
      let kept := match given with
        | .blank => Value.blank
        | other => other
      target.give kept
      return kept
    | .update operation place source =>
      let change ← value source
      let target ← target become fuel place
      let result := Value.number (Arithmetic.of operation (← target.value).toFloat change.toFloat)
      target.give result
      return result
    | .step up before place =>
      let target ← target become fuel place
      let old := (← target.value).toFloat
      let new := if up then old + 1 else old - 1
      target.give (.number new)
      return .number (if before then old else new)
    | .negative operand => return .number (-(← value operand).toFloat)
    | .positive operand => return .number (← value operand).toFloat
    | .negation operand => return .ofBool !(← value operand).isTrue
    | .arithmetic operation left right =>
      let first := (← value left).toFloat
      let second := (← value right).toFloat
      return .number (Arithmetic.of operation first second)
    | .compare relation left right =>
      let first ← value left
      let second ← value right
      return .ofBool (← related relation first second)
    | .fits wanted subject pattern =>
      let text ← textOf (← value subject)
      let pattern ← match pattern with
        | .pattern fixed => pure fixed
        | other => do patternOf (← textOf (← value other))
      return .ofBool (pattern.fits text = wanted)
    | .both left right =>
      if (← value left).isTrue then return .ofBool (← value right).isTrue else return .ofBool false
    | .either left right =>
      if (← value left).isTrue then return .ofBool true else return .ofBool (← value right).isTrue
    | .choice condition first second =>
      if (← value condition).isTrue then value first else value second
    | .joined left right =>
      let first ← textOf (← value left)
      let second ← textOf (← value right)
      return .text (first ++ second)
    | .member indices array =>
      let index ← indexText (← values become fuel indices)
      return .ofBool (← withTable array fun table => (table.contains index, table))
    | .call function arguments => call become fuel function arguments
    | .own function arguments => ownCall become fuel function arguments
    | .read origin place => readRecord become fuel origin place
    | .group [only] => value only
    | .group members =>
      let found ← values become fuel members
      return (found.getLast?).getD .blank

def values (become : Become) : Nat → List Expression → Running (List Value)
  | 0, _ => return []
  | _, [] => return []
  | fuel + 1, first :: rest => do
    let value ← evaluate become fuel first
    return value :: (← values become fuel rest)

def target (become : Become) : Nat → Place → Running Target
  | 0, _ => fault "function call nesting too deep"
  | _, .named name => return .named name
  | fuel + 1, .field index => do return .field (← fieldNumber (← evaluate become fuel index))
  | fuel + 1, .item array indices => do return .item array (← indexText (← values become fuel indices))

/-- Calls a function of the program. Arrays are handed over themselves, other things by their values. -/
def call (become : Become) : Nat → String → List Expression → Running Value
  | 0, _, _ => fault "function call nesting too deep"
  | fuel + 1, name, arguments => do
    match (← get).functions[name]? with
    | none => fault ("function " ++ name ++ " never defined")
    | some function =>
      let given ← handed become fuel arguments
      let machine ← get
      let count := function.parameters.length
      let cells := given ++ List.replicate (count - given.length) Cell.unset
      let base := machine.cells.size
      let frame := (function.parameters.zip (List.range count)).map fun (name, place) => (name, base + place)
      set { machine with cells := machine.cells ++ cells.toArray, frame }
      let flow ← execute become fuel function.body
      modify fun after => { after with frame := machine.frame, cells := after.cells.shrink base }
      match flow with
      | .giveBack value => return value
      | _ => return .blank

def handed (become : Become) : Nat → List Expression → Running (List Cell)
  | 0, _ => return []
  | _, [] => return []
  | fuel + 1, argument :: rest => do
    let cell ← match argument with
      | .value (.named name) =>
        if name = "NF" then do pure (.scalar (← valueOf name))
        else do
          let start ← cellOf name
          let machine ← get
          let index := rootOf machine.cells maxLinks start
          match machine.cells[index]? with
          | some (.scalar value) => pure (Cell.scalar value)
          | _ => pure (.link index)
      | other => do pure (.scalar (← evaluate become fuel other))
    return cell :: (← handed become fuel rest)

def ownCall (become : Become) : Nat → String → List Expression → Running Value
  | 0, _, _ => fault "function call nesting too deep"
  | fuel + 1, function, arguments => do
    let pattern := fun (expression : Expression) => do
      match expression with
      | .pattern fixed => return fixed
      | other => patternOf (← textOf (← evaluate become fuel other))
    match function, arguments with
    | "length", [.value (.named name)] =>
      let start ← cellOf name
      let machine ← get
      match machine.cells[rootOf machine.cells maxLinks start]? with
      | some (.table table) => return .ofNat table.size
      | _ => ownValue become function [← valueOf name]
    | "split", text :: .value (.named array) :: separators =>
      let subject ← textOf (← evaluate become fuel text)
      let separator ← match separators with
        | .pattern fixed :: _ => pure (Separator.fitting fixed)
        | other :: _ => do separatorOf (← textOf (← evaluate become fuel other))
        | [] => do separatorOf (← globalText "FS")
      let fields := (separator.fields subject.toList).map fun field => Value.ofInput (String.ofList field)
      changeTable array fun _ => Table.ofList fields
      return .ofNat fields.length
    | "match", [text, expression] =>
      let subject ← textOf (← evaluate become fuel text)
      let found := (← pattern expression).find? subject.toList.toArray 0
      let (start, size) : Nat × Float := match found with
        | some (first, stop) => (first + 1, Text.floatOfNat (stop - first))
        | none => (0, -1)
      setGlobal "RSTART" (.ofNat start)
      setGlobal "RLENGTH" (.number size)
      return .ofNat start
    | _, expression :: filling :: rest =>
      if function = "sub" ∨ function = "gsub" then
        let wanted ← pattern expression
        let text ← textOf (← evaluate become fuel filling)
        let target ← match rest with
          | .value place :: _ => target become fuel place
          | _ => pure (.field 0)
        let subject ← match rest with
          | [] | .value _ :: _ => do textOf (← target.value)
          | other :: _ => do textOf (← evaluate become fuel other)
        let (result, count) := substitute wanted text.toList subject.toList
          (if function = "sub" then 1 else subject.length + 1)
        let writable := match rest with
          | [] | .value _ :: _ => true
          | _ => false
        if 0 < count && writable then target.give (.text (String.ofList result))
        return .ofNat count
      else ownValue become function (← values become fuel arguments)
    | _, _ => ownValue become function (← values become fuel arguments)

/-- Reads a record for an expression: one if there was one, zero at the end, and minus one if nothing can be
read. -/
def readRecord (become : Become) : Nat → Origin → Option Place → Running Value
  | 0, _, _ => fault "function call nesting too deep"
  | fuel + 1, origin, place => do
    let give := fun (record : String) => do
      match place with
      | none => setRecord record
      | some place => (← target become fuel place).give (.ofInput record)
    let fromStream := fun (key : String) (stream : Stream) => do
      let (record?, after) ← nextOf stream
      modify fun machine =>
        { machine with streams := (key, after) :: machine.streams.filter (·.1 ≠ key) }
      match record? with
      | some record =>
        give record
        return Value.ofNat 1
      | none => return .ofNat 0
    match origin with
    | .input =>
      match ← nextRecord manyFiles with
      | some record =>
        give record
        return .ofNat 1
      | none => return .ofNat 0
    | .file name =>
      let file ← textOf (← evaluate become fuel name)
      match (← get).streams.lookup file with
      | some stream => fromStream file stream
      | none =>
        match ← openStream file with
        | .error _ => return .number (-1)
        | .ok stream => fromStream file stream
    | .command line =>
      let command ← textOf (← evaluate become fuel line)
      match (← get).streams.lookup command with
      | some stream => fromStream command stream
      | none => fromStream command (← openCommand become command)

def execute (become : Become) : Nat → Statement → Running Flow
  | 0, _ => fault "function call nesting too deep"
  | fuel + 1, statement => do
    let value := evaluate become fuel
    let send := fun (destination : Option (Direction × Expression)) (text : List Char) => do
      match destination with
      | none => perform (emit text)
      | some (direction, name) => writeTo become direction (← textOf (← value name)) text
    match statement with
    | .block statements => executeAll become fuel statements
    | .evaluate expression =>
      let _ ← value expression
      return .onward
    | .print expressions destination =>
      let found ← if expressions.isEmpty then do pure [← recordValue] else values become fuel expressions
      let form ← globalText "OFMT"
      let texts := found.map fun item => match item with
        | .number x => numberText form x
        | other => other.toText form
      let line := (← globalText "OFS").intercalate texts ++ (← globalText "ORS")
      send destination line.toList
      return .onward
    | .printf expressions destination =>
      let found ← values become fuel expressions
      let form ← textOf (found.headD .blank)
      let shown := numberText (← conversion)
      let (text, problem) := formatted (fun item => match item with
        | .number x => shown x
        | other => other.toText "%.6g") form (found.drop 1)
      send destination text
      match problem with
      | some problem => fault (problem.message form)
      | none => return .onward
    | .choose condition first second =>
      if (← value condition).isTrue then execute become fuel first
      else
        match second with
        | some other => execute become fuel other
        | none => return .onward
    | .repeatWhile condition body =>
      if (← value condition).isTrue then
        match ← execute become fuel body with
        | .leave => return .onward
        | .giveBack result => return .giveBack result
        | _ =>
          passTime
          execute become fuel (.repeatWhile condition body)
      else return .onward
    | .doWhile body condition =>
      match ← execute become fuel body with
      | .leave => return .onward
      | .giveBack result => return .giveBack result
      | _ =>
        passTime
        if (← value condition).isTrue then execute become fuel (.doWhile body condition) else return .onward
    | .loop start condition step body =>
      match start with
      | some first =>
        let _ ← execute become fuel first
        execute become fuel (.loop none condition step body)
      | none =>
        let goes ← match condition with
          | some test => do pure (← value test).isTrue
          | none => pure true
        if !goes then return .onward
        else
          match ← execute become fuel body with
          | .leave => return .onward
          | .giveBack result => return .giveBack result
          | _ =>
            match step with
            | some other =>
              let _ ← execute become fuel other
            | none => pure ()
            passTime
            execute become fuel (.loop none condition step body)
    | .forEach name array body =>
      let indices ← withTable array fun table => (table.indices, table)
      executeEach become fuel name body indices
    | .next => throw .next
    | .nextFile => throw .nextFile
    | .exit status =>
      match status with
      | some expression =>
        let status := truncated (-greatest) greatest (← value expression).toFloat
        throw (.exit (some (status % 256).toNat))
      | none => throw (.exit none)
    | .giveBack result =>
      match result with
      | some expression => return .giveBack (← value expression)
      | none => return .giveBack .blank
    | .leave => return .leave
    | .again => return .again
    | .delete array indices =>
      match indices with
      | none => changeTable array fun _ => {}
      | some found =>
        let index ← indexText (← values become fuel found)
        changeTable array fun table => table.erase index
      return .onward

def executeAll (become : Become) : Nat → List Statement → Running Flow
  | 0, _ => fault "function call nesting too deep"
  | _, [] => return .onward
  | fuel + 1, first :: rest => do
    match ← execute become fuel first with
    | .onward => executeAll become fuel rest
    | other => return other

def executeEach (become : Become) : Nat → String → Statement → List String → Running Flow
  | 0, _, _, _ => fault "function call nesting too deep"
  | _, _, _, [] => return .onward
  | fuel + 1, name, body, index :: rest => do
    setVariable name (.text index)
    match ← execute become fuel body with
    | .leave => return .onward
    | .giveBack result => return .giveBack result
    | _ => executeEach become fuel name body rest

end

def effort : Nat := 1000000000

def act (become : Become) (rule : Rule) : Running Unit := do
  let _ ← execute become effort (rule.action.getD (.print [] none))

def actAll (become : Become) (rules : List Rule) : Running Unit := do
  for rule in rules do act become rule

def concerns (become : Become) (number : Nat) (rule : Rule) : Running Bool := do
  let holds := fun (expression : Expression) => do return (← evaluate become effort expression).isTrue
  match rule.trigger with
  | .always => return true
  | .when condition => holds condition
  | .between first last =>
    let inside := (← get).within.contains number
    if inside || (← holds first) then
      let finished ← holds last
      modify fun machine =>
        let others := machine.within.filter (· ≠ number)
        { machine with within := if finished then others else number :: others }
      return true
    else return false
  | _ => return false

def treat (become : Become) (rules : List Rule) : Running Unit := do
  for (number, rule) in (List.range rules.length).zip rules do
    if ← concerns become number rule then act become rule

/-- Goes through the records of the input. The number bounds them. -/
def treatAll (become : Become) (rules : List Rule) : Nat → Running Unit
  | 0 => return
  | fuel + 1 => do
    match ← nextRecord manyFiles with
    | none => return
    | some record =>
      setRecord record
      try treat become rules
      catch unwind =>
        match unwind with
        | .next => pure ()
        | .nextFile => skipFile
        | other => throw other
      treatAll become rules fuel

def isAtStart (rule : Rule) : Bool :=
  match rule.trigger with
  | .atStart => true
  | _ => false

def isAtEnd (rule : Rule) : Bool :=
  match rule.trigger with
  | .atEnd => true
  | _ => false

/-- Carries out a part of a program up to its end, or up to an exit with this status. What is told is the status
so far. -/
def upToExit (status : Nat) (part : Running Unit) : Running Nat := do
  try
    part
    return status
  catch unwind =>
    match unwind with
    | .exit given => return given.getD status
    | .fatal status => throw (.fatal status)
    | _ => return status

def finish : Running Unit := do
  for (_, sink) in (← get).sinks do
    let _ ← closeSink sink
  modify fun machine => { machine with sinks := [] }

def runRules (become : Become) (rules : List Rule) : Running Nat := do
  let starts := rules.filter isAtStart
  let ends := rules.filter isAtEnd
  let others := rules.filter fun rule => !isAtStart rule && !isAtEnd rule
  let status ← upToExit 0 (do
    actAll become starts
    if !(others.isEmpty && ends.isEmpty) then treatAll become others effort)
  upToExit status (actAll become ends)

def run (become : Become) (rules : List Rule) : Running Nat := do
  let status ← try runRules become rules
    catch unwind =>
      match unwind with
      | .fatal status => pure status
      | _ => pure 0
  finish
  return status

end Running

end Assay.Utility.Records
