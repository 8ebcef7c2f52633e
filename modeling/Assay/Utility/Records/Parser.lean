import Assay.Utility.Records.Grammar
import Assay.Utility.Records.Tokens

/-!
Reading programs that work on records out of their tokens.
-/

namespace Assay.Utility.Records

structure Reader where
  rest : List Lexeme
  functions : List (String × Nat) := []
  /-- The calls of functions: how many arguments they have, and the lines on which they end. -/
  calls : List (String × Nat × Nat) := []
  kinds : List (String × Bool) := []
  parameters : List String := []
  depth : Token.Depth := {}
  inLoop : Bool := false
  inFunction : Bool := false
  forRecords : Bool := false

abbrev Reading (α : Type) := StateT Reader (Except (List String)) α

namespace Reading

def here : Reading Lexeme := do return ((← get).rest.head?).getD { token := .finish, line := 1 }

def peek : Reading Token := do return (← here).token

def second : Reading Token := do
  return (((← get).rest[1]?).map Lexeme.token).getD .finish

def counted (depth : Token.Depth) (token : Token) : Token.Depth :=
  match token with
  | .sign "(" => { depth with rounds := depth.rounds + 1 }
  | .sign ")" => { depth with rounds := depth.rounds - 1 }
  | .sign "\x7b" => { depth with curlies := depth.curlies + 1 }
  | .sign "\x7d" => { depth with curlies := depth.curlies - 1 }
  | _ => depth

def advance : Reading Unit :=
  modify fun reader =>
    match reader.rest with
    | lexeme :: rest => { reader with rest, depth := counted reader.depth lexeme.token }
    | [] => reader

def remark (message : String) : Reading String := do
  return "line " ++ toString (← here).line ++ ": " ++ message

def refuse {α : Type} (message : String) : Reading α := do throw [← remark message]

/-- The token at hand does not belong there. Curly brackets that are never closed are told about, too. -/
def unexpected {α : Type} : Reading α := do
  let reader ← get
  let token ← peek
  let final := (reader.rest.getLast?.map Lexeme.line).getD 1
  let missing := "line " ++ toString final ++ ": missing \x7d near end of file"
  let leftOpen := 0 < (reader.rest.foldl (fun depth lexeme => counted depth lexeme.token) reader.depth).curlies
  match token with
  | .bad messages => throw messages
  | .finish => throw [missing]
  | _ =>
    let ends := [Token.newline, .sign ";", .sign "\x7d"].contains token
    let first ← remark ((if 0 < reader.depth.rounds && ends then "missing ) near " else "syntax error at or near ")
      ++ token.shown)
    throw (if leftOpen then [first, missing] else [first])

def isNext (sign : String) : Reading Bool := do return (← peek) == .sign sign

def take? (sign : String) : Reading Bool := do
  if ← isNext sign then
    advance
    return true
  else return false

def expect (sign : String) : Reading Unit := do
  if !(← take? sign) then unexpected

def skipNewlines : Nat → Reading Unit
  | 0 => return
  | fuel + 1 => do
    if (← peek) == .newline then
      advance
      skipNewlines fuel

def manyLines : Nat := 100000

def newlines : Reading Unit := skipNewlines manyLines

def expectName : Reading String := do
  match ← peek with
  | .word name =>
    advance
    return name
  | _ => unexpected

structure Setting where
  printed : Bool := false

abbrev Inner := Setting → Reading Expression

def listFrom (inner : Inner) (setting : Setting) : Nat → Reading (List Expression)
  | 0 => unexpected
  | fuel + 1 => do
    let first ← inner setting
    if ← take? "," then
      newlines
      return first :: (← listFrom inner setting fuel)
    else return [first]

def list (inner : Inner) (setting : Setting := {}) : Reading (List Expression) :=
  listFrom inner setting manyLines

def arguments (inner : Inner) : Reading (List Expression) := do
  expect "("
  if ← take? ")" then return []
  else
    let found ← list inner
    expect ")"
    return found

/-- Notes what a name is used for; it has to be the same everywhere. -/
def note (name : String) (isArray : Bool) : Reading Unit := do
  let reader ← get
  if !reader.parameters.contains name then
    match reader.kinds.lookup name with
    | none => set { reader with kinds := (name, isArray) :: reader.kinds }
    | some known =>
      if known ≠ isArray then
        refuse ("illegal reference to " ++ (if known then "array " else "variable ") ++ name)

def bareName? : Reading (Option Expression) := do
  match ← peek, ← second with
  | .word name, .sign sign =>
    if sign = "," ∨ sign = ")" then
      advance
      return some (.value (.named name))
    else return none
  | _, _ => return none

def openArguments (inner : Inner) : Reading (List Expression) := do
  expect "("
  if ← take? ")" then return []
  else go manyLines
where
  go : Nat → Reading (List Expression)
    | 0 => unexpected
    | fuel + 1 => do
      let first ← match ← bareName? with
        | some name => pure name
        | none => inner {}
      if ← take? "," then
        newlines
        return first :: (← go fuel)
      else
        expect ")"
        return [first]

def namedPlace (inner : Inner) (name : String) : Reading Place := do
  if ← isNext "[" then
    note name true
    advance
    let indices ← list inner
    expect "]"
    return .item name indices
  else
    note name false
    return .named name

def patternOf (source : String) : Reading Pattern := do
  match Pattern.read source with
  | .ok pattern => return pattern
  | .error message => throw ["line " ++ toString (← here).line ++ ": " ++ message]

def ownCall (inner : Inner) (name : String) : Reading Expression := do
  advance
  if name = "length" && !(← isNext "(") then return .own name []
  else
    let found ← if name = "length" ∨ name = "split" then openArguments inner else arguments inner
    match name, found with
    | "split", _ :: .value (.named array) :: _ => note array true
    | "split", .value (.named text) :: _ => note text false
    | _, _ => pure ()
    let (least, most) := (Token.ownFunctions.lookup name).getD (0, 0)
    if found.length < least ∨ most < found.length then
      refuse ("wrong number of arguments in call to " ++ name)
    return .own name found

def userCall (inner : Inner) (name : String) : Reading Expression := do
  let found ← openArguments inner
  let line := (← here).line
  modify fun reader => { reader with calls := reader.calls ++ [(name, found.length, line)] }
  return .call name found

/-- An expression without operators around it. The number bounds signs in front of one another. -/
def primary (inner : Inner) (unary : Reading Expression) : Nat → Reading Expression
  | 0 => unexpected
  | fuel + 1 => do
    match ← peek with
    | .number source x =>
      if x.isInf then refuse (source ++ " : decimal overflow")
      advance
      return .number x
    | .quoted _ content =>
      advance
      return .text content
    | .pattern source =>
      let pattern ← patternOf source
      advance
      return .pattern pattern
    | .word name =>
      advance
      if ((← get).functions.lookup name).isSome then userCall inner name
      else return .value (← namedPlace inner name)
    | .applied name =>
      advance
      userCall inner name
    | .own name => ownCall inner name
    | .keyword "getline" =>
      advance
      let target ← target? fuel
      if ← take? "<" then return .read (.file (← primary inner unary fuel)) target
      else return .read .input target
    | .sign "(" =>
      advance
      let members ← list inner
      expect ")"
      return .group members
    | .sign "$" =>
      advance
      match ← peek with
      | .sign "-" | .sign "+" | .sign "!" => return .value (.field (← unary))
      | _ => return .value (.field (← primary inner unary fuel))
    | .sign "++" => stepped true fuel
    | .sign "--" => stepped false fuel
    | _ => unexpected
where
  stepped (up : Bool) (fuel : Nat) : Reading Expression := do
    advance
    match ← primary inner unary fuel with
    | .value place => return .step up false place
    | _ => unexpected
  target? (fuel : Nat) : Reading (Option Place) := do
    match ← peek with
    | .word _ | .sign "$" =>
      match ← primary inner unary fuel with
      | .value place => return some place
      | _ => unexpected
    | _ => return none

def updateOf? : String → Option Arithmetic
  | "+=" => some .add
  | "-=" => some .subtract
  | "*=" => some .multiply
  | "/=" => some .divide
  | "%=" => some .remainder
  | "^=" => some .power
  | _ => none

def postfixed (inner : Inner) (unary : Reading Expression) (setting : Setting) : Reading Expression := do
  let first ← primary inner unary 1000
  match first, ← peek with
  | .value place, .sign sign =>
    if sign = "++" ∨ sign = "--" then
      advance
      return .step (sign = "++") true place
    else if sign = "=" then
      advance
      newlines
      return .assign place (← inner setting)
    else
      match updateOf? sign with
      | some operation =>
        advance
        newlines
        return .update operation place (← inner setting)
      | none => return first
  | _, _ => return first

def unary (inner : Inner) (setting : Setting) : Nat → Reading Expression
  | 0 => unexpected
  | fuel + 1 => do
    let deeper := unary inner setting fuel
    match ← peek with
    | .sign "!" =>
      advance
      return .negation (← deeper)
    | .sign "-" =>
      advance
      return .negative (← deeper)
    | .sign "+" =>
      advance
      return .positive (← deeper)
    | _ =>
      let first ← postfixed inner deeper setting
      let powered ← if ← take? "^" then do
          pure (.arithmetic .power first (← deeper))
        else pure first
      piped fuel powered
where
  piped : Nat → Expression → Reading Expression
    | 0, line => return line
    | fuel + 1, line => do
      if !setting.printed && (← isNext "|") && (← second) == .keyword "getline" then
        advance
        advance
        let target ← match ← peek with
          | .word _ | .sign "$" => do
            match ← primary inner (unary inner setting fuel) 1000 with
            | .value place => pure (some place)
            | _ => unexpected
          | _ => pure none
        piped fuel (.read (.command line) target)
      else return line

def chain (operand : Reading Expression) (operation? : Token → Option (Expression → Expression → Expression)) :
    Reading Expression := do
  let first ← operand
  go manyLines first
where
  go : Nat → Expression → Reading Expression
    | 0, left => return left
    | fuel + 1, left => do
      match operation? (← peek) with
      | none => return left
      | some join =>
        advance
        go fuel (join left (← operand))

def product (inner : Inner) (setting : Setting) : Reading Expression :=
  chain (unary inner setting 1000) fun token =>
    match token with
    | .sign "*" => some (.arithmetic .multiply)
    | .sign "/" => some (.arithmetic .divide)
    | .sign "%" => some (.arithmetic .remainder)
    | _ => none

def total (inner : Inner) (setting : Setting) : Reading Expression :=
  chain (product inner setting) fun token =>
    match token with
    | .sign "+" => some (.arithmetic .add)
    | .sign "-" => some (.arithmetic .subtract)
    | _ => none

def beginsOperand : Token → Bool
  | .number .. | .quoted .. | .pattern _ | .word _ | .applied _ | .own _ => true
  | .sign text => ["$", "!", "(", "++", "--", "-", "+"].contains text
  | _ => false

def concatenation (inner : Inner) (setting : Setting) : Reading Expression := do
  go manyLines (← total inner setting)
where
  go : Nat → Expression → Reading Expression
    | 0, left => return left
    | fuel + 1, left => do
      if beginsOperand (← peek) then go fuel (.joined left (← total inner setting)) else return left

def comparison (inner : Inner) (setting : Setting) : Reading Expression :=
  chain (concatenation inner setting) fun token =>
    match token with
    | .sign "<" => some (.compare .less)
    | .sign "<=" => some (.compare .atMost)
    | .sign "==" => some (.compare .equal)
    | .sign "!=" => some (.compare .unequal)
    | .sign ">" => if setting.printed then none else some (.compare .more)
    | .sign ">=" => some (.compare .atLeast)
    | _ => none

def fitting (inner : Inner) (setting : Setting) : Reading Expression :=
  chain (comparison inner setting) fun token =>
    match token with
    | .sign "~" => some (.fits true)
    | .sign "!~" => some (.fits false)
    | _ => none

def membership (inner : Inner) (setting : Setting) : Reading Expression := do
  go manyLines (← fitting inner setting)
where
  go : Nat → Expression → Reading Expression
    | 0, left => return left
    | fuel + 1, left => do
      if (← peek) == .keyword "in" then
        advance
        let array ← expectName
        note array true
        let indices := match left with
          | .group members => members
          | other => [other]
        go fuel (.member indices array)
      else return left

def conjunction (inner : Inner) (setting : Setting) : Reading Expression := do
  let operand := do
    newlines
    membership inner setting
  let first ← membership inner setting
  go operand manyLines first
where
  go (operand : Reading Expression) : Nat → Expression → Reading Expression
    | 0, left => return left
    | fuel + 1, left => do
      if ← take? "&&" then go operand fuel (.both left (← operand)) else return left

def disjunction (inner : Inner) (setting : Setting) : Reading Expression := do
  go manyLines (← conjunction inner setting)
where
  go : Nat → Expression → Reading Expression
    | 0, left => return left
    | fuel + 1, left => do
      if ← take? "||" then
        newlines
        go fuel (.either left (← conjunction inner setting))
      else return left

/-- An expression; the number bounds how deep expressions stand in one another. -/
def expression : Nat → Inner
  | 0, _ => unexpected
  | fuel + 1, setting => do
    let condition ← disjunction (expression fuel) setting
    if ← take? "?" then
      newlines
      let first ← expression fuel setting
      newlines
      expect ":"
      newlines
      return .choice condition first (← expression fuel setting)
    else return condition

def nesting : Nat := 500

def anyExpression : Inner := expression nesting

def terminator : Reading Unit := do
  match ← peek with
  | .newline | .sign ";" =>
    advance
    newlines
  | .sign "\x7d" => return
  | _ => unexpected

def endsStatement (token : Token) : Bool :=
  [Token.newline, .sign ";", .sign "\x7d", .finish].contains token

def printing : Reading (List Expression × Option (Direction × Expression)) := do
  let token ← peek
  let redirects := [Token.sign ">", .sign ">>", .sign "|"].contains token
  let values ← if endsStatement token || redirects then pure [] else do
    match ← list anyExpression { printed := true } with
    | [.group members] => pure (if 1 < members.length then members else [.group members])
    | others => pure others
  let direction? := match ← peek with
    | .sign ">" => some Direction.replace
    | .sign ">>" => some .append
    | .sign "|" => some .pipe
    | _ => none
  match direction? with
  | none => return (values, none)
  | some direction =>
    advance
    return (values, some (direction, ← anyExpression { printed := true }))

def optionalExpression : Reading (Option Expression) := do
  if endsStatement (← peek) then return none else return some (← anyExpression {})

def simple : Reading Statement := do
  match ← peek with
  | .keyword "print" =>
    advance
    let (values, target) ← printing
    return .print values target
  | .keyword "printf" =>
    advance
    let (values, target) ← printing
    if values.isEmpty then refuse "no arguments in call to printf"
    return .printf values target
  | .keyword "next" =>
    if !(← get).forRecords then refuse "improper use of next"
    advance
    return .next
  | .keyword "nextfile" =>
    if !(← get).forRecords then refuse "improper use of nextfile"
    advance
    return .nextFile
  | .keyword "exit" =>
    advance
    return .exit (← optionalExpression)
  | .keyword "return" =>
    if !(← get).inFunction then refuse "return outside function body"
    advance
    return .giveBack (← optionalExpression)
  | .keyword "break" =>
    if !(← get).inLoop then refuse "break statement outside of loop"
    advance
    return .leave
  | .keyword "continue" =>
    if !(← get).inLoop then refuse "continue statement outside of loop"
    advance
    return .again
  | .keyword "delete" =>
    advance
    let name ← expectName
    note name true
    if ← take? "[" then
      let indices ← list anyExpression
      expect "]"
      return .delete name (some indices)
    else return .delete name none
  | _ => return .evaluate (← anyExpression {})

def looped (body : Reading Statement) : Reading Statement := do
  let before := (← get).inLoop
  modify fun reader => { reader with inLoop := true }
  let found ← body
  modify fun reader => { reader with inLoop := before }
  return found

def arrayHead? : Reading (Option (String × String)) := do
  match (← get).rest.take 4 |>.map Lexeme.token with
  | [.word name, .keyword "in", .word array, .sign ")"] =>
    advance
    advance
    advance
    note name false
    note array true
    advance
    return some (name, array)
  | _ => return none

/-- A statement; the number bounds how deep statements stand in one another. -/
def statement : Nat → Reading Statement
  | 0 => unexpected
  | fuel + 1 => do
    let condition : Reading Expression := do
      expect "("
      let found ← anyExpression {}
      expect ")"
      newlines
      return found
    match ← peek with
    | .sign "\x7b" => block fuel
    | .sign ";" =>
      advance
      newlines
      return .block []
    | .sign "\x7d" => return .block []
    | .keyword "if" =>
      advance
      let test ← condition
      let first ← statement fuel
      newlines
      if (← peek) == .keyword "else" then
        advance
        newlines
        return .choose test first (some (← statement fuel))
      else return .choose test first none
    | .keyword "while" =>
      advance
      let test ← condition
      return .repeatWhile test (← looped (statement fuel))
    | .keyword "do" =>
      advance
      newlines
      let body ← looped (statement fuel)
      newlines
      if (← peek) != .keyword "while" then unexpected
      advance
      expect "("
      let test ← anyExpression {}
      expect ")"
      terminator
      return .doWhile body test
    | .keyword "for" =>
      advance
      expect "("
      match ← arrayHead? with
      | some (name, array) =>
        newlines
        return .forEach name array (← looped (statement fuel))
      | none =>
        let start ← if ← isNext ";" then pure none else do pure (some (← simple))
        expect ";"
        newlines
        let test ← if ← isNext ";" then pure none else do pure (some (← anyExpression {}))
        expect ";"
        newlines
        let step ← if ← isNext ")" then pure none else do pure (some (← simple))
        expect ")"
        newlines
        return .loop start test step (← looped (statement fuel))
    | _ =>
      let found ← simple
      terminator
      return found
where
  block (fuel : Nat) : Reading Statement := do
    expect "\x7b"
    newlines
    let found ← statements fuel manyLines
    expect "\x7d"
    newlines
    return .block found
  statements (fuel : Nat) : Nat → Reading (List Statement)
    | 0 => return []
    | count + 1 => do
      match ← peek with
      | .sign "\x7d" => return []
      | .finish => unexpected
      | _ =>
        let first ← statement fuel
        newlines
        return first :: (← statements fuel count)

def action : Reading Statement := do
  if !(← isNext "\x7b") then unexpected
  statement nesting

def parameters : Nat → Reading (List String)
  | 0 => unexpected
  | fuel + 1 => do
    newlines
    let name ← expectName
    newlines
    if ← take? "," then
      let others ← parameters fuel
      if others.contains name then refuse (name ++ " is duplicated in argument list")
      return name :: others
    else return [name]

def function : Reading (String × Function) := do
  advance
  let name ← match ← peek with
    | .applied name | .word name => do
      advance
      pure name
    | _ => unexpected
  expect "("
  let found ← if ← isNext ")" then pure [] else parameters manyLines
  expect ")"
  newlines
  modify fun reader =>
    { reader with
      inFunction := true, forRecords := false, parameters := found
      functions := (name, found.length) :: reader.functions }
  let body ← action
  modify fun reader => { reader with inFunction := false, parameters := [] }
  return (name, { parameters := found, body })

def rule : Reading Rule := do
  let acting := fun (forRecords : Bool) => do
    modify fun reader => { reader with forRecords }
    action
  match ← peek with
  | .keyword "BEGIN" =>
    advance
    return { trigger := .atStart, action := some (← acting false) }
  | .keyword "END" =>
    advance
    return { trigger := .atEnd, action := some (← acting false) }
  | .sign "\x7b" => return { trigger := .always, action := some (← acting true) }
  | _ =>
    let first ← anyExpression {}
    let trigger ← if ← take? "," then do
        newlines
        pure (Trigger.between first (← anyExpression {}))
      else pure (.when first)
    match ← peek with
    | .sign "\x7b" => return { trigger, action := some (← acting true) }
    | .newline | .sign ";" => return { trigger, action := none }
    | _ => unexpected

def rules : Nat → Source → Reading Source
  | 0, source => return source
  | fuel + 1, source => do
    newlines
    match ← peek with
    | .finish => return source
    | .keyword "function" =>
      let found ← function
      newlines
      let _ ← take? ";"
      rules fuel { source with functions := source.functions ++ [found] }
    | _ =>
      let found ← rule
      newlines
      let _ ← take? ";"
      rules fuel { source with rules := source.rules ++ [found] }

end Reading

def Source.ofText (text : String) : Except (List String) (Source × List String) := do
  let lexemes := Token.ofText text
  let (source, reader) ← (Reading.rules Reading.manyLines {}).run { rest := lexemes }
  let final := (lexemes.getLast?.map Lexeme.line).getD 1
  let faults := reader.calls.filterMap fun (name, count, line) =>
    match reader.functions.lookup name with
    | none => some ("line " ++ toString final ++ ": function " ++ name ++ " never defined")
    | some most =>
      if most < count then some ("line " ++ toString line ++ ": too many arguments in call to " ++ name) else none
  match faults.head? with
  | some fault => throw [fault]
  | none =>
    let names := lexemes.filterMap fun lexeme => match lexeme.token with
      | .word name => some name
      | _ => none
    return (source, names.eraseDups)

end Assay.Utility.Records
