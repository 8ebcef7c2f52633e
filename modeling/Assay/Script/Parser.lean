import Assay.Script.Tokens

/-!
Reading commands. A script is read line by line, so that what stands on one line is done before the
next one is read.
-/

namespace Assay.Script

inductive Goal
  /-- Commands up to a token that ends them; there may be none only if the flag says so. -/
  | list (mayBeEmpty : Bool)
  | command
  | bracketed
  | whole

namespace Parser

open Reading

section

variable (self : Goal → Reading Command)

def inner : Inner where
  bracketed := self .bracketed
  whole := self .whole

def token (checks : Checks) : Reading Token := Tokens.read (inner self) checks limit

def starting (newLines : Bool) : Checks := { keywords := true, aliases := true, newLines }

def unexpected {α : Type} (expected : Option Token) : Reading α := do
  fail (.unexpected (← get).last expected)

def expectKeyword (checks : Checks) (text : String) : Reading Unit := do
  match ← token self checks with
  | .keyword found =>
    if found = text then return else unexpected (some (.keyword text))
  | _ => unexpected (some (.keyword text))

def isOperator (token : Token) (text : String) : Bool :=
  match token with
  | .operator found => found = text
  | _ => false

def expectOperator (text : String) : Reading Unit := do
  if isOperator (← token self {}) text then return else unexpected (some (.operator text))

def wordOf : Token → Word
  | .word parts => parts
  | .keyword text => [.text text.toList false]
  | other => [.text other.written.toList false]

def hasQuotes (word : Word) : Bool :=
  word.any fun part =>
    match part with
    | .text _ quoted => quoted
    | _ => false

def redirect (channel : Nat) (direction : Direction) (holder : String) : Reading Redirect := do
  match direction with
  | .document kind =>
    match ← token self { setting := .mark } with
    | .word parts =>
      let source ← get
      let mark := Words.markOf parts
      let waiting : Waiting :=
        { id := source.nextDocument, line := source.line, mark, indented := kind = 1, expands := !hasQuotes parts }
      set { source with waiting := source.waiting ++ [waiting], nextDocument := source.nextDocument + 1 }
      let shown := if waiting.expands then String.ofList mark else "'" ++ String.ofList mark ++ "'"
      return .mk channel (.document waiting.id) [] ((if waiting.indented then "-" else "") ++ shown) holder
    | _ => unexpected none
  | _ =>
    match ← token self {} with
    | .word parts => return .mk channel direction parts (← written) holder
    | _ => unexpected none

def redirects : Nat → List Redirect → Reading (List Redirect)
  | 0, taken => return taken.reverse
  | size + 1, taken => do
    match ← token self { keywords := true, aliases := true } with
    | .redirect channel direction holder =>
      redirects size ((← redirect self channel direction holder) :: taken)
    | _ =>
      Tokens.putBack
      return taken.reverse

/-- The parts of a word up to a closing bracket and an equals sign: an index, whether the value is
added, and the value. -/
def indexed (before : List Part) : List Part → Option (Word × Bool × Word)
  | [] => none
  | .text content false :: rest =>
    match closing [] content with
    | none => indexed (before ++ [.text content false]) rest
    | some (inside, adds, value) =>
      some (before ++ [.text inside false], adds, if value = [] then rest else .text value false :: rest)
  | part :: rest => indexed (before ++ [part]) rest
where
  closing (before : List Char) : List Char → Option (List Char × Bool × List Char)
    | ']' :: '=' :: value => some (before.reverse, false, value)
    | ']' :: '+' :: '=' :: value => some (before.reverse, true, value)
    | c :: rest => closing (c :: before) rest
    | [] => none

def assignment? (dialect : Dialect) : Word → Option Assignment
  | .text content false :: rest =>
    let name := content.takeWhile isNameChar
    let made := fun (adds : Bool) (value : List Char) =>
      some (Assignment.single (String.ofList name) [] adds
        (if value = [] then rest else .text value false :: rest))
    if isName name then
      match content.drop name.length, dialect with
      | '=' :: value, _ => made false value
      | '+' :: '=' :: value, .rich => made true value
      | '[' :: more, .rich =>
        (indexed [] (.text more false :: rest)).map fun (index, adds, value) =>
          .single (String.ofList name) index adds value
      | _, _ => none
    else none
  | _ => none

def members : Nat → List Assignment → List String → Reading (List Assignment × String)
  | 0, taken, shown => return (taken.reverse, " ".intercalate shown.reverse)
  | size + 1, taken, shown => do
    let found ← token self { newLines := true }
    let grown := (← written) :: shown
    match found with
    | .word (.text ('[' :: more) false :: rest) =>
      match indexed [] (.text more false :: rest) with
      | some (index, adds, value) => members size (.single "" index adds value :: taken) grown
      | none => members size (.single "" [] false (.text ('[' :: more) false :: rest) :: taken) grown
    | .word parts => members size (.single "" [] false parts :: taken) grown
    | other =>
      if isOperator other ")" then return (taken.reverse, " ".intercalate shown.reverse)
      else unexpected none

def listName? (word : Word) : Option (String × Bool) :=
  match word with
  | [.text content false] =>
    let name := content.takeWhile isNameChar
    if isName name then
      if content.drop name.length = ['='] then some (String.ofList name, false)
      else if content.drop name.length = ['+', '='] then some (String.ofList name, true)
      else none
    else none
  | _ => none

def special : List String :=
  [".", ":", "break", "continue", "eval", "exec", "exit", "export", "readonly", "return", "set",
   "shift", "times", "trap", "unset"]

def definition (name : Word) : Reading Command := do
  let rich : Bool := (← get).dialect = .rich
  let text := String.ofList (Words.markOf name)
  if !rich && (!isName text.toList || hasQuotes name || special.contains text) then fail .badFunctionName
  let line := (← get).line
  let _ ← token self (starting true)
  Tokens.putBack
  return .define line text (← self .command)

/-- The line that counts for a simple command in the rich dialect: that on which its first piece ends, or behind
a word the token after it. -/
def reached (behindWord : Bool) : Reading Nat := do
  if behindWord then
    let after ← token self {}
    Tokens.putBack
    let line := (← get).line
    return match after with
      | .newLine => line - 1
      | _ => line
  else return (← get).line

def simple (line : Nat) :
    Nat → List Assignment → List Word → List Redirect → List String → Reading Command
  | 0, assignments, words, directions, shown =>
    return .simple line assignments.reverse words.reverse directions.reverse (" ".intercalate shown.reverse)
  | size + 1, assignments, words, directions, shown => do
    let dialect := (← get).dialect
    let first : Bool := dialect = .rich && words.isEmpty && assignments.isEmpty && directions.isEmpty
    let ended : Reading Command := do
      Tokens.putBack
      return .simple line assignments.reverse words.reverse directions.reverse (" ".intercalate shown.reverse)
    match ← token self { aliases := words.isEmpty } with
    | .word parts =>
      let text ← written
      let opens : Bool := dialect = .rich && (← peek) = some '('
      match if opens then listName? parts else none with
      | some (name, adds) =>
        let _ ← next
        let (values, list) ← members self limit [] []
        let assigned := Assignment.several name adds list values
        let seen := (text ++ "(" ++ list ++ ")") :: shown
        let line ← if first then reached self false else pure line
        if words.isEmpty then simple line size (assigned :: assignments) words directions seen
        else
          simple line size (assigned :: assignments)
            ([.text name.toList false] :: words) directions seen
      | none =>
        match if words.isEmpty then assignment? dialect parts else none with
        | some assigned =>
          let line ← if first then reached self false else pure line
          simple line size (assigned :: assignments) words directions (text :: shown)
        | none =>
          let line ← if first then reached self true else pure line
          simple line size assignments (parts :: words) directions (text :: shown)
    | .redirect channel direction holder =>
      let redirection ← redirect self channel direction holder
      let line ← if first then reached self false else pure line
      simple line size assignments words (redirection :: directions) shown
    | other =>
      match words with
      | [name] =>
        if isOperator other "(" && assignments.isEmpty && directions.isEmpty then
          expectOperator self ")"
          definition self name
        else ended
      | _ => ended

def branch : Nat → Reading Command
  | 0 => return .empty
  | size + 1 => do
    let test ← self (.list false)
    expectKeyword self {} "then"
    let yes ← self (.list false)
    match ← token self {} with
    | .keyword "elif" => return .branch test yes (← branch size)
    | .keyword "else" =>
      let no ← self (.list false)
      expectKeyword self {} "fi"
      return .branch test yes no
    | .keyword "fi" => return .branch test yes .empty
    | _ => unexpected (some (.keyword "fi"))

def words : Nat → List Word → List String → Reading (List Word × String)
  | 0, taken, shown => return (taken.reverse, " ".intercalate shown.reverse)
  | size + 1, taken, shown => do
    match ← token self {} with
    | .word parts => words size (parts :: taken) ((← written) :: shown)
    | .newLine =>
      Words.documents (inner self)
      return (taken.reverse, " ".intercalate shown.reverse)
    | other =>
      if isOperator other ";" then return (taken.reverse, " ".intercalate shown.reverse) else unexpected none

def body (checks : Checks) : Reading Command := do
  match ← token self checks with
  | .keyword "do" =>
    let content ← self (.list false)
    expectKeyword self {} "done"
    return content
  | .keyword "\x7b" =>
    if (← get).dialect = .rich then
      let content ← self (.list false)
      expectKeyword self {} "\x7d"
      return content
    else unexpected (some (.keyword "do"))
  | _ => unexpected (some (.keyword "do"))

def allArguments : Word := [.parameter "@" [] .value true]

def summed : Reading (Word × List Char) := do
  let before ← get
  let whole ← placing (Words.read (inner self) (.sum 0))
  let after ← get
  return (whole, before.text.take (before.text.length - after.text.length - 2))

def sums : Reading (List Word × String) := do
  let (whole, text) ← summed self
  let shown := (text.splitOn ';').map fun piece => String.ofList (piece.dropWhile fun c => c = ' ' || c = '\t')
  return (whole.foldr (fun part groups =>
    match part, groups with
    | .text content quoted, group :: others =>
      let pieces := content.splitOn ';'
      match pieces.reverse with
      | last :: before =>
        before.foldl (fun made piece => [.text piece quoted] :: made)
          ((if last = [] then group else .text last quoted :: group) :: others)
      | [] => group :: others
    | other, group :: others => (other :: group) :: others
    | _, [] => []) [[]], "; ".intercalate shown)

def each (line : Nat) (chooses : Bool) : Reading Command := do
  let rich : Bool := (← get).dialect = .rich
  let made := if chooses then Command.menu line else Command.each line
  match ← token self {} with
  | .word parts =>
    match Part.plain? parts with
    | none => fail .badLoopVariable
    | some name =>
      if !isName name.toList then fail .badLoopVariable
      match ← token self (starting true) with
      | .keyword "in" =>
        let (values, shown) ← words self limit [] []
        return made name shown values (← body self (starting true))
      | other =>
        if !isOperator other ";" then Tokens.putBack
        return made name "\"$@\"" [allArguments] (← body self (starting true))
  | other =>
    let counts ← if rich && !chooses && isOperator other "(" then accept '(' else pure false
    if counts then
      let (parts, shown) ← sums self
      match ← token self (starting true) with
      | .operator ";" => pure ()
      | _ => Tokens.putBack
      let content ← body self (starting true)
      return .counting line (parts.getD 0 []) (parts.getD 1 []) (parts.getD 2 []) shown content
    else fail .badLoopVariable

def patterns : Nat → Token → List Word → List String → Reading (List Word × String)
  | 0, _, taken, shown => return (taken.reverse, " | ".intercalate shown.reverse)
  | size + 1, current, taken, shown => do
    let grown := wordOf current :: taken
    let seen := (← written) :: shown
    let following ← token self {}
    if isOperator following "|" then patterns size (← token self {}) grown seen
    else if isOperator following ")" then return (grown.reverse, " | ".intercalate seen.reverse)
    else unexpected (some (.operator ")"))

def arms : Nat → List Arm → Reading (List Arm)
  | 0, taken => return taken.reverse
  | size + 1, taken => do
    let checks : Checks := { keywords := true, newLines := true }
    match ← token self checks with
    | .keyword "esac" => return taken.reverse
    | first =>
      let start ← if isOperator first "(" then token self {} else pure first
      let (fitting, shown) ← patterns self limit start [] []
      let content ← self (.list true)
      match ← token self checks with
      | .keyword "esac" => return (.mk fitting shown content .stops :: taken).reverse
      | .operator ";;" => arms size (.mk fitting shown content .stops :: taken)
      | .operator ";;&" => arms size (.mk fitting shown content .looks :: taken)
      | .operator ";&" => arms size (.mk fitting shown content .falls :: taken)
      | _ => unexpected (some (.operator ";;"))

def choice (line : Nat) : Reading Command := do
  match ← token self {} with
  | .word parts =>
    let shown ← written
    expectKeyword self (starting true) "in"
    return .choice line shown parts (← arms self limit [])
  | _ => unexpected (some (.word []))

def unaryTests : List String :=
  ["-a", "-b", "-c", "-d", "-e", "-f", "-g", "-h", "-k", "-n", "-o", "-p", "-r", "-s", "-t", "-u", "-v", "-w",
   "-x", "-z", "-L", "-N", "-O", "-G", "-R", "-S"]

def binaryTests : List String :=
  ["-eq", "-ne", "-lt", "-le", "-gt", "-ge", "-nt", "-ot", "-ef"]

def patternTests : List String := ["=", "==", "!="]

inductive Tier
  | either
  | both
  | single

def sign? : Token → Option String
  | .word parts => (Part.plain? parts).filter fun text => text = "]]"
  | .keyword text | .operator text => some text
  | .redirect _ .read _ => some "<"
  | .redirect _ .write _ => some ">"
  | .newLine => some "newline"
  | _ => none

def misplaced {α : Type} (found : Token) (before after alone : String) : Reading α :=
  fail (.badCondition (some
    (match sign? found with
      | some sign => before ++ " \x60" ++ sign ++ "'" ++ after
      | none => alone)))

def closes (token : Token) : Bool := sign? token = some "]]"

def operand (kind : String) (setting : Setting) : Reading (Word × String) := do
  let found ← token self { setting }
  match found with
  | .word parts =>
    if closes found then misplaced found "unexpected argument" (" to conditional " ++ kind ++ " operator") ""
    else return (parts, ← written)
  | _ =>
    misplaced found "unexpected argument" (" to conditional " ++ kind ++ " operator")
      ("unexpected argument to conditional " ++ kind ++ " operator")

def condition : Nat → Tier → Reading (Condition × Token)
  | 0, _ => unexpected none
  | fuel + 1, .either => do
    let (first, after) ← condition fuel .both
    if isOperator after "||" then
      let (second, final) ← condition fuel .either
      return (.either first second, final)
    else return (first, after)
  | fuel + 1, .both => do
    let (first, after) ← condition fuel .single
    if isOperator after "&&" then
      let (second, final) ← condition fuel .both
      return (.both first second, final)
    else return (first, after)
  | fuel + 1, .single => do
    let onward := token self { newLines := true }
    let first ← onward
    match first with
    | .operator "(" =>
      let (inside, after) ← condition fuel .either
      if isOperator after ")" then return (.enclosed inside, ← onward)
      else misplaced after "unexpected token" ", expected \x60)'" "expected \x60)'"
    | .word parts =>
      let seen ← written
      if closes first then fail (.badCondition none)
      match Part.plain? parts with
      | some "!" =>
        let (inside, after) ← condition fuel .single
        return (.negation inside, after)
      | text =>
        if unaryTests.contains (text.getD "") then
          let (right, shown) ← operand self "unary" .bare
          return (.unary (text.getD "") right shown, ← onward)
        else comparison parts seen (← onward)
    | _ => misplaced first "unexpected token" " in conditional command" "unexpected token in conditional command"
where
  /-- A comparison by what stands behind its left side; nothing behind it asks whether it is empty. -/
  comparison (left : Word) (seen : String) (found : Token) : Reading (Condition × Token) := do
    let onward := token self { newLines := true }
    let ordinary := fun (operator : String) => do
      let (right, shown) ← operand self "binary" .bare
      return (Condition.binary operator left right seen shown, ← onward)
    match sign? found, found with
    | some "]]", _ | some "&&", _ | some "||", _ | some ")", _ => return (.unary "" left seen, found)
    | some "<", _ => ordinary "<"
    | some ">", _ => ordinary ">"
    | _, .word parts =>
      let operator := (Part.plain? parts).getD ""
      if operator = "=~" then
        let (right, shown) ← operand self "binary" .regex
        return (.binary operator left right seen shown, ← onward)
      else if patternTests.contains operator then
        modify fun source => { source with grouped := true }
        let (right, shown) ← operand self "binary" .bare
        modify fun source => { source with grouped := source.extended }
        return (.binary operator left right seen shown, ← onward)
      else if binaryTests.contains operator then ordinary operator
      else fail (.badCondition (some "conditional binary operator expected"))
    | _, _ =>
      misplaced found "unexpected token" ", conditional binary operator expected"
        "conditional binary operator expected"

def conditional (line : Nat) : Reading Command := do
  let (made, after) ← condition self limit .either
  if closes after then
    let joined : Bool := match made with
      | .both .. | .either .. => true
      | _ => false
    let final := (← get).line
    return .conditional (if joined then final else line) made
  else
    match after with
    | .endOfText => fail (.badCondition (some "unexpected EOF while looking for \x60]]'"))
    | _ =>
      misplaced after "syntax error in conditional expression: unexpected token" ""
        "syntax error in conditional expression"

def compound (line : Nat) (first : Token) : Reading (Option Command) := do
  let rich : Bool := (← get).dialect = .rich
  match first with
  | .keyword "if" => return some (← branch self limit)
  | .keyword "while" =>
    let test ← self (.list false)
    return some (.loop true test (← body self {}))
  | .keyword "until" =>
    let test ← self (.list false)
    return some (.loop false test (← body self {}))
  | .keyword "for" => return some (← each self line false)
  | .keyword "select" => return some (← each self line true)
  | .keyword "case" => return some (← choice self line)
  | .keyword "\x7b" =>
    let content ← self (.list false)
    expectKeyword self {} "\x7d"
    return some (.group content)
  | .keyword "[[" => return some (← conditional self line)
  | .keyword "function" =>
    let name := wordOf (← token self {})
    if isOperator (← token self {}) "(" then expectOperator self ")" else Tokens.putBack
    return some (← definition self name)
  | .operator "(" =>
    let isSum ← if rich then accept '(' else pure false
    if isSum then
      let (source, text) ← summed self
      return some (.sum (← get).line source (String.ofList text))
    else
      let content ← self (.list false)
      expectOperator self ")"
      return some (.subshell line content [])
  | _ => return none

def compoundWhole (line : Nat) (first : Token) : Reading (Option Command) := do
  match ← compound self line first with
  | none => return none
  | some made =>
    match ← redirects self limit [], made with
    | [], _ => return some made
    | directions, .subshell place content _ => return some (.subshell place content directions)
    | directions, .define place name content =>
      return some (.define place name (.redirected line content directions))
    | directions, _ => return some (.redirected line made directions)

def simpleFrom (line : Nat) : Reading Command := do
  Tokens.putBack
  simple self line limit [] [] [] []

def partnerName : String := "COPROC"

/-- A command beside the script, from its first token on. Only one that is not simple may have a name. -/
def partner (line : Nat) : Reading Command := do
  let first ← token self { keywords := true }
  let place := (← get).line
  match first with
  | .word parts =>
    let before ← get
    let second ← token self { keywords := true }
    let begins : Bool := match second with
      | .keyword text => !Token.isEnd second && text ≠ "in" && text ≠ "!" && text ≠ "time"
      | other => isOperator other "("
    match Part.plain? parts, begins with
    | some name, true =>
      match ← compoundWhole self place second with
      | some body => return .partner line name body
      | none => unexpected none
    | _, _ =>
      set before
      return .partner line partnerName (← simpleFrom self place)
  | .redirect .. => return .partner line partnerName (← simpleFrom self place)
  | _ =>
    match ← compoundWhole self place first with
    | some body => return .partner line partnerName body
    | none => unexpected none

def command : Reading Command := do
  let first ← token self {}
  let line := (← get).line
  match first with
  | .word _ | .redirect .. => simpleFrom self line
  | .keyword "coproc" => partner self line
  | _ =>
    match ← compoundWhole self line first with
    | none => unexpected none
    | some made => return made

def stages : Nat → List Command → Reading (List Command)
  | 0, taken => return taken.reverse
  | size + 1, taken => do
    match ← token self {} with
    | .operator "|" =>
      let _ ← token self (starting true)
      Tokens.putBack
      stages size ((← self .command) :: taken)
    | .operator "|&" =>
      let _ ← token self (starting true)
      Tokens.putBack
      let following ← self .command
      match taken with
      | last :: others =>
        stages size (following
          :: .redirected 1 last [.mk 2 .duplicate [.text ['1'] false] "1" ""] :: others)
      | [] => stages size [following]
    | _ =>
      Tokens.putBack
      return taken.reverse

def pipeline : Nat → Checks → Reading Command
  | 0, _ => return .empty
  | fuel + 1, checks => do
    match ← token self checks with
    | .keyword "!" =>
      if (← get).dialect = .rich then return .negated (← pipeline fuel (starting false))
      else
        let _ ← token self (starting false)
        Tokens.putBack
        let line := (← get).line
        let first ← self .command
        match ← stages self limit [first] with
        | [only] => return .negated only
        | several => return .negated (.pipeline line several)
    | .keyword "time" => return .timed (← pipeline fuel (starting false))
    | _ =>
      Tokens.putBack
      let line := (← get).line
      let first ← self .command
      match ← stages self limit [first] with
      | [only] => return only
      | several => return .pipeline line several

def chain : Nat → Command → Reading Command
  | 0, first => return first
  | size + 1, first => do
    match ← token self {} with
    | .operator "&&" => chain size (.both first (← pipeline self limit (starting true)))
    | .operator "||" => chain size (.either first (← pipeline self limit (starting true)))
    | _ =>
      Tokens.putBack
      return first

def append : Command → Command → Command
  | .empty, second => second
  | first, second => .sequence first second

def commands (oneLine : Bool) : Nat → Bool → Command → Reading (Option Command)
  | 0, _, made => return some made
  | size + 1, mayEnd, made => do
    match ← token self (starting (!oneLine)) with
    | .newLine =>
      Words.documents (inner self)
      return some made
    | .endOfText =>
      Words.documents (inner self)
      Tokens.putBack
      match made, oneLine with
      | .empty, true => return none
      | _, _ => return some made
    | first =>
      Tokens.putBack
      if mayEnd && first.isEnd then return some made
      else
        let line := (← get).line
        let next ← chain self limit (← pipeline self limit {})
        match ← token self {} with
        | .operator "&" => commands oneLine size (!oneLine) (append made (.background line next))
        | .operator ";" => commands oneLine size (!oneLine) (append made next)
        | .newLine =>
          Tokens.putBack
          commands oneLine size (!oneLine) (append made next)
        | .endOfText =>
          Words.documents (inner self)
          Tokens.putBack
          return some (append made next)
        | _ =>
          if oneLine then unexpected none
          else
            Tokens.putBack
            return some (append made next)

def goal : Goal → Reading Command
  | .list mayBeEmpty => do return (← commands self false limit mayBeEmpty .empty).getD .empty
  | .command => command self
  | .bracketed => fun source =>
    let reading : Reading Command := do
      let content ← commands self false limit true .empty
      expectOperator self ")"
      return content.getD .empty
    match reading source with
    | .ok result => .ok result
    | .error complaint =>
      match complaint.misreading with
      | .unexpected .endOfText _ =>
        if source.dialect = .rich then .error { complaint with misreading := .openBracket } else .error complaint
      | _ => .error complaint
  | .whole => do return (← commands self false limit true .empty).getD .empty

end

/-- Reads a goal; the first number bounds how deep commands stand inside others. -/
def read : Nat → Goal → Reading Command
  | 0, _ => fail .openBrace
  | depth + 1, wanted => goal (read depth) wanted

def line : Reading (Option Command) := do
  modify fun source => { source with pushed := false, waiting := [], warnings := [] }
  commands (read limit) true limit false .empty

end Parser

end Assay.Script
