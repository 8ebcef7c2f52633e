import Assay.Script.Source
import Assay.Text.Octets

/-!
Reading words: quotes, parameters, and commands and sums inside a word.
-/

namespace Assay.Script

/-- Where a piece of a word stands; this decides which characters are special. -/
inductive Setting
  | bare
  | mark
  | quoted (expands : Bool)
  | document
  | braces (quoted : Bool)
  | regex
  | group
  | sum (depth : Nat)
deriving DecidableEq

def endsWord (c : Char) : Bool := " \t\n;&|()<>".toList.contains c

namespace Setting

def isQuoted : Setting → Bool
  | bare | mark | braces false | regex | group => false
  | quoted _ | document | braces true | sum _ => true

def expands : Setting → Bool
  | mark | quoted false => false
  | _ => true

def hasQuotes : Setting → Bool
  | bare | mark | braces false | regex | group => true
  | _ => false

def escapes (setting : Setting) (c : Char) : Bool :=
  match setting with
  | bare | mark | braces false | regex | group => true
  | quoted _ | sum _ => "\\\"$`".toList.contains c
  | document => "\\$`".toList.contains c
  | braces true => "\\\"$`\x7d".toList.contains c

def inside (setting : Setting) : Setting := braces setting.isQuoted

def ends (setting : Setting) (c : Char) : Bool :=
  match setting with
  | bare | mark => endsWord c
  | regex => endsWord c && c ≠ '|' && c ≠ '('
  | _ => false

end Setting

structure Inner where
  bracketed : Reading Command
  whole : Reading Command

namespace Words

open Reading

def gather (taken : List Part) : Word :=
  taken.foldl (fun parts part =>
    match part with
    | .text content quoted => Part.addText content quoted parts
    | other => other :: parts) []

def backquoted (quoted : Bool) : Nat → List Char → Reading (List Char)
  | 0, taken => return taken.reverse
  | size + 1, taken => do
    match ← nextJoined with
    | none => fail .openBackquote
    | some '`' => return taken.reverse
    | some '\\' =>
      match ← next with
      | none => fail .openBackquote
      | some c =>
        if "\\`$".toList.contains c || (quoted && c = '"') then backquoted quoted size (c :: taken)
        else backquoted quoted size (c :: '\\' :: taken)
    | some c => backquoted quoted size (c :: taken)

def backquote (inner : Inner) (quoted : Bool) : Reading Command := do
  let text ← backquoted quoted limit []
  let around ← get
  set { around with text, line := 1, waiting := [], within := none, pushed := false }
  let body ← inner.whole
  let after ← get
  set { after with
        text := around.text, line := around.line, waiting := around.waiting, within := around.within,
        pushed := false }
  return body

def linesBefore : List Char → Nat
  | '\n' :: rest => linesBefore rest + 1
  | '#' :: rest => commentedOut rest
  | c :: rest => if c = ' ' ∨ c = '\t' then linesBefore rest else 0
  | [] => 0
where
  commentedOut : List Char → Nat
    | '\n' :: rest => linesBefore rest + 1
    | _ :: rest => commentedOut rest
    | [] => 0

def bracketed (inner : Inner) : Reading Command := do
  let around ← get
  set { around with waiting := [], within := none, grouped := around.extended }
  let body ← placing inner.bracketed
  modify fun source =>
    { source with
      waiting := around.waiting, within := around.within, grouped := around.grouped, pushed := false }
  return body

def unread (c : Char) : Reading Unit :=
  modify fun source =>
    { source with text := c :: source.text, line := if c = '\n' then source.line - 1 else source.line }

def hexValue (c : Char) : Nat :=
  if c.isDigit then c.toNat - '0'.toNat else c.toLower.toNat - 'a'.toNat + 10

def isHex (c : Char) : Bool := c.isDigit || ('a' ≤ c.toLower && c.toLower ≤ 'f')

/-- What a code in hexadecimal digits stands for: a character, or an escape for one that cannot be spelled. -/
def escapedCode (wide : Bool) (digits : List Char) : List Char :=
  let code := digits.foldl (fun value digit => 16 * value + hexValue digit) 0
  if code < 128 then [Char.ofNat code]
  else if wide && (Char.ofNat code).toNat = code then Text.Characters.octetsOf (Char.ofNat code)
  else
    let shown := (Nat.toDigits 16 code).map Char.toUpper
    let (letter, width) := if code < 65536 then ('u', 4) else ('U', 8)
    '\\' :: letter :: List.replicate (width - shown.length) '0' ++ shown

def escapedText : Nat → List Char → Reading (List Char)
  | 0, taken => return taken.reverse
  | size + 1, taken => do
    match ← next with
    | none => fail (.openQuote '\'')
    | some '\'' => return taken.reverse
    | some '\\' =>
      match ← next with
      | none => fail (.openQuote '\'')
      | some c =>
        match [('n', '\n'), ('t', '\t'), ('r', '\r'), ('a', '\x07'), ('b', '\x08'), ('f', '\x0c'),
            ('v', '\x0b'), ('e', '\x1b'), ('E', '\x1b'), ('\\', '\\'), ('\'', '\''), ('"', '"'),
            ('?', '?')].lookup c with
        | some meant => escapedText size (meant :: taken)
        | none =>
          if c = 'x' then
            let digits := ((← get).text.take 2).takeWhile isHex
            modify fun source => { source with text := source.text.drop digits.length }
            let code := digits.foldl (fun value digit => 16 * value + hexValue digit) 0
            escapedText size (Char.ofNat code :: taken)
          else if c = 'u' ∨ c = 'U' then
            let digits := ((← get).text.take (if c = 'u' then 4 else 8)).takeWhile isHex
            modify fun source => { source with text := source.text.drop digits.length }
            if digits = [] then escapedText size (c :: '\\' :: taken)
            else escapedText size ((escapedCode (← get).wide digits).reverse ++ taken)
          else if c = 'c' then
            let code := (((← get).text.head?).map fun d => d.toUpper.toNat % 32).getD 0
            modify fun source => { source with text := source.text.drop 1 }
            escapedText size (Char.ofNat code :: taken)
          else if '0' ≤ c ∧ c ≤ '7' then
            let digits := ((← get).text.take 2).takeWhile fun d => '0' ≤ d && d ≤ '7'
            modify fun source => { source with text := source.text.drop digits.length }
            let code := (c :: digits).foldl (fun value digit => 8 * value + hexValue digit) 0
            escapedText size (Char.ofNat (code % 256) :: taken)
          else escapedText size (c :: '\\' :: taken)
    | some c => escapedText size (c :: taken)

section

variable (inner : Inner) (piecesOf : Setting → Reading Word)

def unknown (setting : Setting) (name : String) : Reading Part := do
  let _ ← piecesOf setting.inside
  return .parameter name [] (.unknown []) setting.isQuoted

/-- The text up to the bracket that closes an index, and what follows it. Quotes hide brackets. The number counts
the brackets that are open. -/
def subscript? : Nat → Nat → List Char → Option (List Char × List Char)
  | 0, _, _ => none
  | _, _, [] => none
  | fuel + 1, depth, c :: rest =>
    let adding := fun (taken : List Char) (depth : Nat) (left : List Char) =>
      (subscript? fuel depth left).map fun (inside, after) => (taken ++ inside, after)
    match c, rest with
    | '\\', d :: more => adding [c, d] depth more
    | '\'', _ | '"', _ =>
      let inside := rest.takeWhile (· ≠ c)
      adding (c :: inside ++ [c]) depth (rest.drop (inside.length + 1))
    | '[', _ => adding [c] (depth + 1) rest
    | ']', _ => if depth = 0 then some ([], rest) else adding [c] (depth - 1) rest
    | _, _ => adding [c] depth rest

def indexWord (text : List Char) : Reading Word := do
  let around ← get
  set { around with text := text ++ ['\x7d'] }
  let word ← piecesOf (.braces false)
  modify fun source => { source with text := around.text, line := around.line }
  return word

def index : Reading Word := do
  let source ← get
  match source.text with
  | '[' :: rest =>
    match if source.dialect = .rich then subscript? (rest.length + 1) 0 rest else none with
    | some (inside, after) =>
      set { source with text := after }
      indexWord piecesOf inside
    | none => return []
  | _ => return []

/-- The index in an assignment to a member of a list, with its brackets, behind a name and before an equals
sign. -/
def assignedIndex? (taken : List Part) : Reading (Option Word) := do
  let source ← get
  match gather taken with
  | [.text name false] =>
    match if source.dialect = .rich ∧ isName name then subscript? (source.text.length + 1) 0 source.text else none with
    | some (inside, after) =>
      if after.head? = some '=' ∨ after.take 2 = ['+', '='] then
        set { source with text := after }
        let word ← indexWord piecesOf inside
        return some (.text ['['] false :: word ++ [.text [']'] false])
      else return none
    | none => return none
  | _ => return none

def upTo (stop : Char) : Reading (Word × Bool) := do
  let source ← get
  let rec cut : List Char → Nat → List Char × List Char × Bool
    | [], _ => ([], [], false)
    | '\\' :: c :: rest, depth =>
      let (before, after, stopped) := cut rest depth
      ('\\' :: c :: before, after, stopped)
    | c :: rest, depth =>
      if depth = 0 ∧ (c = stop ∨ c = '\x7d') then ([], rest, c = stop)
      else
        let (before, after, stopped) :=
          cut rest (if c = '\x7b' then depth + 1 else if c = '\x7d' then depth - 1 else depth)
        (c :: before, after, stopped)
  let (before, after, stopped) := cut source.text 0
  set { source with text := before ++ ['\x7d'] }
  let word ← piecesOf (.braces false)
  modify fun final => { final with text := after, line := source.line }
  return (word, stopped)

def richOperation (setting : Setting) (name : String) (member : Word) (c : Char) : Reading Part := do
  let made := fun operation => Part.parameter name member operation setting.isQuoted
  match c with
  | ':' =>
    let (start, more) ← upTo piecesOf ':'
    if more then
      let before := (← get).text
      let (size, _) ← upTo piecesOf '\x7d'
      let written := before.take (before.length - (← get).text.length - 1)
      return made (.slice start (some size) (String.ofList written))
    else return made (.slice start none "")
  | '/' =>
    let anchor : Anchor ←
      match ← peek with
      | some '/' => do let _ ← next; pure .everywhere
      | some '#' => do let _ ← next; pure .front
      | some '%' => do let _ ← next; pure .back
      | _ => pure .anywhere
    let (pattern, more) ← upTo piecesOf '/'
    if more then
      let (replacement, _) ← upTo piecesOf '\x7d'
      return made (.substitute anchor pattern replacement)
    else return made (.substitute anchor pattern [])
  | '@' =>
    match Part.plain? (← piecesOf (.braces false)) with
    | some form =>
      match form.toList with
      | [letter] => return made (if "QEPAKkaUuL".toList.contains letter then .transform letter else .unknown [])
      | _ => return made (.unknown [])
    | none => return made (.unknown [])
  | _ =>
    let all ← accept c
    let pattern ← piecesOf (.braces false)
    return made (.recase (if c = '^' then .upper else if c = ',' then .lower else .turned) all pattern)

def operation (setting : Setting) (name : String) : Reading Part := do
  let member ← index piecesOf
  let rich : Bool := (← get).dialect = .rich
  let made := fun operation => Part.parameter name member operation setting.isQuoted
  let fallback? := fun c : Char =>
    [('-', Fallback.replace), ('=', .assign), ('?', .refuse), ('+', .whenSet)].lookup c
  match ← nextJoined with
  | none => unknown piecesOf setting name
  | some '\x7d' => return made .value
  | some ':' =>
    match ← peekJoined with
    | some c =>
      match fallback? c with
      | some kind =>
        let _ ← next
        return made (.fallback kind true (← piecesOf setting.inside))
      | none =>
        if rich then richOperation piecesOf setting name member ':' else unknown piecesOf setting name
    | none => unknown piecesOf setting name
  | some c =>
    match fallback? c with
    | some kind => return made (.fallback kind false (← piecesOf setting.inside))
    | none =>
      if c = '%' ∨ c = '#' then
        let longest ← accept c
        return made (.trim { atEnd := c = '%', longest } (← piecesOf (.braces false)))
      else if rich ∧ "/^,~@".toList.contains c then richOperation piecesOf setting name member c
      else
        if c = '\n' ∧ !rich then modify fun source => { source with line := source.line - 1 }
        else unread c
        unknown piecesOf setting name

def name : Reading String := do
  match ← peekJoined with
  | some c =>
    if isNameStart c then return String.ofList (← takeWhile isNameChar)
    else return String.ofList (← takeWhile Char.isDigit)
  | none => return ""

/-- Behind an exclamation mark: the number of an argument, or that of all. -/
def namesOther : List Char → Bool
  | '#' :: '\x7d' :: _ => true
  | c :: _ => c.isDigit
  | [] => false

def braced (setting : Setting) : Reading Part := do
  match ← peekJoined with
  | none => unknown piecesOf setting ""
  | some '\x7d' => unknown piecesOf setting ""
  | some '\n' =>
    let source ← get
    set { source with text := source.text.drop 1 }
    unknown piecesOf setting ""
  | some c =>
    if isNameStart c || c.isDigit then operation piecesOf setting (← name)
    else
      let _ ← next
      if c = '#' then
        match ← nextJoined with
        | none => unknown piecesOf setting ""
        | some d =>
          if isNameChar d then
            unread d
            let sized ← name
            let member ← index piecesOf
            if ← accept '\x7d' then return .parameter sized member .size setting.isQuoted
            else unknown piecesOf setting sized
          else if d = '\x7d' || (← peekJoined) ≠ some '\x7d' then
            unread d
            operation piecesOf setting "#"
          else if isSpecial d then
            let _ ← next
            return .parameter (String.ofList [d]) [] .size setting.isQuoted
          else unknown piecesOf setting ""
      else if c = '!' ∧ (← get).dialect = .rich ∧ ((← peek).map isNameStart).getD false then
        let target ← name
        match (← get).text with
        | '@' :: '\x7d' :: rest =>
          modify fun source => { source with text := rest }
          return .parameter target [] (.names true) setting.isQuoted
        | '*' :: '\x7d' :: rest =>
          modify fun source => { source with text := rest }
          return .parameter target [] (.names false) setting.isQuoted
        | _ =>
          match ← operation piecesOf setting target with
          | .parameter target member operation quoted =>
            let all := (Part.wholeList? member).isSome
            return .parameter target member (if all then .indices else .indirect operation) quoted
          | other => return other
      else if c = '!' ∧ (← get).dialect = .rich ∧ namesOther (← get).text then
        let target ← if (← peek) = some '#' then do let _ ← next; pure "#" else name
        match ← operation piecesOf setting target with
        | .parameter target member operation quoted =>
          return .parameter target member (.indirect operation) quoted
        | other => return other
      else if isSpecial c then operation piecesOf setting (String.ofList [c])
      else unknown piecesOf setting ""

/-- What a dollar sign begins; one that begins nothing stands for itself. -/
def dollar (setting : Setting) : Reading Part := do
  match ← peekJoined with
  | some '(' =>
    let _ ← next
    if ← accept '(' then return .arithmetic (← piecesOf (.sum 0)) setting.isQuoted
    else
      let line := (← get).line + linesBefore (← get).text
      return .output line (← bracketed inner) setting.isQuoted
  | some '[' =>
    let source ← get
    match if source.dialect = .rich then subscript? source.text.length 0 (source.text.drop 1) else none with
    | some (inside, after) =>
      set { source with text := inside ++ [')', ')'] }
      let sum ← piecesOf (.sum 0)
      modify fun final => { final with text := after, line := source.line }
      return .arithmetic sum setting.isQuoted
    | none => return .text ['$'] setting.isQuoted
  | some '\x7b' =>
    let _ ← next
    let before := (← get).text
    match ← braced piecesOf setting with
    | .parameter name member (.unknown _) quoted =>
      let left := (← get).text.length
      let written := ['$', '\x7b'] ++ before.take (before.length - left)
      return .parameter name member (.unknown written) quoted
    | part => return part
  | some c =>
    if isNameStart c then
      return .parameter (String.ofList (← takeWhile isNameChar)) [] .value setting.isQuoted
    else if isSpecial c then
      let _ ← next
      return .parameter (String.ofList [c]) [] .value setting.isQuoted
    else if c = '\'' ∧ setting.hasQuotes ∧ (← get).dialect = .rich then
      let _ ← next
      return .text (← escapedText limit []) true
    else if c = '"' ∧ setting.hasQuotes ∧ (← get).dialect = .rich then return .text [] true
    else return .text ['$'] (setting.isQuoted)
  | none => return .text ['$'] (setting.isQuoted)

end

def atEnd (setting : Setting) (taken : List Part) : Reading Word := do
  match setting with
  | .bare | .mark | .document | .regex => return gather taken
  | .quoted _ => fail (if (← get).within.isSome then .openBrace else .openQuote '"')
  | .braces true => fail (if (← get).within.isSome then .openBrace else .openQuote '\x7d')
  | .braces false => fail .openBrace
  | .group => fail .openBracket
  | .sum _ => fail .openSum

def firstLine (indented : Bool) (text : List Char) : List Char × List Char :=
  let line := if indented then text.dropWhile (· = '\t') else text
  (line.takeWhile (· ≠ '\n'), (line.dropWhile (· ≠ '\n')).drop 1)

/-- At the front of a line inside a document: the mark of the document is its end even where something is
still open. -/
def closed? : Reading Bool := do
  let source ← get
  match source.within with
  | none => return false
  | some document =>
    let (line, after) := firstLine document.indented source.text
    if line = document.mark then
      set { source with text := after, line := source.line + 1 }
      return true
    else
      if document.indented then set { source with text := source.text.dropWhile (· = '\t') }
      return false

/-- Reads the pieces of a word. What closes a quoted or bracketed word is taken, too; what ends a
bare word is not. The first number bounds the steps. -/
def pieces (inner : Inner) : Nat → Setting → List Part → Reading Word
  | 0, _, taken => return gather taken
  | fuel + 1, setting, taken => do
    let further := fun part : Part => pieces inner fuel setting (part :: taken)
    let again := fun other : Setting => pieces inner fuel other []
    match ← peekJoined with
    | none => atEnd setting taken
    | some c =>
      if setting.ends c then
        if setting = .bare && (c = '<' || c = '>') && (← get).dialect = .rich
            && ((← get).text.drop 1).head? = some '(' then
          let _ ← next
          let _ ← next
          further (.channelOf (← bracketed inner) (c = '<'))
        else return gather taken
      else
        let _ ← next
        match c with
        | '\\' =>
          match ← next with
          | none => further (.text ['\\'] true)
          | some d => further (.text (if setting.escapes d then [d] else ['\\', d]) true)
        | '\'' =>
          if setting.hasQuotes then
            let content ← placing do
              match ← untilChar '\'' limit [] with
              | some content => return content
              | none => fail (.openQuote '\'')
            further (.text content true)
          else further (.text [c] setting.isQuoted)
        | '"' =>
          match setting with
          | .quoted _ => return gather taken
          | .document => further (.text [c] true)
          | .sum _ =>
            if (← get).dialect = .rich then pieces inner fuel setting taken else further (.text [c] true)
          | _ =>
            let content ← placing (again (.quoted setting.expands))
            pieces inner fuel setting (content.reverse ++ .text [] true :: taken)
        | '$' =>
          if setting.expands then further (← placing (dollar inner again setting))
          else further (.text [c] setting.isQuoted)
        | '`' =>
          if setting.expands then
            let body ← placing (backquote inner setting.isQuoted)
            further (.output 1 body setting.isQuoted)
          else further (.text [c] setting.isQuoted)
        | '\x7d' =>
          match setting with
          | .braces _ => return gather taken
          | _ => further (.text [c] setting.isQuoted)
        | '(' =>
          match setting with
          | .sum depth => pieces inner fuel (.sum (depth + 1)) (.text [c] true :: taken)
          | .regex | .group =>
            let content ← placing (again .group)
            pieces inner fuel setting (content.reverse ++ .text [c] false :: taken)
          | _ => further (.text [c] setting.isQuoted)
        | ')' =>
          match setting with
          | .group => return gather (.text [c] false :: taken)
          | .sum 0 => if ← accept ')' then return gather taken else further (.text [c] true)
          | .sum (depth + 1) => pieces inner fuel (.sum depth) (.text [c] true :: taken)
          | _ => further (.text [c] setting.isQuoted)
        | '\n' =>
          match setting with
          | .document => return gather (.text [c] true :: taken)
          | _ =>
            if ← closed? then atEnd setting taken
            else further (.text [c] setting.isQuoted)
        | '[' =>
          let found ← if setting = .bare then assignedIndex? again taken else pure none
          match found with
          | some word => pieces inner fuel setting (word.reverse ++ taken)
          | none => further (.text [c] setting.isQuoted)
        | _ =>
          if setting = .bare && "?*+@!".toList.contains c && (← get).grouped && (← peek) = some '(' then
            let _ ← next
            let content ← placing (again .group)
            pieces inner fuel setting (content.reverse ++ .text [c, '('] false :: taken)
          else further (.text [c] setting.isQuoted)

def read (inner : Inner) (setting : Setting) : Reading Word := pieces inner limit setting []

def markOf (word : Word) : List Char :=
  word.flatMap fun part =>
    match part with
    | .text content _ => content
    | _ => []

def endEarly (waiting : Waiting) : Reading Unit :=
  modify fun source =>
    let reached := if waiting.line < source.line then source.line - 1 else source.line
    { source with
      warnings :=
        (reached, "warning: here-document at line " ++ toString waiting.line
          ++ " delimited by end-of-file (wanted \x60" ++ String.ofList waiting.mark ++ "')") :: source.warnings }

def documentLines (inner : Inner) (waiting : Waiting) : Nat → Word → Reading Word
  | 0, lines => return lines
  | size + 1, lines => do
    let source ← get
    if source.text = [] then
      endEarly waiting
      return lines
    else
      let (line, after) := firstLine waiting.indented source.text
      if line = waiting.mark then
        set { source with text := after, line := source.line + 1 }
        return lines
      else if waiting.expands then
        set { source with
              text := if waiting.indented then source.text.dropWhile (· = '\t') else source.text,
              within := some waiting }
        let content ← read inner .document
        modify fun after => { after with within := source.within }
        documentLines inner waiting size (lines ++ content)
      else
        let ended := source.text.contains '\n'
        set { source with text := after, line := source.line + 1 }
        documentLines inner waiting size
          (lines ++ [.text (if ended then line ++ ['\n'] else line) true])

def documents (inner : Inner) : Reading Unit := do
  let waiting := (← get).waiting
  modify fun source => { source with waiting := [] }
  for document in waiting do
    let before ← get
    let content ← documentLines inner document limit []
    modify fun source =>
      let lines := if source.dialect = .plain then []
        else linesBetween document (before.text.take (before.text.length - source.text.length))
      { source with documents := (document.id, { content, written := String.ofList lines }) :: source.documents }
where
  linesBetween (document : Waiting) (text : List Char) : List Char :=
    if document.indented then ['\n'].intercalate ((text.splitOn '\n').map (·.dropWhile (· = '\t'))) else text

end Words

end Assay.Script
