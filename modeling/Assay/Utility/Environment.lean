import Assay.Utility.Basic

/-!
Starting a program with another environment. Its command line may be split out of one text, as on the first
line of a script.
-/

namespace Assay.Utility

inductive SplitFault
  | openQuote
  | endsInBackslash
  | unknownEscape (c : Char)
  | stopsInQuotes
  | badVariable (rest : List Char)

def SplitFault.message : SplitFault → String
  | openQuote => "no terminating quote in -S string"
  | endsInBackslash => "invalid backslash at end of string in -S"
  | unknownEscape c => "invalid sequence '\\" ++ String.ofList [c] ++ "' in -S"
  | stopsInQuotes => "'\\c' must not appear in double-quoted -S string"
  | badVariable rest =>
    "only $\x7bVARNAME\x7d expansion is supported, error at: " ++ String.ofList rest

/-- A text while it is split into words: those before, backwards, and the one that has begun. -/
structure Splitting where
  words : List String := []
  current : Option (List Char) := none
  quote : Option Char := none

namespace Splitting

def begin (splitting : Splitting) : Splitting :=
  { splitting with current := some (splitting.current.getD []) }

def add (splitting : Splitting) (chars : List Char) : Splitting :=
  { splitting with current := some (chars.reverse ++ splitting.current.getD []) }

def close (splitting : Splitting) : Splitting :=
  match splitting.current with
  | some word => { splitting with words := String.ofList word.reverse :: splitting.words, current := none }
  | none => splitting

def finish (splitting : Splitting) : List String := splitting.close.words.reverse

end Splitting

def bracedName? (text : List Char) : Option (List Char × List Char) :=
  match text with
  | '\x7b' :: rest =>
    let name := rest.takeWhile fun c => c.isAlphanum || c = '_'
    match name, rest.drop name.length with
    | first :: _, '\x7d' :: after => if first.isDigit then none else some (name, after)
    | _, _ => none
  | _ => none

def splitEscapes : List (Char × Char) :=
  [('"', '"'), ('#', '#'), ('$', '$'), ('\'', '\''), ('\\', '\\'), ('f', '\x0c'), ('n', '\n'), ('r', '\r'),
   ('t', '\t'), ('v', '\x0b')]

def isSpaceMark (c : Char) : Bool := " \t\n\x0b\x0c\r".toList.contains c

/-- Splits a text into words, with quotes, escapes and variables. The number bounds the steps. -/
def splitFrom (environment : List (String × String)) :
    Nat → Splitting → List Char → Except SplitFault (List String)
  | 0, splitting, _ => .ok splitting.finish
  | _, splitting, [] => if splitting.quote.isSome then .error .openQuote else .ok splitting.finish
  | fuel + 1, splitting, c :: rest =>
    let onward := splitFrom environment fuel
    let plain := onward (splitting.add [c]) rest
    let inSingle : Bool := splitting.quote = some '\''
    if c = '\'' ∨ c = '"' then
      match splitting.quote with
      | none => onward { splitting.begin with quote := some c } rest
      | some opened => if opened = c then onward { splitting with quote := none } rest else plain
    else if isSpaceMark c then
      if splitting.quote.isSome then plain else onward splitting.close rest
    else if c = '#' then
      if splitting.current.isSome then plain else .ok splitting.finish
    else if c = '\\' then
      let escapes := match rest with
        | d :: _ => !inSingle || d = '\\' || d = '\''
        | [] => !inSingle
      if !escapes then plain
      else
        match rest with
        | [] => .error .endsInBackslash
        | d :: more =>
          match splitEscapes.lookup d with
          | some meant => onward (splitting.add [meant]) more
          | none =>
            if d = '_' then
              if splitting.quote.isSome then onward (splitting.add [' ']) more else onward splitting.close more
            else if d = 'c' then
              if splitting.quote.isSome then .error .stopsInQuotes else .ok splitting.finish
            else .error (.unknownEscape d)
    else if c = '$' ∧ !inSingle then
      match bracedName? rest with
      | none => .error (.badVariable (c :: rest))
      | some (name, after) =>
        match environment.lookup (String.ofList name) with
        | some value => onward (splitting.add value.toList) after
        | none => onward splitting after
    else plain

def splitWords (text : String) : Utility (List String) := do
  match splitFrom (← get).call.environment (text.length + 1) {} text.toList with
  | .ok words => return words
  | .error fault => fail fault.message 125

def envOptions : Options where
  flags := "i0v"
  valued := "uCS"
  inOrder := true
  failure := 125
  words := [("ignore-environment", "i", false), ("null", "0", false), ("unset", "u", true),
    ("chdir", "C", true), ("split-string", "S", true), ("debug", "v", false),
    ("default-signal", "", false), ("ignore-signal", "", false), ("block-signal", "", false),
    ("list-signal-handling", "", false)]
  lenient := ["default-signal", "ignore-signal", "block-signal"]
  hint c := if isSpaceMark c then some "use -[v]S to pass options in shebang lines" else none

/-- Puts words in place of the texts that are to be split. The number bounds the steps. -/
def splitArguments : Nat → List String → Utility (List String)
  | 0, given => return given
  | _, [] => return []
  | fuel + 1, first :: rest => do
    let skip := fun (kept left : List String) => do return kept ++ (← splitArguments fuel left)
    match first.toList with
    | '-' :: '-' :: word =>
      let written := "split-string".toList
      if word = written then
        match rest with
        | text :: left => splitArguments fuel ((← splitWords text) ++ left)
        | [] => return [first]
      else if (written ++ ['=']).isPrefixOf word then
        splitArguments fuel ((← splitWords (String.ofList (word.drop (written.length + 1)))) ++ rest)
      else if word = [] then return first :: rest
      else if word = "unset".toList ∨ word = "chdir".toList then skip (first :: rest.take 1) (rest.drop 1)
      else skip [first] rest
    | '-' :: c :: more =>
      let letters := c :: more
      let flags := letters.takeWhile fun c => "i0v".toList.contains c
      let before := if flags = [] then [] else [String.ofList ('-' :: flags)]
      match letters.drop flags.length with
      | 'S' :: [] =>
        match rest with
        | text :: left => skip before ((← splitWords text) ++ left)
        | [] => return [first]
      | 'S' :: text => skip before ((← splitWords (String.ofList text)) ++ rest)
      | ['u'] | ['C'] => skip (first :: rest.take 1) (rest.drop 1)
      | _ => skip [first] rest
    | _ => return first :: rest

def env : Program := starting fun become => do
  losing (Loss.usual 125)
  let given ← arguments
  let whole ← splitArguments 1000 given
  let found ← scanArguments envOptions (whole.length + 1) whole
  let (bare, rest) : Bool × List String := match found.operands with
    | "-" :: others => (true, others)
    | others => (false, others)
  let own := (← get).call.environment
  let inherited := if bare || found.has "i" then [] else own
  let kept := inherited.filter fun item => !(found.values "u").contains item.1
  let isAssignment := fun text : String => text.toList.contains '='
  let assignments := rest.takeWhile isAssignment
  let environment := assignments.foldl (fun all text =>
    let name := String.ofList (text.toList.takeWhile (· ≠ '='))
    let value := String.ofList ((text.toList.dropWhile (· ≠ '=')).drop 1)
    if (all.lookup name).isSome then all.map fun item => if item.1 = name then (name, value) else item
    else all ++ [(name, value)]) kept
  match rest.drop assignments.length with
  | [] =>
    if found.has "C" then misuse "must specify command with --chdir (-C)" 125
    let ending := if found.has "0" then "\x00" else "\n"
    for (name, value) in environment do emitText (name ++ "=" ++ value ++ ending)
  | command :: operands =>
    if found.has "0" then misuse "cannot specify --null (-0) with command" 125
    match found.value? "C" with
    | some target =>
      match (← tree).target? (← folder) (path target) with
      | some (location, .folder) => ask (.enter location)
      | some _ => fail ("cannot change directory to " ++ quoted target ++ ": Not a directory") 125
      | none => fail ("cannot change directory to " ++ quoted target ++ ": No such file or directory") 125
    | none => pure ()
    let fault ← lift (Program.becomeNamed become environment command operands)
    warn (cited command ++ ": " ++ fault.message)
    if startStatus fault = 127 ∧ command.toList.any isSpaceMark then
      warn "use -[v]S to pass options in shebang lines"
    throw (startStatus fault)

end Assay.Utility
