import Assay.Text.Numeral
import Assay.Text.Octets
import Assay.Utility.Edit.Command

/-!
Escapes in scripts that edit texts. An escape for a single character is read before the text around it gets its
meaning.
-/

namespace Assay.Utility.Edit

inductive EscapePlace
  | expression
  | replacement
  | plain
deriving DecidableEq

structure EscapeFault where
deriving DecidableEq

/-- A character by its number in some base, with what follows; without figures the letter stands for itself. -/
def numbered (letter : Char) (base most : Nat) (text : List Char) : Char × List Char :=
  let figures := (text.take most).takeWhile (Text.isDigitIn base)
  if figures.isEmpty then (letter, text)
  else (Char.ofNat (Text.valueIn base figures % 256), text.drop figures.length)

/-- A character that was written by its number, with a backslash where it would mean something else. -/
def shielded (place : EscapePlace) (c : Char) : List Char :=
  if (c = '\\' && place ≠ .plain) || (c = '&' && place = .replacement) then ['\\', c] else [c]

def withoutEscapes (place : EscapePlace) : Nat → List Char → Except EscapeFault (List Char)
  | 0, text => .ok text
  | _, [] => .ok []
  | fuel + 1, '\\' :: c :: rest =>
    let further := fun (front left : List Char) => (withoutEscapes place fuel left).map (front ++ ·)
    match c with
    | 't' => further ['\t'] rest
    | 'f' => further ['\x0c'] rest
    | 'v' => further ['\x0b'] rest
    | 'a' => further ['\x07'] rest
    | 'r' => further ['\r'] rest
    | 'n' => further (if place = .plain then ['\n'] else ['\\', 'n']) rest
    | 'd' => let (found, left) := numbered 'd' 10 3 rest; further (shielded place found) left
    | 'o' => let (found, left) := numbered 'o' 8 3 rest; further (shielded place found) left
    | 'x' => let (found, left) := numbered 'x' 16 2 rest; further (shielded place found) left
    | 'c' =>
      match rest with
      | [] => .ok ['\\']
      | '\\' :: '\\' :: left => further ['\x1c'] left
      | '\\' :: _ => .error {}
      | d :: left => further (shielded place (Char.ofNat (d.toUpper.toNat ^^^ 64))) left
    | _ => further (if place = .plain then [c] else ['\\', c]) rest
  | fuel + 1, c :: rest => (withoutEscapes place fuel rest).map (c :: ·)

example : (withoutEscapes .replacement 9 "\\x26\\x4g".toList).toOption = some "\\&\x04g".toList := by decide

end Assay.Utility.Edit

namespace Assay.Utility.Edit

open Text (Regex)

structure Chunk where
  text : List Char
  file : Option String := none

structure Manner where
  extended : Bool := false
  plain : Bool := false
  guarded : Bool := false
  wide : Bool := false
  mark : Char := '\n'

/-- Where something is wrong with a script: in which piece, and behind how many characters. -/
structure Spot where
  chunk : Nat
  used : Nat
  exact : Bool := true

structure Fault where
  message : String
  spot : Option Spot := none
  status : Nat := 1

structure Unfinished where
  selector : Selector
  action : List Char → Action
  text : List Char

structure Reader where
  manner : Manner
  rest : List Char := []
  used : Nat := 0
  chunk : Nat := 0
  commands : Array Command := #[]
  blocks : List (Nat × Spot) := []
  files : List String := []
  unfinished : Option Unfinished := none

abbrev Reading (α : Type) := StateT Reader (Except Fault) α

namespace Reading

def next? : Reading (Option Char) := do
  let state ← get
  match state.rest with
  | [] => return none
  | c :: rest =>
    set { state with rest, used := state.used + 1 }
    return some c

def peek? : Reading (Option Char) := do return (← get).rest.head?

def spot : Reading Spot := do
  let state ← get
  return { chunk := state.chunk, used := state.used }

def fail {α : Type} (message : String) : Reading α := do throw { message, spot := some (← spot) }

def plain : Reading Bool := do return (← get).manner.plain

def skip (kind : Char → Bool) : Reading Unit := do
  modify fun state =>
    let skipped := state.rest.takeWhile kind
    { state with rest := state.rest.drop skipped.length, used := state.used + skipped.length }

def take (kind : Char → Bool) : Reading (List Char) := do
  let taken := (← get).rest.takeWhile kind
  skip kind
  return taken

def isBlank (c : Char) : Bool := c = ' ' || c = '\t'

def number : Reading Nat := do
  let digits ← take Char.isDigit
  return digits.foldl (fun n d => 10 * n + (d.toNat - '0'.toNat)) 0

/-- What stands behind an opening bracket up to its closing one, backwards; the number bounds the steps. -/
def setUpTo : Nat → List Char → List Char → Option (List Char × List Char)
  | 0, _, _ => none
  | fuel + 1, taken, text =>
    match text with
    | ']' :: rest => some (']' :: taken, rest)
    | '[' :: c :: rest =>
      if c = ':' ∨ c = '.' ∨ c = '=' then
        let inner := rest.takeWhile (· ≠ ']')
        if (rest.drop inner.length).isEmpty then none
        else setUpTo fuel (']' :: inner.reverse ++ c :: '[' :: taken) (rest.drop (inner.length + 1))
      else setUpTo fuel ('[' :: taken) (c :: rest)
    | '\n' :: _ => none
    | c :: rest => setUpTo fuel (c :: taken) rest
    | [] => none

/-- Text up to a mark on the same line. In an expression sets are kept whole, and a mark behind a backslash is plain.
The number bounds the steps. -/
def upTo (mark : Char) (isPattern : Bool) : Nat → List Char → Reading (Option (List Char))
  | 0, _ => return none
  | fuel + 1, taken => do
    if (← peek?) = some '\n' then return none
    match ← next? with
    | none => return none
    | some c =>
      if c = mark then return some taken.reverse
      else if c = '\\' then
        match ← next? with
        | none => return none
        | some d =>
          if d = mark && (isPattern || d ≠ '&') then upTo mark isPattern fuel (d :: taken)
          else if d = 'n' && isPattern then upTo mark isPattern fuel ('\n' :: taken)
          else if d = '\n' && isPattern then upTo mark isPattern fuel (d :: taken)
          else upTo mark isPattern fuel (d :: '\\' :: taken)
      else if c = '[' && isPattern then
        let state ← get
        let (front, body) : List Char × List Char := match state.rest with
          | '^' :: ']' :: rest => ([']', '^'], rest)
          | '^' :: rest => (['^'], rest)
          | ']' :: rest => ([']'], rest)
          | rest => ([], rest)
        match setUpTo (body.length + 1) (front ++ [c]) body with
        | none =>
          skip (· ≠ '\n')
          return none
        | some (set, after) =>
          StateT.set { state with rest := after, used := state.used + (state.rest.length - after.length) }
          upTo mark isPattern fuel (set ++ taken)
      else upTo mark isPattern fuel (c :: taken)

/-- The mark that parts stand between; it has to be a single byte. -/
def checkMark (mark : Char) : Reading Unit := do
  if (← get).manner.wide && 128 ≤ mark.toNat then fail "delimiter character is not a single-byte character"

def withNewlines : Bool → List Char → List Char
  | _, [] => []
  | false, '\\' :: c :: rest => '\\' :: c :: withNewlines false rest
  | true, '\\' :: 'n' :: rest => '\n' :: withNewlines true rest
  | inside, c :: rest =>
    c :: withNewlines (if c = '[' then true else if c = ']' then false else inside) rest

def unescaped (place : EscapePlace) (text : List Char) : Reading (List Char) := do
  match withoutEscapes place (text.length + 1) text with
  | .ok found => return found
  | .error _ => fail "recursive escaping after \\c not allowed"

def gathered (text : List Char) : Reading (List Char) := do
  return if (← get).manner.wide then Text.Characters.gather text else text

def pattern (ignoresCase lines : Bool) (text : List Char) : Reading Pattern := do
  if text.isEmpty then
    if ignoresCase || lines then fail "cannot specify modifiers on empty regexp"
    return none
  else
    let manner := (← get).manner
    let style : Regex.Style :=
      { extended := manner.extended, ignoresCase, lines := lines && manner.mark = '\n', strict := true
        limited := manner.plain, wide := manner.wide }
    let meant ← gathered (← unescaped .expression (withNewlines false text))
    match Regex.read style meant with
    | .ok (regex, _) => return some (regex, style)
    | .error fault => fail fault.message

def addressFlags : Nat → Bool → Bool → Reading (Bool × Bool)
  | 0, ignores, lines => return (ignores, lines)
  | fuel + 1, ignores, lines => do
    if ← plain then return (ignores, lines)
    match ← peek? with
    | some 'I' =>
      let _ ← next?
      addressFlags fuel true lines
    | some 'M' =>
      let _ ← next?
      addressFlags fuel ignores true
    | some ' ' =>
      match ((← get).rest.dropWhile isBlank).head? with
      | some 'I' | some 'M' =>
        skip isBlank
        addressFlags fuel ignores lines
      | _ => return (ignores, lines)
    | _ => return (ignores, lines)

def address? : Reading (Option Address) := do
  match ← peek? with
  | some c =>
    if c.isDigit then
      let first ← number
      skip isBlank
      if (← peek?) = some '~' && !(← plain) then
        let _ ← next?
        skip isBlank
        return some (.stepped first (← number))
      else return some (.line first)
    else if (c = '+' || c = '~') && !(← plain) then
      let _ ← next?
      skip isBlank
      let _ ← number
      fail "invalid usage of +N or ~N as first address"
    else if c = '$' then
      let _ ← next?
      return some .last
    else if c = '/' || c = '\\' then
      let _ ← next?
      let mark ← if c = '/' then pure (some c) else next?
      match mark with
      | none => fail "unterminated address regex"
      | some mark =>
        checkMark mark
        match ← upTo mark true ((← get).rest.length + 1) [] with
        | none => fail "unterminated address regex"
        | some text =>
          let (ignores, lines) ← addressFlags 8 false false
          return some (.fits (← pattern ignores lines text))
    else return none
  | none => return none

def rangeEnd : Reading RangeEnd := do
  skip isBlank
  let onward := fun (make : Nat → RangeEnd) => do
    let _ ← next?
    skip isBlank
    return make (← number)
  let other := do
    match ← address? with
    | some address => return RangeEnd.at address
    | none =>
      let _ ← next?
      fail "unexpected \x60,'"
  match ← plain, ← peek? with
  | false, some '+' => onward .after
  | false, some '~' => onward .multiple
  | _, _ => other

def endCommand : Reading Unit := do
  skip isBlank
  match ← peek? with
  | none | some '\x7d' | some '#' => return
  | some '\n' | some ';' =>
    let _ ← next?
  | some _ =>
    let _ ← next?
    fail "extra characters after command"

def labelName : Reading String := do
  skip isBlank
  return String.ofList (← take fun c => c ≠ ';' && c ≠ '\n' && !isBlank c && c ≠ '\x7d')

def checkGuard : Reading Unit := do
  if (← get).manner.guarded then fail "e/r/w commands disabled in sandbox mode"

def restOfLine : Reading String := do
  checkGuard
  skip isBlank
  let name ← take (· ≠ '\n')
  if name.isEmpty then fail "missing filename in r/R/w/W commands"
  let _ ← next?
  return String.ofList name

def targetOf (name : String) : Reading Target := do
  if name = "/dev/stdout" then return .output
  else if name = "/dev/stderr" then return .errors
  else
    let state ← get
    match state.files.findIdx? (· = name) with
    | some place => return .file place
    | none =>
      StateT.set { state with files := state.files ++ [name] }
      return .file state.files.length

/-- Text up to the end of a line, or of more lines where backslashes stand before their ends. The flag tells that
the piece ends behind a backslash. -/
def textLines : Nat → List Char → Reading (List Char × Bool)
  | 0, taken => return (taken.reverse, false)
  | fuel + 1, taken => do
    match ← next? with
    | none => return (taken.reverse, false)
    | some '\n' => return (taken.reverse, false)
    | some '\\' =>
      match ← next? with
      | none => return (taken.reverse, true)
      | some c => textLines fuel (c :: '\\' :: taken)
    | some c => textLines fuel (c :: taken)

def finished (raw : List Char) : Reading (List Char) := do return (← unescaped .plain raw) ++ ['\n']

def push (selected : Selector) (action : Action) : Reading Unit := do
  modify fun state => { state with commands := state.commands.push { selector := selected, action } }

def textFrom (selected : Selector) (make : List Char → Action) (before : List Char) : Reading Unit := do
  let (raw, goesOn) ← textLines ((← get).rest.length + 1) []
  let text := before ++ raw
  if goesOn then
    modify fun state => { state with unfinished := some { selector := selected, action := make, text } }
  else push selected (make (← finished text))

def textCommand (selected : Selector) (make : List Char → Action) : Reading Unit := do
  skip isBlank
  let lacking : Reading Unit := fail "expected \\ after \x60a', \x60c' or \x60i'"
  match ← peek? with
  | none => lacking
  | some '\\' =>
    let _ ← next?
    let rest := (← get).rest
    -- Blanks behind the backslash belong to the text if it begins there.
    match rest.dropWhile isBlank with
    | [] =>
      skip isBlank
      modify fun state =>
        { state with unfinished := some { selector := selected, action := make, text := [] } }
    | '\n' :: _ =>
      skip isBlank
      let _ ← next?
      textFrom selected make []
    | _ => textFrom selected make []
  | some _ =>
    if ← plain then
      let _ ← next?
      lacking
    else textFrom selected make []

def pieces (plain : Bool) : Nat → List Char → List Piece
  | 0, _ => []
  | _, [] => []
  | fuel + 1, '\\' :: c :: rest =>
    let change := fun kind : CaseChange =>
      (if plain then Piece.text [c] else Piece.change kind) :: pieces plain fuel rest
    match c with
    | 'L' => change .lower
    | 'U' => change .upper
    | 'l' => change .lowerNext
    | 'u' => change .upperNext
    | 'E' => change .stop
    | 'n' => .text ['\n'] :: pieces plain fuel rest
    | _ =>
      if c.isDigit then .group (c.toNat - '0'.toNat) :: pieces plain fuel rest
      else .text [c] :: pieces plain fuel rest
  | fuel + 1, '&' :: rest => .group 0 :: pieces plain fuel rest
  | fuel + 1, c :: rest => .text [c] :: pieces plain fuel rest

structure Flags where
  everywhere : Bool := false
  prints : Bool := false
  printsBefore : Bool := false
  runs : Bool := false
  occurrence : Option Nat := none
  ignoresCase : Bool := false
  lines : Bool := false
  target : Option Target := none

def flags : Nat → Flags → Reading Flags
  | 0, found => return found
  | fuel + 1, found => do
    match ← peek? with
    | none | some '\x7d' | some '#' => return found
    | some '\n' | some ';' =>
      let _ ← next?
      return found
    | some c =>
      if c.isDigit then
        let wanted ← number
        if wanted = 0 then fail "number option to \x60s' command may not be zero"
        if found.occurrence.isSome then fail "multiple number options to \x60s' command"
        flags fuel { found with occurrence := some wanted }
      else
        let _ ← next?
        let unknown : Reading Flags := fail "unknown option to \x60s'"
        let only := fun (further : Reading Flags) => do if ← plain then unknown else further
        match c with
        | 'g' =>
          if found.everywhere then fail "multiple \x60g' options to \x60s' command"
          flags fuel { found with everywhere := true }
        | 'p' =>
          if found.prints || found.printsBefore then fail "multiple \x60p' options to \x60s' command"
          flags fuel (if found.runs then { found with prints := true } else { found with printsBefore := true })
        | 'i' | 'I' => only (flags fuel { found with ignoresCase := true })
        | 'm' | 'M' => only (flags fuel { found with lines := true })
        | 'e' =>
          only do
            checkGuard
            flags fuel { found with runs := true }
        | 'w' =>
          let name ← restOfLine
          return { found with target := some (← targetOf name) }
        | ' ' => flags fuel found
        | _ => unknown

def substitute : Reading Action := do
  let unfinished : Reading Action := fail "unterminated \x60s' command"
  if (← peek?) = some '\n' then unfinished
  else
    match ← next? with
    | none => unfinished
    | some mark =>
      if mark = '\\' then unfinished
      else
        checkMark mark
        match ← upTo mark true ((← get).rest.length + 1) [] with
        | none => unfinished
        | some text =>
          match ← upTo mark false ((← get).rest.length + 1) [] with
          | none => unfinished
          | some replacement =>
            let found ← flags 100 {}
            let made ← pattern found.ignoresCase found.lines text
            let plain ← plain
            let read ← gathered (← unescaped .replacement replacement)
            let parts := pieces plain (read.length + 1) read
            let known := (made.map fun found => Regex.groupCount found.1).getD 9
            let wanted := parts.foldl (fun most part => match part with
              | .group number => max most number
              | _ => most) 0
            if known < wanted then
              fail ("invalid reference \\" ++ toString wanted ++ " on \x60s' command's RHS")
            return .substitute
              { pattern := made, pieces := parts, everywhere := found.everywhere
                occurrence := found.occurrence.getD 1, runs := found.runs, target := found.target
                prints := if found.runs then found.prints else found.printsBefore
                printsBefore := found.runs && found.printsBefore }

def tableChars : List Char → List Char
  | '\\' :: 'n' :: rest => '\n' :: tableChars rest
  | '\\' :: c :: rest => c :: tableChars rest
  | c :: rest => c :: tableChars rest
  | [] => []

def transliterate : Reading Action := do
  let unfinished : Reading Action := fail "unterminated \x60y' command"
  if (← peek?) = some '\n' then unfinished
  else
    match ← next? with
    | none => unfinished
    | some mark =>
      checkMark mark
      match ← upTo mark false ((← get).rest.length + 1) [] with
      | none => unfinished
      | some text =>
        match ← upTo mark false ((← get).rest.length + 1) [] with
        | none => unfinished
        | some other =>
          let old := tableChars (← gathered (← unescaped .expression text))
          let new := tableChars (← gathered (← unescaped .expression other))
          if old.length ≠ new.length then fail "strings for \x60y' command are different lengths"
          endCommand
          return .transliterate (old.zip new)

def optionalNumber : Reading (Option Nat) := do
  if ← plain then return none
  skip isBlank
  match ← peek? with
  | some c => if c.isDigit then return some (← number) else return none
  | none => return none

def version : List Nat := [4, 9]

def isKnownVersion (name : String) : Bool :=
  let parts := name.toList.splitOn '.'
  if name = "" then true
  else if parts.all fun part => part ≠ [] && part.all Char.isDigit then
    !(decide (version < parts.map (Text.valueIn 10)))
  else false

def actionOf (letter : Char) : Reading Action := do
  let simple := fun action : Action => do
    endCommand
    return action
  let unknown : Reading Action := fail ("unknown command: \x60" ++ String.ofList [letter] ++ "'")
  if (← plain) && "FzQTRWve".toList.contains letter then unknown
  else
  match letter with
  | 's' => substitute
  | 'y' => transliterate
  | 'd' => simple .delete
  | 'D' => simple .deleteFirst
  | 'p' => simple .print
  | 'P' => simple .printFirst
  | 'n' => simple .next
  | 'N' => simple .appendNext
  | 'h' => simple (.hold false)
  | 'H' => simple (.hold true)
  | 'g' => simple (.fetch false)
  | 'G' => simple (.fetch true)
  | 'x' => simple .exchange
  | '=' => simple .number
  | 'F' => simple .fileName
  | 'z' => simple .clear
  | 'q' => do
    let status ← optionalNumber
    simple (.quit (status.getD 0) false)
  | 'Q' => do
    let status ← optionalNumber
    simple (.quit (status.getD 0) true)
  | 'l' => do
    let width ← optionalNumber
    simple (.list width)
  | 'b' => do
    let label ← labelName
    simple (.branch label)
  | 't' => do
    let label ← labelName
    simple (.branchIf label true)
  | 'T' => do
    let label ← labelName
    simple (.branchIf label false)
  | 'r' => return .readFile (← restOfLine)
  | 'R' => return .readLine (← restOfLine)
  | 'w' => return .writeFile (← targetOf (← restOfLine)) false
  | 'W' => return .writeFile (← targetOf (← restOfLine)) true
  | 'e' => do
    checkGuard
    skip isBlank
    let command ← take (· ≠ '\n')
    let _ ← next?
    return .run command
  | 'v' => do
    let wanted ← labelName
    if !isKnownVersion wanted then fail "expected newer version of sed"
    simple .nothing
  | _ => unknown

def selector : Reading Selector := do
  match ← address? with
  | none => return {}
  | some first =>
    skip isBlank
    let last ← if (← peek?) = some ',' then do
        let _ ← next?
        pure (some (← rangeEnd))
      else pure none
    return { first := some first, last }

def negation (selected : Selector) : Reading Selector := do
  skip isBlank
  if (← peek?) = some '!' then
    let _ ← next?
    skip isBlank
    if (← peek?) = some '!' then
      let _ ← next?
      fail "multiple \x60!'s"
    return { selected with negated := true }
  else return selected

def checkZero (selected : Selector) : Reading Unit := do
  match selected.first, selected.last with
  | some (.line 0), some (.at (.fits _)) =>
    if ← plain then fail "invalid usage of line address 0"
  | some (.line 0), _ => fail "invalid usage of line address 0"
  | _, _ => return

def singles (plain : Bool) : List Char := if plain then "qQ=air".toList else "qQ".toList

def commands : Nat → Reading Unit
  | 0 => return
  | fuel + 1 => do
    skip fun c => isBlank c || c = '\n' || c = ';'
    if (← peek?).isNone then return
    let selected ← negation (← selector)
    match ← next? with
    | none => fail "missing command"
    | some letter =>
      checkZero selected
      if selected.last.isSome && (singles (← plain)).contains letter then fail "command only uses one address"
      match letter with
      | '#' =>
        if selected.first.isSome then fail "comments don't accept any addresses"
        skip (· ≠ '\n')
      | ':' =>
        if selected.first.isSome then fail ": doesn't want any addresses"
        let name ← labelName
        if name = "" then fail "\":\" lacks a label"
        push selected (.label name)
      | '\x7b' =>
        let place := (← get).commands.size
        push selected (.block place)
        let here ← spot
        modify fun state => { state with blocks := (place, here) :: state.blocks }
      | '\x7d' =>
        match (← get).blocks with
        | [] => fail "unexpected \x60\x7d'"
        | (start, _) :: others =>
          if selected.first.isSome then fail "\x60\x7d' doesn't want any addresses"
          push {} .close
          modify fun state =>
            let close := state.commands.size - 1
            { state with
              blocks := others
              commands := state.commands.modify start fun command => { command with action := .block close } }
          endCommand
      | 'a' => textCommand selected .append
      | 'i' => textCommand selected .insert
      | 'c' => textCommand selected .change
      | _ =>
        let action ← actionOf letter
        push selected action
      commands fuel

def chunks : List Chunk → Reading Unit
  | [] => return
  | piece :: rest => do
    let waiting := (← get).unfinished
    modify fun state => { state with rest := piece.text, used := 0, unfinished := none }
    match waiting with
    | some command =>
      textFrom command.selector command.action (if command.text = [] then [] else command.text ++ ['\\', '\n'])
    | none => pure ()
    commands (piece.text.length + 1)
    modify fun state => { state with chunk := state.chunk + 1 }
    chunks rest

def close : Reading Unit := do
  match (← get).unfinished with
  | some command =>
    let text ← if command.text = [] then pure [] else finished command.text
    push command.selector (command.action text)
  | none => pure ()
  match (← get).blocks with
  | (_, spot) :: _ => throw { message := "unmatched \x60\x7b'", spot := some { spot with exact := false } }
  | [] => return

end Reading

def Script.read (manner : Manner) (pieces : List Chunk) : Except Fault Script := do
  let ((), state) ← (do Reading.chunks pieces; Reading.close : Reading Unit).run { manner }
  let script : Script := { commands := state.commands, files := state.files }
  match (script.commands.toList.filterMap fun command => command.action.goal?).find? fun label =>
      (script.place? label).isNone with
  | some label => throw { message := "can't find label for jump to \x60" ++ label ++ "'", status := 4 }
  | none => return script

end Assay.Utility.Edit
