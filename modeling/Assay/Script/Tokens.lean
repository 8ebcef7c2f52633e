import Assay.Script.Words

/-!
Reading tokens: operators, words, keywords, and what an alias stands for.
-/

namespace Assay.Script

structure Checks where
  keywords : Bool := false
  aliases : Bool := false
  newLines : Bool := false
  setting : Setting := .bare

namespace Tokens

open Reading

def keywords : List String :=
  ["!", "\x7b", "\x7d", "case", "do", "done", "elif", "else", "esac", "fi", "for", "if", "in", "then",
   "until", "while"]

def richKeywords : List String := ["[[", "coproc", "function", "select", "time"]

def isKeyword (dialect : Dialect) (text : String) : Bool :=
  keywords.contains text || (dialect = .rich && richKeywords.contains text)

def direction (sign : Char) (rich : Bool) : Reading (Nat × Direction) := do
  if sign = '>' then
    if ← accept '>' then return (1, .append)
    else if ← accept '|' then return (1, .overwrite)
    else if ← accept '&' then return (1, .duplicate)
    else return (1, .write)
  else
    if ← accept '<' then
      if rich then
        if ← accept '<' then return (0, .line)
      if ← accept '-' then return (0, .document 1)
      else return (0, .document 0)
    else if ← accept '&' then return (0, .duplicate)
    else if ← accept '>' then return (0, .readWrite)
    else return (0, .read)

def channel? (rich : Bool) : Word → Option (Option Nat)
  | [] => some none
  | [.text digits false] =>
    if digits.all Char.isDigit ∧ (digits.length = 1 ∨ (rich ∧ digits ≠ [])) then
      some (some (digits.foldl (fun value digit => 10 * value + (digit.toNat - '0'.toNat)) 0))
    else none
  | _ => none

/-- A name between braces right before a redirection is that of a variable which keeps the channel. -/
def holder? (rich : Bool) : Word → Option String
  | [.text ('\x7b' :: rest) false] =>
    let name := rest.dropLast.takeWhile (· ≠ '[')
    let index := rest.dropLast.drop name.length
    if rich && rest.getLast? = some '\x7d' && isName name && (index = [] || index.getLast? = some ']') then
      some (String.ofList rest.dropLast)
    else none
  | _ => none

def wordToken (inner : Inner) (setting : Setting) : Reading Token := do
  let opening := (← get).text
  let parts ← Words.read inner setting
  modify fun source => { source with opening }
  let rich : Bool := (← get).dialect = .rich
  match ← peek with
  | some sign =>
    if sign = '<' ∨ sign = '>' then
      match channel? rich parts, holder? rich parts with
      | some named, _ =>
        let _ ← next
        let (usual, what) ← direction sign rich
        return .redirect (named.getD usual) what ""
      | none, some holder =>
        let _ ← next
        let (usual, what) ← direction sign rich
        return .redirect usual what holder
      | none, none => return .word parts
    else return .word parts
  | none => return .word parts

def lex (inner : Inner) (setting : Setting) : Nat → Reading Token
  | 0 => return .endOfText
  | fuel + 1 => do
    let rich : Bool := (← get).dialect = .rich
    match ← peekJoined with
    | none => return .endOfText
    | some c =>
      if c = ' ' ∨ c = '\t' then
        let _ ← next
        lex inner setting fuel
      else if setting = .regex && !setting.ends c then wordToken inner setting
      else if c = '#' then
        modify fun source => { source with text := source.text.dropWhile (· ≠ '\n') }
        lex inner setting fuel
      else if c = '\n' then
        let _ ← next
        return .newLine
      else if c = '&' then
        let _ ← next
        if ← accept '&' then return .operator "&&"
        else if rich && (← peek) = some '>' then
          let _ ← next
          if ← accept '>' then return .redirect 1 .appendBoth "" else return .redirect 1 .writeBoth ""
        else return .operator "&"
      else if c = '|' then
        let _ ← next
        if ← accept '|' then return .operator "||"
        else if rich then
          if ← accept '&' then return .operator "|&" else return .operator "|"
        else return .operator "|"
      else if c = ';' then
        let _ ← next
        if ← accept ';' then
          if rich then
            if ← accept '&' then return .operator ";;&"
          return .operator ";;"
        else if rich then
          if ← accept '&' then return .operator ";&" else return .operator ";"
        else return .operator ";"
      else if c = '(' ∨ c = ')' then
        let _ ← next
        return .operator (String.ofList [c])
      else wordToken inner setting

/-- Skips line ends; after each one the documents that wait are read. -/
def skipLines (inner : Inner) : Nat → Token → Reading Token
  | 0, token => return token
  | fuel + 1, token =>
    match token with
    | .newLine => do
      Words.documents inner
      skipLines inner fuel (← lex inner .bare limit)
    | _ => return token

def alias? (source : Source) (name : String) : Option String :=
  let left := source.text.length
  if source.working.any fun item => item.1 = name && left ≥ item.2 then none
  else source.aliases.lookup name

def read (inner : Inner) (checks : Checks) : Nat → Reading Token
  | 0 => return .endOfText
  | fuel + 1 => do
    let source ← get
    let first ←
      if source.pushed then do
        set { source with pushed := false }
        pure source.last
      else lex inner checks.setting limit
    let token ← if checks.newLines then skipLines inner limit first else pure first
    let final ←
      match token with
      | .word parts =>
        match Part.plain? parts with
        | none => pure token
        | some text =>
          if checks.keywords && isKeyword (← get).dialect text then pure (.keyword text)
          else if checks.aliases && !(← get).aliases.isEmpty then
            let current ← get
            match alias? current text with
            | none => pure token
            | some meaning =>
              set { current with
                text := meaning.toList ++ ' ' :: current.text
                working := (text, current.text.length + 1) :: current.working }
              read inner checks fuel
          else pure token
      | _ => pure token
    modify fun after => { after with last := final }
    return final

def putBack : Reading Unit := modify fun source => { source with pushed := true }

end Tokens

namespace Token

def isEnd : Token → Bool
  | endOfText => true
  | keyword text => ["do", "done", "elif", "else", "esac", "fi", "then", "\x7d"].contains text
  | operator text => text = ")" || text = ";;" || text = ";&" || text = ";;&"
  | _ => false

def shown : Token → String
  | word _ => "word"
  | keyword text => "\"" ++ text ++ "\""
  | operator text => "\"" ++ text ++ "\""
  | redirect .. => "redirection"
  | newLine => "newline"
  | endOfText => "end of file"

def written : Token → String
  | word parts => String.ofList (Words.markOf parts)
  | keyword text | operator text => text
  | redirect _ .read _ => "<"
  | redirect _ .append _ => ">>"
  | redirect .. => ">"
  | newLine => "newline"
  | endOfText => "end of file"

end Token

end Assay.Script
