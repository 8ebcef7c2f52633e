import Assay.Utility.Records.Pattern
import Assay.Utility.Records.Value

/-!
The words and signs of programs that work on records, with the lines they stand on.
-/

namespace Assay.Utility.Records

inductive Token
  | number (source : String) (x : Float)
  | quoted (source content : String)
  | pattern (source : String)
  | word (name : String)
  | applied (name : String)
  | own (name : String)
  | keyword (word : String)
  | sign (text : String)
  | newline
  | finish
  | bad (messages : List String)
deriving BEq

structure Lexeme where
  token : Token
  line : Nat

namespace Token

def keywords : List String :=
  ["BEGIN", "END", "if", "else", "while", "for", "do", "break", "continue", "next", "nextfile", "exit", "return",
   "delete", "in", "getline", "print", "printf", "function", "func"]

/-- The functions of the language, and how many arguments they take. -/
def ownFunctions : List (String × Nat × Nat) :=
  [("length", 0, 1), ("substr", 2, 3), ("index", 2, 2), ("split", 2, 3), ("sub", 2, 3), ("gsub", 2, 3),
   ("match", 2, 2), ("sprintf", 1, 255), ("sin", 1, 1), ("cos", 1, 1), ("atan2", 2, 2), ("exp", 1, 1), ("log", 1, 1),
   ("sqrt", 1, 1), ("int", 1, 1), ("rand", 0, 0), ("srand", 0, 1), ("tolower", 1, 1), ("toupper", 1, 1),
   ("system", 1, 1), ("close", 1, 1), ("fflush", 0, 1), ("systime", 0, 0)]

def isNameStart (c : Char) : Bool := c.isAlpha || c = '_'

def isNameChar (c : Char) : Bool := c.isAlphanum || c = '_'

/-- A sign that divides if it follows this token; otherwise it opens a pattern. -/
def endsValue : Token → Bool
  | .number .. | .quoted .. | .word _ => true
  | .sign text => [")", "]", "++", "--"].contains text
  | _ => false

def shown : Token → String
  | .number source _ | .quoted source _ => source
  | .pattern source => "/" ++ source ++ "/"
  | .word name | .applied name | .own name => name
  | .keyword name => name
  | .sign text => text
  | .newline => "end of line"
  | .finish => "end of file"
  | .bad _ => ""

def marks : List String :=
  ["&&", "||", "++", "--", "+=", "-=", "*=", "/=", "%=", "^=", "==", "<=", ">=", "!=", ">>", "!~", "(", ")", "[", "]",
   "\x7b", "\x7d", ";", ",", "+", "-", "*", "/", "%", "^", "!", "<", ">", "|", "?", ":", "~", "$", "="]

/-- The content of a text up to its closing quote, with escapes read, and what follows it. -/
def textBody : Nat → List Char → Option (List Char × List Char)
  | 0, _ => none
  | _, [] => none
  | fuel + 1, c :: rest =>
    let going := fun (front : List Char) (left : List Char) =>
      (textBody fuel left).map fun (text, after) => (front ++ text, after)
    if c = '"' then some ([], rest)
    else if c = '\n' then none
    else if c ≠ '\\' then going [c] rest
    else
      match rest with
      | [] => none
      | '\n' :: more => going [] more
      | d :: more =>
        if d = '"' ∨ d = '\\' then going [d] more
        else
          match Pattern.escaped rest with
          | some (meant, left) => going [meant] left
          | none => going ['\\', d] more

def patternBody : Nat → Bool → List Char → Option (List Char × List Char)
  | 0, _, _ => none
  | _, _, [] => none
  | fuel + 1, boxed, c :: rest =>
    let going := fun (boxed : Bool) (front : List Char) (left : List Char) =>
      (patternBody fuel boxed left).map fun (text, after) => (front ++ text, after)
    if c = '/' ∧ ¬boxed then some ([], rest)
    else if c = '\n' then none
    else if c = '\\' then
      match rest with
      | '/' :: more => going boxed ['/'] more
      | d :: more => going boxed ['\\', d] more
      | [] => none
    else if c = '[' ∧ ¬boxed then
      match rest with
      | ']' :: more => going true ['[', ']'] more
      | '^' :: ']' :: more => going true ['[', '^', ']'] more
      | _ => going true ['['] rest
    else if c = ']' then going false [c] rest
    else going boxed [c] rest

def runaway (kind : String) (mark : Char) (line : Nat) (body : List Char) : Token :=
  let start := body.takeWhile (· ≠ '\n')
  .bad ["line " ++ toString line ++ ": runaway " ++ kind ++ " " ++ String.ofList (mark :: start.take 10) ++ " ..."]

structure Depth where
  rounds : Nat := 0
  curlies : Nat := 0

def scan : Nat → Nat → Depth → Token → List Char → List Lexeme
  | 0, line, _, _, _ => [{ token := .finish, line }]
  | fuel + 1, line, depth, last, text =>
    let give := fun (token : Token) (rest : List Char) =>
      { token, line : Lexeme } :: scan fuel line depth token rest
    let stop := fun (token : Token) => [{ token, line : Lexeme }]
    match text with
    | [] => [{ token := .newline, line }, { token := .finish, line := line + 1 }]
    | '\n' :: rest => { token := .newline, line } :: scan fuel (line + 1) depth .newline rest
    | '\\' :: '\n' :: rest => scan fuel (line + 1) depth last rest
    | '\\' :: '\r' :: '\n' :: rest => scan fuel (line + 1) depth last rest
    | c :: rest =>
      if c = ' ' ∨ c = '\t' ∨ c = '\r' then scan fuel line depth last rest
      else if c = '#' then scan fuel line depth last (rest.dropWhile (· ≠ '\n'))
      else if c = '"' then
        match textBody (rest.length + 1) rest with
        | some (content, after) =>
          let source := String.ofList (text.take (text.length - after.length))
          { token := .quoted source (String.ofList content), line } ::
            scan fuel (line + (source.toList.filter (· = '\n')).length) depth (.quoted "" "") after
        | none => stop (runaway "string constant" '"' line rest)
      else if c = '/' ∧ !last.endsValue then
        match patternBody (rest.length + 1) false rest with
        | some (source, after) => give (.pattern (String.ofList source)) after
        | none => stop (runaway "regular expression" '/' line rest)
      else if c.isDigit || (c = '.' && (rest.head?.map Char.isDigit).getD false) then
        match Text.scanDecimal text with
        | some (_, _, _, after) =>
          let source := text.take (text.length - after.length)
          give (.number (String.ofList source) (numberIn source)) after
        | none => stop (.bad [toString line ++ ": unexpected character '" ++ String.ofList [c] ++ "'"])
      else if isNameStart c then
        let name := text.takeWhile isNameChar
        let after := text.drop name.length
        let whole := String.ofList name
        if keywords.contains whole then give (.keyword (if whole = "func" then "function" else whole)) after
        else if (ownFunctions.lookup whole).isSome then give (.own whole) after
        else if after.head? = some '(' then give (.applied whole) after
        else give (.word whole) after
      else
        match marks.find? fun mark => mark.toList.isPrefixOf text with
        | none => stop (.bad [toString line ++ ": unexpected character '" ++ String.ofList [c] ++ "'"])
        | some mark =>
          let after := text.drop mark.length
          let going := fun (depth : Depth) =>
            { token := .sign mark, line : Lexeme } :: scan fuel line depth (.sign mark) after
          let front := "line " ++ toString line ++ ": "
          match mark with
          | "(" => going { depth with rounds := depth.rounds + 1 }
          | ")" =>
            if depth.rounds = 0 then stop (.bad [front ++ "extra ')'"])
            else going { depth with rounds := depth.rounds - 1 }
          | "\x7b" => going { depth with curlies := depth.curlies + 1 }
          | "\x7d" =>
            if depth.curlies = 0 then
              let next := (after.dropWhile fun c => c = ' ' || c = '\t').head?
              let near := match next with
                | none | some '\n' => "end of line"
                | some other => String.ofList [other]
              stop (.bad [front ++ "extra '\x7d'", front ++ "syntax error at or near " ++ near])
            else going { depth with curlies := depth.curlies - 1 }
          | _ => going depth

def ofText (text : String) : List Lexeme := scan (text.length + 2) 1 {} .newline text.toList

end Token

end Assay.Utility.Records
