import Assay.Text.Numeral
import Assay.Text.Regex

/-!
Patterns in texts: what separates fields and records, and what is replaced.
-/

namespace Assay.Utility.Records

open Text (Regex)

structure Pattern where
  source : String
  regex : Regex

namespace Pattern

def style : Regex.Style := { extended := true }

def escaped : List Char → Option (Char × List Char)
  | [] => none
  | c :: rest =>
    match [('n', '\n'), ('t', '\t'), ('r', '\r'), ('f', '\x0c'), ('v', '\x0b'), ('a', '\x07'),
        ('b', '\x08')].lookup c with
    | some mark => some (mark, rest)
    | none =>
      let octal := ((c :: rest).take 3).takeWhile (Text.isDigitIn 8)
      let hexadecimal := if c = 'x' then (rest.take 2).takeWhile (Text.isDigitIn 16) else []
      if !octal.isEmpty then some (Char.ofNat (Text.valueIn 8 octal % 256), (c :: rest).drop octal.length)
      else if !hexadecimal.isEmpty then some (Char.ofNat (Text.valueIn 16 hexadecimal), rest.drop hexadecimal.length)
      else none

def isOperator (c : Char) : Bool := "\\^$.[]|()*+?\x7b\x7d".toList.contains c

/-- The members of a set up to its closing bracket, with escapes read. Brackets and lines that stand for
themselves come first and last. -/
def setBody : Nat → Bool → List Char → Option (List Char × Bool × Bool × List Char)
  | 0, _, _ => none
  | _, _, [] => none
  | fuel + 1, first, c :: rest =>
    let going := fun (front : List Char) (bracket line : Bool) (left : List Char) =>
      (setBody fuel false left).map fun (text, hasBracket, hasLine, after) =>
        (front ++ text, bracket || hasBracket, line || hasLine, after)
    if c = ']' ∧ ¬first then some ([], false, false, rest)
    else if c = ']' then going [] true false rest
    else if c = '[' ∧ rest.head? = some ':' then
      let name := (rest.drop 1).takeWhile Char.isAlpha
      match rest.drop (name.length + 1) with
      | ':' :: ']' :: after => going ('[' :: ':' :: name ++ [':', ']']) false false after
      | _ => going ['['] false false rest
    else if c = '\\' then
      match rest with
      | [] => none
      | d :: more =>
        let (meant, left) := (escaped rest).getD (d, more)
        if meant = ']' then going [] true false left
        else if meant = '-' then going [] false true left
        else going [meant] false false left
    else going [c] false false rest

/-- An expression with its escapes in the usual extended form. Nothing counts how often something is
repeated, so curly brackets stand for themselves. -/
def plainForm : Nat → List Char → List Char
  | 0, _ => []
  | _, [] => []
  | fuel + 1, '\\' :: rest =>
    match rest with
    | [] => ['\\', '\\']
    | d :: more =>
      match escaped rest with
      | some (meant, left) => (if isOperator meant then ['\\', meant] else [meant]) ++ plainForm fuel left
      | none => (if isOperator d then ['\\', d] else [d]) ++ plainForm fuel more
  | fuel + 1, '[' :: rest =>
    let (negated, inside) := match rest with
      | '^' :: more => (true, more)
      | _ => (false, rest)
    match setBody (inside.length + 1) true inside with
    | none => '[' :: plainForm fuel rest
    | some (text, bracket, line, after) =>
      let head := if text.head? = some '^' && !negated && !bracket then text.drop 1 ++ ['^'] else text
      ('[' :: (if negated then ['^'] else []) ++ (if bracket then [']'] else []) ++ head
        ++ (if line then ['-'] else []) ++ [']']) ++ plainForm fuel after
  | fuel + 1, c :: rest => (if c = '\x7b' ∨ c = '\x7d' then ['\\', c] else [c]) ++ plainForm fuel rest

def complaint (fault : Regex.Fault) : String :=
  match fault with
  | .openGroup => "missing ')'"
  | .strayBracket => "missing '('"
  | .openSet => "bad class -- [], [^] or ["
  | .nothingToRepeat => "missing operand"
  | _ => "syntax error ^* or ^+"

def read (source : String) : Except String Pattern :=
  match Regex.read style (plainForm (source.length + 1) source.toList) with
  | .ok (regex, _) => .ok { source, regex }
  | .error fault => .error ("regular expression compile failed (" ++ complaint fault ++ ")\n" ++ source)

def find? (pattern : Pattern) (text : Array Char) (start : Nat) : Option (Nat × Nat) :=
  (Regex.find? { chars := text, style } pattern.regex start).map fun found => (found.start, found.stop)

def fits (pattern : Pattern) (text : String) : Bool := (pattern.find? text.toList.toArray 0).isSome

def slice (text : Array Char) (start stop : Nat) : List Char := (text.extract start stop).toList

/-- The parts of a text between places where the pattern fits. Where nothing fits into, nothing is divided. The
number bounds the parts. -/
def pieces (pattern : Pattern) (text : Array Char) : Nat → Nat → Nat → List (List Char)
  | 0, start, _ => [slice text start text.size]
  | fuel + 1, start, place =>
    match pattern.find? text place with
    | none => [slice text start text.size]
    | some (first, stop) =>
      if first = stop then
        if first < text.size then pieces pattern text fuel start (first + 1) else [slice text start text.size]
      else slice text start first :: pieces pattern text fuel stop stop

end Pattern

inductive Separator
  | blanks
  | each
  | char (c : Char)
  | fitting (pattern : Pattern)

namespace Separator

def isBlank (c : Char) : Bool := c = ' ' || c = '\t' || c = '\n'

def words (text : List Char) : List (List Char) :=
  ((text.splitBy fun a b => isBlank a = isBlank b)).filter fun word => !(word.head?.map isBlank).getD true

def fields (separator : Separator) (text : List Char) : List (List Char) :=
  if text.isEmpty then []
  else
    match separator with
    | .blanks => words text
    | .each => text.map fun c => [c]
    | .char c => text.splitOn c
    | .fitting pattern =>
      let whole := text.toArray
      pattern.pieces whole (whole.size + 1) 0 0

end Separator

inductive RecordEnd
  | char (c : Char)
  | paragraph
  | fitting (pattern : Pattern)

namespace RecordEnd

def paragraphOf : List Char → List Char × List Char
  | '\n' :: '\n' :: rest => ([], rest.dropWhile (· = '\n'))
  | ['\n'] => ([], [])
  | c :: rest =>
    let (text, after) := paragraphOf rest
    (c :: text, after)
  | [] => ([], [])

def upTo (c : Char) (text : List Char) : List Char × List Char :=
  let record := text.takeWhile (· ≠ c)
  (record, (text.drop record.length).drop 1)

def next? (recordEnd : RecordEnd) (text : List Char) : Option (List Char × List Char) :=
  match recordEnd with
  | .char c => if text.isEmpty then none else some (upTo c text)
  | .paragraph =>
    let body := text.dropWhile (· = '\n')
    if body.isEmpty then none else some (paragraphOf body)
  | .fitting pattern =>
    if text.isEmpty then none
    else
      let whole := text.toArray
      match pattern.find? whole 0 with
      | some (start, stop) =>
        if start = stop then some (text, []) else some (text.take start, text.drop stop)
      | none => some (text, [])

end RecordEnd

/-- What a replacement puts in place of a part: the part itself for every plain sign of it. -/
def filledIn (part : List Char) : List Char → List Char
  | '\\' :: '\\' :: '&' :: rest => '\\' :: (part ++ filledIn part rest)
  | '\\' :: '&' :: rest => '&' :: filledIn part rest
  | '&' :: rest => part ++ filledIn part rest
  | c :: rest => c :: filledIn part rest
  | [] => []

/-- Replaces the parts that fit from a place on, at most so many of them. `free` tells that an empty part may be
replaced here. -/
def replaced (pattern : Pattern) (filling : List Char) (text : Array Char) :
    Nat → Nat → Bool → Nat → List Char × Nat
  | 0, start, _, _ => (Pattern.slice text start text.size, 0)
  | fuel + 1, start, free, most =>
    if most = 0 then (Pattern.slice text start text.size, 0)
    else
      match pattern.find? text start with
      | none => (Pattern.slice text start text.size, 0)
      | some (first, stop) =>
        let front := Pattern.slice text start first
        if first = stop then
          let allowed := free || start < first
          let mark := if allowed then filledIn [] filling else []
          let count := if allowed then 1 else 0
          match text[first]? with
          | none => (front ++ mark, count)
          | some c =>
            let (rest, more) := replaced pattern filling text fuel (first + 1) true (most - count)
            (front ++ mark ++ c :: rest, more + count)
        else
          let (rest, more) := replaced pattern filling text fuel stop false (most - 1)
          (front ++ filledIn (Pattern.slice text first stop) filling ++ rest, more + 1)

def substitute (pattern : Pattern) (filling text : List Char) (most : Nat) : List Char × Nat :=
  let whole := text.toArray
  replaced pattern filling whole (whole.size + 2) 0 true most

end Assay.Utility.Records
