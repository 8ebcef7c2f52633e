import Assay.Json.Numeral

/-!
JSON values and their text. The long form puts every item on a line of its own, two spaces deeper
than its container; the short form has no spaces.
-/

namespace Assay

inductive Json
  | null
  | bool (value : Bool)
  | number (numeral : Numeral)
  | text (content : String)
  | list (items : List Json)
  | object (fields : List (String × Json))
deriving Inhabited

namespace Json

def ofNat (n : Nat) : Json := .number (Numeral.ofNat n)

def ofInt (i : Int) : Json := .number (Numeral.ofInt i)

def ofBinary (x : Binary64) : Json := .number (Numeral.ofBinary x)

def hexDigit (n : Nat) : Char :=
  if n < 10 then Char.ofNat ('0'.toNat + n) else Char.ofNat ('a'.toNat + (n - 10))

def escapeChar (c : Char) : List Char :=
  match c with
  | '"' => ['\\', '"']
  | '\\' => ['\\', '\\']
  | '\x08' => ['\\', 'b']
  | '\t' => ['\\', 't']
  | '\n' => ['\\', 'n']
  | '\x0c' => ['\\', 'f']
  | '\r' => ['\\', 'r']
  | c =>
    if c.toNat < 0x20 then ['\\', 'u', '0', '0', hexDigit (c.toNat / 16), hexDigit (c.toNat % 16)]
    else [c]

def quote (content : String) : List Char :=
  '"' :: content.toList.flatMap escapeChar ++ ['"']

def renderBool (value : Bool) : List Char := if value then "true".toList else "false".toList

def newLine (depth : Nat) : List Char := '\n' :: List.replicate (2 * depth) ' '

mutual

def renderShort : Json → List Char
  | .null => "null".toList
  | .bool value => renderBool value
  | .number numeral => numeral.render
  | .text content => quote content
  | .list items => '[' :: renderShortItems items ++ [']']
  | .object fields => '\x7b' :: renderShortFields fields ++ ['\x7d']

def renderShortItems : List Json → List Char
  | [] => []
  | [item] => renderShort item
  | item :: rest => renderShort item ++ ',' :: renderShortItems rest

def renderShortFields : List (String × Json) → List Char
  | [] => []
  | [(name, value)] => quote name ++ ':' :: renderShort value
  | (name, value) :: rest => quote name ++ ':' :: renderShort value ++ ',' :: renderShortFields rest

end

mutual

def renderLong (depth : Nat) : Json → List Char
  | .null => "null".toList
  | .bool value => renderBool value
  | .number numeral => numeral.render
  | .text content => quote content
  | .list [] => ['[', ']']
  | .list (item :: rest) =>
    '[' :: newLine (depth + 1) ++ renderLong (depth + 1) item ++ renderLongItems (depth + 1) rest
      ++ newLine depth ++ [']']
  | .object [] => ['\x7b', '\x7d']
  | .object ((name, value) :: rest) =>
    '\x7b' :: newLine (depth + 1) ++ quote name ++ ':' :: ' ' :: renderLong (depth + 1) value
      ++ renderLongFields (depth + 1) rest ++ newLine depth ++ ['\x7d']

def renderLongItems (depth : Nat) : List Json → List Char
  | [] => []
  | item :: rest => ',' :: newLine depth ++ renderLong depth item ++ renderLongItems depth rest

def renderLongFields (depth : Nat) : List (String × Json) → List Char
  | [] => []
  | (name, value) :: rest =>
    ',' :: newLine depth ++ quote name ++ ':' :: ' ' :: renderLong depth value
      ++ renderLongFields depth rest

end

def short (value : Json) : String := String.ofList (renderShort value)

def long (value : Json) : String := String.ofList (renderLong 0 value)

end Json

end Assay
