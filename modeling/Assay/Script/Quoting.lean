import Assay.Script.Work
import Assay.Text.CharClass
import Assay.Text.Octets

/-!
Texts and variables in forms that can be read again. Where characters have several bytes, those that can
be seen are shown as they are.
-/

namespace Assay.Script

def Value.members (value : Value) : List (String × String) :=
  match value with
  | .missing => []
  | .single text => [("0", text)]
  | .list members =>
    (members.mergeSort fun left right => left.1 ≤ right.1).map fun (place, text) => (toString place, text)
  | .table members =>
    members.mergeSort fun left right => Work.rank true 1024 left.1 ≤ Work.rank true 1024 right.1

namespace Quoting

def isPrintable (wide : Bool) (c : Char) : Bool :=
  if c.toNat < 128 then 32 ≤ c.toNat && c.toNat ≠ 127 else wide && Text.Alphabet.isVisible c

def pieces (wide : Bool) (text : String) : List (Char × List Char) :=
  if wide then (Text.Characters.gather text.toList).map fun c => (c, Text.Characters.octetsOf c)
  else text.toList.map fun c => (c, [c])

def isClean (wide : Bool) (text : String) : Bool := (pieces wide text).all fun piece => isPrintable wide piece.1

/-- A text between single quotes; one in it stands alone behind a backslash. -/
def wrapped (text : String) : String := "'" ++ text.replace "'" "'\\''" ++ "'"

def octetEscape (c : Char) : List Char :=
  match [('\n', 'n'), ('\t', 't'), ('\r', 'r'), ('\x07', 'a'), ('\x08', 'b'), ('\x0c', 'f'),
      ('\x0b', 'v'), ('\x1b', 'E'), ('\\', '\\'), ('\'', '\'')].lookup c with
  | some letter => ['\\', letter]
  | none =>
    let digits := Nat.toDigits 8 c.toNat
    '\\' :: List.replicate (3 - digits.length) '0' ++ digits

def escaped (wide : Bool) (text : String) : String :=
  let shown := (pieces wide text).flatMap fun (c, octets) =>
    if isPrintable wide c && c ≠ '\\' && c ≠ '\'' then octets else octets.flatMap octetEscape
  "$'" ++ String.ofList shown ++ "'"

def reusable (wide : Bool) (text : String) : String :=
  if isClean wide text then wrapped text else escaped wide text

def requoted (wide : Bool) (text : String) : String :=
  let special := fun c : Char => " \t\n'\"\\|&;()<>!\x7b\x7d*[]?^$\x60".toList.contains c
  if text = "" then "''"
  else if text.toList.any special || text.toList.head? = some '#' || text.toList.head? = some '~' then wrapped text
  else if !isClean wide text then escaped wide text
  else text

def plainly (wide : Bool) (text : String) : String :=
  if text = "" then "" else if isClean wide text then requoted wide text else escaped wide text

def tracedValue (wide : Bool) (text : String) : String := if text = "" then "" else requoted wide text

def doubled (wide : Bool) (text : String) : String :=
  if isClean wide text then
    "\"" ++ String.ofList (text.toList.flatMap fun c => if "\\\"$\x60".toList.contains c then ['\\', c] else [c])
      ++ "\""
  else escaped wide text

def key (wide : Bool) (text : String) : String := if requoted wide text = text then text else doubled wide text

/-- The members of a list or a table between brackets; behind each member of a table there is a blank. -/
def list (wide : Bool) (value : Value) : String :=
  let members := value.members.map fun (index, text) => "[" ++ key wide index ++ "]=" ++ doubled wide text
  match value with
  | .table _ => "(" ++ String.join (members.map (· ++ " ")) ++ ")"
  | _ => "(" ++ " ".intercalate members ++ ")"

def declared (wide : Bool) (binding : Binding) : String :=
  let letters := binding.letters
  "declare -" ++ (if letters = "" then "-" else letters) ++ " " ++ binding.name ++
    (match binding.value with
      | .missing => ""
      | .single text => "=" ++ doubled wide text
      | value => "=" ++ list wide value)

end Quoting

end Assay.Script
