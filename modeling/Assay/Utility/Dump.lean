import Assay.Utility.Copying

/-!
Showing the bytes of a text as numbers or characters, in rows with their places in front.
-/

namespace Assay.Utility

inductive Figure
  | octal
  | hexadecimal
  | unsigned
  | signed
  | named
  | escaped
deriving DecidableEq

structure Dump where
  figure : Figure
  size : Nat := 1
  trailing : Bool := false

namespace Dump

def width (dump : Dump) : Nat :=
  let pick := fun (one two four eight : Nat) =>
    if dump.size = 1 then one else if dump.size = 2 then two else if dump.size = 4 then four else eight
  match dump.figure with
  | .octal => pick 3 6 11 22
  | .hexadecimal => 2 * dump.size
  | .unsigned => pick 3 5 10 20
  | .signed => pick 4 6 11 20
  | .named | .escaped => 3

def controlNames : List String :=
  ["nul", "soh", "stx", "etx", "eot", "enq", "ack", "bel", "bs", "ht", "nl", "vt", "ff", "cr", "so", "si", "dle",
   "dc1", "dc2", "dc3", "dc4", "nak", "syn", "etb", "can", "em", "sub", "esc", "fs", "gs", "rs", "us", "sp"]

def nameOf (code : Nat) : List Char :=
  let low := code % 128
  if low = 127 then "del".toList else ((controlNames[low]?).getD (String.ofList [Char.ofNat low])).toList

def zeros (width : Nat) (digits : List Char) : List Char := List.replicate (width - digits.length) '0' ++ digits

def escapeOf (code : Nat) : List Char :=
  match [(0, "\\0"), (7, "\\a"), (8, "\\b"), (9, "\\t"), (10, "\\n"), (11, "\\v"), (12, "\\f"),
      (13, "\\r")].lookup code with
  | some text => text.toList
  | none =>
    if 32 ≤ code ∧ code < 127 then [Char.ofNat code] else zeros 3 (Nat.toDigits 8 code)

def shown (dump : Dump) (codes : List Nat) : List Char :=
  let value := codes.foldr (fun code above => code + 256 * above) 0
  match dump.figure with
  | .octal => zeros dump.width (Nat.toDigits 8 value)
  | .hexadecimal => zeros dump.width (Nat.toDigits 16 value)
  | .unsigned => Nat.toDigits 10 value
  | .signed =>
    let whole := Nat.pow 256 dump.size
    if 2 * value < whole then Nat.toDigits 10 value else '-' :: Nat.toDigits 10 (whole - value)
  | .named => nameOf value
  | .escaped => escapeOf value

def groups (size : Nat) : Nat → List Nat → List (List Nat)
  | 0, _ => []
  | _, [] => []
  | fuel + 1, codes =>
    let group := codes.take size
    (group ++ List.replicate (size - group.length) 0) :: groups size fuel (codes.drop size)

/-- The figures of a row for so many bytes, and behind them the characters if they are asked for. -/
def row (dump : Dump) (perRow rowWidth : Nat) (codes : List Nat) : List Char :=
  let count := perRow / dump.size
  let found := groups dump.size (codes.length + 1) codes
  let spare := rowWidth - dump.width * count
  let field := fun (index : Nat) (codes : List Nat) =>
    let left := spare * (count - index) / count
    let next := spare * (count - index - 1) / count
    rightAligned (left - next + dump.width) (dump.shown codes)
  let figures := ((List.range found.length).zip found).flatMap fun (index, codes) => field index codes
  if dump.trailing then
    let missing := count - found.length
    let gap := missing * dump.width + spare * missing / count
    let visible := codes.map fun code => if 32 ≤ code ∧ code < 127 then Char.ofNat code else '.'
    figures ++ List.replicate gap ' ' ++ "  >".toList ++ visible ++ ['<']
  else figures

def ofType (whole : String) : Nat → List Char → Except String (List Dump)
  | 0, _ => .ok []
  | _, [] => .ok []
  | fuel + 1, letter :: rest => do
    let figure? := [('o', Figure.octal), ('x', .hexadecimal), ('u', .unsigned), ('d', .signed), ('a', .named),
      ('c', .escaped)].lookup letter
    match figure? with
    | none =>
      throw ("invalid character '" ++ String.ofList [letter] ++ "' in type string " ++ cited whole)
    | some figure =>
      let sized := figure ≠ .named && figure ≠ .escaped
      let (size, after) : Nat × List Char :=
        if !sized then (1, rest)
        else
          match rest with
          | 'C' :: more => (1, more)
          | 'S' :: more => (2, more)
          | 'I' :: more => (4, more)
          | 'L' :: more => (8, more)
          | _ =>
            let digits := rest.takeWhile Char.isDigit
            if digits = [] then (4, rest) else (Text.valueIn 10 digits, rest.drop digits.length)
      if !([1, 2, 4, 8].contains size) then
        throw ("invalid type string " ++ cited whole ++ ";\nthis system doesn't provide a "
          ++ toString size ++ "-byte integral type")
      else
        let trailing := after.head? = some 'z'
        let others ← ofType whole fuel (if trailing then after.drop 1 else after)
        return { figure, size, trailing } :: others

def ofLetter? (letter : String) : Option Dump :=
  match letter with
  | "a" => some { figure := .named }
  | "b" => some { figure := .octal }
  | "c" => some { figure := .escaped }
  | "d" => some { figure := .unsigned, size := 2 }
  | "D" => some { figure := .unsigned, size := 4 }
  | "h" | "x" => some { figure := .hexadecimal, size := 2 }
  | "H" | "X" => some { figure := .hexadecimal, size := 4 }
  | "i" => some { figure := .signed, size := 4 }
  | "l" | "I" | "L" => some { figure := .signed, size := 8 }
  | "o" | "B" => some { figure := .octal, size := 2 }
  | "O" => some { figure := .octal, size := 4 }
  | "s" => some { figure := .signed, size := 2 }
  | _ => none

end Dump

structure Dumping where
  dumps : List Dump
  perRow : Nat
  /-- The base of the places, and how wide they are; none are written without one. -/
  places : Option (Nat × Nat) := some (8, 7)
  repeats : Bool := false

namespace Dumping

def place (dumping : Dumping) (position : Nat) : List Char :=
  match dumping.places with
  | some (base, width) => Dump.zeros width (Nat.toDigits base position)
  | none => []

def rows (dumping : Dumping) (position : Nat) (codes : List Nat) : List Char :=
  let rowWidth := dumping.dumps.foldl (fun most dump =>
    max most ((dump.width + 1) * (dumping.perRow / dump.size))) 0
  let blank := List.replicate ((dumping.places.map Prod.snd).getD 0) ' '
  ((List.range dumping.dumps.length).zip dumping.dumps).flatMap fun (index, dump) =>
    (if index = 0 then dumping.place position else blank) ++ dump.row dumping.perRow rowWidth codes ++ ['\n']

/-- Everything from a position on. The row before is known, and whether a mark stands for its repetitions. -/
def all (dumping : Dumping) : Nat → Nat → Option (List Nat) → Bool → List Nat → List Char
  | 0, _, _, _, _ => []
  | fuel + 1, position, before, marked, codes =>
    if codes = [] then
      match dumping.places with
      | some _ => dumping.place position ++ ['\n']
      | none => []
    else
      let here := codes.take dumping.perRow
      let rest := codes.drop dumping.perRow
      let next := position + here.length
      if !dumping.repeats && here.length = dumping.perRow && before = some here then
        (if marked then [] else ['*', '\n']) ++ dumping.all fuel next before true rest
      else dumping.rows position here ++ dumping.all fuel next (some here) false rest

end Dumping

def amountOf? (text : String) : Option Nat :=
  match text.toList with
  | first :: rest =>
    if first.isDigit then
      let (value, after) := Text.numeral (first :: rest)
      match after with
      | [] => some value
      | ['b'] => some (512 * value)
      | ['k'] | ['K'] => some (1024 * value)
      | ['m'] | ['M'] => some (1048576 * value)
      | ['k', 'B'] | ['K', 'B'] => some (1000 * value)
      | ['M', 'B'] => some (1000000 * value)
      | ['G'] => some (1073741824 * value)
      | _ => none
    else none
  | [] => none

def od : Program := program do
  let found ← options
    { flags := "abcdDhHxXiIlLoOBsv", valued := "AjNt", loose := "w",
      words := [("address-radix", "A", true), ("skip-bytes", "j", true), ("read-bytes", "N", true),
        ("format", "t", true), ("output-duplicates", "v", false), ("width", "w", false)]
      lenient := ["width"] }
  let amount := fun (key : String) => do
    match found.value? key with
    | none => return none
    | some text =>
      match amountOf? text with
      | some value => return some value
      | none => fail ("invalid -" ++ key ++ " argument " ++ quoted text)
  let mut dumps : List Dump := []
  for (key, value) in found.options do
    if key = "t" then
      match Dump.ofType value (value.length + 1) value.toList with
      | .ok more => dumps := dumps ++ more
      | .error message => fail message
    else
      match Dump.ofLetter? key with
      | some dump => dumps := dumps ++ [dump]
      | none => pure ()
  let chosen := if dumps.isEmpty then [{ figure := .octal, size := 2 : Dump }] else dumps
  let places ← match found.value? "A" with
    | none | some "o" => pure (some (8, 7))
    | some "d" => pure (some (10, 7))
    | some "x" => pure (some (16, 6))
    | some "n" => pure none
    | some other =>
      match other.toList with
      | 'o' :: _ => pure (some (8, 7))
      | 'd' :: _ => pure (some (10, 7))
      | 'x' :: _ => pure (some (16, 6))
      | 'n' :: _ => pure none
      | letters =>
        fail ("invalid output address radix " ++ quoted (String.ofList (letters.take 1))
          ++ "; it must be one character from [doxn]")
  let unit := chosen.foldl (fun most dump => max most dump.size) 1
  let perRow ← match found.value? "w" with
    | none => pure (unit * (16 / unit))
    | some text =>
      match if text = "" then some 32 else amountOf? text with
      | none => fail ("invalid -w argument " ++ quoted text)
      | some wanted =>
        if wanted = 0 ∨ wanted % unit ≠ 0 then
          warn ("warning: invalid width " ++ toString wanted ++ "; using " ++ toString unit ++ " instead")
          pure unit
        else pure wanted
  let skipped := (← amount "j").getD 0
  let limit ← amount "N"
  let contents ← contentsOf found.operands
  let whole := contents.flatMap Prod.snd
  if whole.length < skipped then fail "cannot skip past end of combined input"
  let rest := whole.drop skipped
  let codes := ((limit.map rest.take).getD rest).map Char.toNat
  let dumping : Dumping := { dumps := chosen, perRow, places, repeats := found.has "v" }
  if !contents.isEmpty || found.operands.isEmpty then
    emit (dumping.all (codes.length + 2) skipped none false codes)
  if found.operands.isEmpty then closeInput (inputName "-")

end Assay.Utility
