import Assay.Utility.Reading

/-!
Programs that hand a text on: all of it, its beginning, its end, or to several places.
-/

namespace Assay.Utility

def copySize : Nat := 131072

/-- Copies what is left of a channel to the output; the number bounds the pieces. -/
def copyOn (number : Nat) : Nat → Utility (Except FileFault Unit)
  | 0 => return .ok ()
  | pieces + 1 => do
    match ← ask (.read number copySize) with
    | .error fault => return .error fault
    | .ok content =>
      if content.isEmpty then return .ok ()
      else
        emitBytes content
        flush
        copyOn number pieces

/-- The output is a file that a channel reads from, and reading would never end. -/
def feedsItself (number : Nat) : Utility Bool := do
  match ← ask (.standing number), ← ask (.standing 1) with
  | some source, some target =>
    return source.serial = target.serial
      && source.position < (if target.appends then target.size else target.position)
  | _, _ => return false

structure Display where
  numbers : Bool := false
  numbersFull : Bool := false
  squeezes : Bool := false
  ends : Bool := false
  tabs : Bool := false
  hidden : Bool := false

def Display.isPlain (display : Display) : Bool :=
  !(display.numbers || display.numbersFull || display.squeezes || display.ends || display.tabs || display.hidden)

def caret (c : Char) : List Char :=
  let low := fun n : Nat =>
    if n < 32 then ['^', Char.ofNat (n + 64)] else if n = 127 then ['^', '?'] else [Char.ofNat n]
  if c.toNat < 128 then low c.toNat else 'M' :: '-' :: low (c.toNat - 128)

def Display.shown (display : Display) (c : Char) : List Char :=
  if c = '\t' then (if display.tabs then ['^', 'I'] else [c])
  else if display.hidden then caret c else [c]

/-- The state between two lines: the last number, the empty lines before, and whether the last line
has no end yet. -/
structure DisplayState where
  number : Nat := 0
  empties : Nat := 0
  midLine : Bool := false

def rightAligned (width : Nat) (text : List Char) : List Char :=
  List.replicate (width - text.length) ' ' ++ text

def leftAligned (width : Nat) (text : List Char) : List Char :=
  text ++ List.replicate (width - text.length) ' '

def digitsOf (n : Nat) : List Char := Nat.toDigits 10 n

def Display.step (display : Display) : LineStep DisplayState := fun state line complete =>
  let isEmpty := line.isEmpty && !state.midLine
  if isEmpty && display.squeezes && 1 ≤ state.empties then { state }
  else
    let counts := !state.midLine && (if display.numbersFull then !isEmpty else display.numbers)
    let number := if counts then state.number + 1 else state.number
    let front := if counts then rightAligned 6 (digitsOf number) ++ ['\t'] else []
    let body := line.flatMap display.shown
    let close := (if complete then (if display.ends then ['$', '\n'] else ['\n']) else [])
    { state := { number, empties := if isEmpty then state.empties + 1 else 0, midLine := !complete }
      output := front ++ body ++ close }

def cat : Program := program do
  losing fun fault => ((if fault = .badChannel then "standard output: " else "write error: ") ++ fault.message, 1)
  let found ← options
    { flags := "AbeEnstTuv",
      words := [("show-all", "A", false), ("number-nonblank", "b", false), ("show-ends", "E", false),
                ("number", "n", false), ("squeeze-blank", "s", false), ("show-tabs", "T", false),
                ("show-nonprinting", "v", false)] }
  let display : Display :=
    { numbers := found.has "n", numbersFull := found.has "b", squeezes := found.has "s",
      ends := found.has "A" || found.has "e" || found.has "E",
      tabs := found.has "A" || found.has "t" || found.has "T",
      hidden := found.has "A" || found.has "e" || found.has "t" || found.has "v" }
  if ((← ask .channels).lookup 1).isNone then fail ("standard output: " ++ FileFault.badChannel.message)
  let mut state : DisplayState := {}
  let files := if found.operands.isEmpty then ["-"] else found.operands
  for file in files do
    let shown := if file = "-" then "-" else named file
    let before := state
    let result ← withInput file fun number => do
      if ← feedsItself number then
        complain (shown ++ ": input file is output file")
        return .ok before
      else if display.isPlain then return (← copyOn number Process.manySteps).map fun _ => before
      else readLines number { piece := copySize } display.step Process.manySteps { state := before }
    match result with
    | .ok (.ok after) => state := after
    | .ok (.error fault) | .error fault =>
      flush
      complain (shown ++ ": " ++ fault.message)
    flush
  if files.contains "-" then closeInput "closing standard input"

def multiplier? (text : List Char) : Option Nat :=
  let thousand := fun power : Nat => Nat.pow 1024 power
  match String.ofList text with
  | "" => some 1
  | "b" => some 512
  | "k" | "K" | "KiB" => some 1024
  | "kB" | "KB" => some 1000
  | "M" | "m" | "MiB" => some (thousand 2)
  | "MB" => some 1000000
  | "G" | "g" | "GiB" => some (thousand 3)
  | "GB" => some 1000000000
  | "T" | "TiB" => some (thousand 4)
  | "P" | "E" | "Z" | "Y" => some (thousand 5)
  | _ => none

def sized? (text : List Char) : Option Nat :=
  let digits := text.takeWhile Char.isDigit
  if digits.isEmpty then none
  else (multiplier? (text.drop digits.length)).map fun factor => factor * Text.valueIn 10 digits

def lastOf {α : Type} (count : Nat) (items : List α) : List α := items.drop (items.length - count)

def marked (mark : Char) (text : List Char) : List (List Char) :=
  let (lines, begun) := text.foldr (fun c (found : List (List Char) × List Char) =>
    if c = mark then ([mark] :: (if found.2.isEmpty then found.1 else found.2 :: found.1), [])
    else
      match found.1, found.2 with
      | line :: rest, [] => ((c :: line) :: rest, [])
      | lines, last => (lines, c :: last)) ([], [])
  if begun.isEmpty then lines else lines ++ [begun]

def spread (channels : List (Nat × String)) (content : ByteArray) : Utility Unit := do
  for (number, file) in channels do
    match ← lift (Process.write number content) with
    | .ok () => pure ()
    | .error fault => complain ((if number = 1 then "'standard output'" else named file) ++ ": " ++ fault.message)

def spreadOn (channels : List (Nat × String)) : Nat → Utility Unit
  | 0 => return
  | pieces + 1 => do
    match ← ask (.read 0 8192) with
    | .error fault => complain ("read error: " ++ fault.message)
    | .ok content =>
      if !content.isEmpty then
        spread channels content
        spreadOn channels pieces

def tee : Program := program do
  let found ← options
    { flags := "aip", words := [("append", "a", false), ("ignore-interrupts", "i", false)] }
  let mut channels : List (Nat × String) := [(1, "")]
  for (file, offset) in found.operands.zip (List.range found.operands.length) do
    let number := inputNumber + 1 + offset
    match ← ask (.openFile (path file) (if found.has "a" then .append else .write) number) with
    | .ok () => channels := channels ++ [(number, file)]
    | .error fault => complain (named file ++ ": " ++ fault.message)
  spreadOn channels Process.manySteps
  closeInput "standard input"

end Assay.Utility
