import Assay.Utility.Copying

/-!
Counting what a text holds: its lines, words, characters and bytes.
-/

namespace Assay.Utility

structure Tally where
  lines : Nat := 0
  words : Nat := 0
  bytes : Nat := 0
  chars : Nat := 0
  widest : Nat := 0

namespace Tally

instance : Add Tally where
  add a b :=
    { lines := a.lines + b.lines, words := a.words + b.words, bytes := a.bytes + b.bytes
      chars := a.chars + b.chars, widest := max a.widest b.widest }

structure Running where
  tally : Tally := {}
  inWord : Bool := false
  width : Nat := 0

def isPrintable (c : Char) : Bool := (32 ≤ c.toNat && c.toNat < 127) || (128 ≤ c.toNat && Text.Alphabet.isVisible c)

def Running.step (running : Running) (c : Char) : Running :=
  let tally := running.tally
  let isSpace := Text.Alphabet.isSpace c || [0xA0, 0x2007, 0x202F, 0x2060].contains c.toNat
  let width :=
    if c = '\n' ∨ c = '\r' ∨ c = '\x0c' then 0
    else if c = '\t' then running.width + (8 - running.width % 8)
    else if isPrintable c then running.width + Text.Alphabet.columns c
    else running.width
  let begins := isPrintable c && !isSpace
  { inWord := if isSpace then false else running.inWord || begins
    width
    tally :=
      { lines := if c = '\n' then tally.lines + 1 else tally.lines
        words := if begins && !running.inWord then tally.words + 1 else tally.words
        bytes := tally.bytes + (Text.Characters.octetsOf c).length
        chars := if Text.Characters.isStray c then tally.chars else tally.chars + 1
        widest := max tally.widest width } }

def Running.stepNarrow (running : Running) (c : Char) : Running :=
  if c.toNat < 128 then running.step c
  else { running with tally := { running.tally with bytes := running.tally.bytes + 1, chars := running.tally.chars + 1 } }

def Running.through (running : Running) (wide : Bool) (text : List Char) : Running :=
  if wide then (Text.Characters.gather text).foldl Running.step running else text.foldl Running.stepNarrow running

end Tally

/-- Counts what is left of a channel; the number bounds the pieces. -/
def countOn (number : Nat) (wide : Bool) : Nat → List Char → Tally.Running → Utility (Except FileFault Tally)
  | 0, _, running => return .ok running.tally
  | pieces + 1, held, running => do
    match ← ask (.read number 16384) with
    | .error fault => return .error fault
    | .ok content =>
      if content.isEmpty then return .ok (running.through wide held).tally
      else
        let text := held ++ Octets.chars content
        -- a character may go on in the next piece
        let later := if wide then (text.reverse.takeWhile fun c => 128 ≤ c.toNat).take 3 |>.length else 0
        countOn number wide pieces (text.drop (text.length - later))
          (running.through wide (text.take (text.length - later)))

def Tally.columns (found : Found) (tally : Tally) : List Nat :=
  let chosen := fun (key : String) (count : Nat) => if found.has key then [count] else []
  if found.options.isEmpty then [tally.lines, tally.words, tally.bytes]
  else chosen "l" tally.lines ++ chosen "w" tally.words ++ chosen "m" tally.chars
    ++ chosen "c" tally.bytes ++ chosen "L" tally.widest

/-- The size of a file, and whether it is a regular one; nothing if there is none. -/
def sizeOf? (file : String) : Utility (Option (Option Nat)) := do
  if file = "-" then
    if ((← ask .channels).lookup 0).isNone then return none
    return some ((← ask (.standing 0)).map Standing.size)
  else
    match (← tree).target? (← folder) (path file) with
    | some (_, .file _ content _) => return some (some content.size)
    | some _ => return some none
    | none => return none

/-- The width of the columns: wide enough for the size of all files, and wider where a size is not known
in advance. -/
def columnWidth (found : Found) (files : List String) : Utility Nat := do
  if files.length = 1 && ((({} : Tally).columns found).length = 1) then return 1
  else
    let sizes ← files.mapM sizeOf?
    if sizes.head?.join.isNone && (sizes.head? = some none) then return 1
    let total := (sizes.filterMap Option.join).foldl (· + ·) 0
    let least := if sizes.any fun size => size = some none then 7 else 1
    return max least (digitsOf total).length

def wc : Program := program do
  losing fun fault => (if fault = .badChannel then "write error: " ++ fault.message else "write error", 1)
  let found ← options
    { flags := "lwcmL", words := [("lines", "l", false), ("words", "w", false), ("bytes", "c", false),
                                  ("chars", "m", false), ("max-line-length", "L", false)] }
  let wide ← spellsWide
  let files := if found.operands.isEmpty then ["-"] else found.operands
  let width ← columnWidth found files
  let row := fun (tally : Tally) (name : String) =>
    [' '].intercalate ((tally.columns found).map fun count => rightAligned width (digitsOf count))
      ++ (if name = "" then "\n" else " " ++ name ++ "\n").toList
  let mut total : Tally := {}
  for file in files do
    let name := if found.operands.isEmpty then "" else if file.toList.contains '\n' then named file else file
    match ← withInput file fun number => countOn number wide Process.manySteps [] {} with
    | .ok (.ok tally) =>
      total := total + tally
      emit (row tally name)
    | .ok (.error fault) =>
      complain (named (inputName file) ++ ": " ++ fault.message)
      emit (row {} name)
    | .error fault => complain (named file ++ ": " ++ fault.message)
  if 1 < files.length then emit (row total "total")
  if files.contains "-" then closeInput "-"

end Assay.Utility
