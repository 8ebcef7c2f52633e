import Assay.Utility.Copying

/-!
Copying in blocks, from a place in one file to a place in another one, with conversions on the way.
-/

namespace Assay.Utility

def product? (text : String) : Option (Nat × Bool) :=
  let units := [("", 1), ("c", 1), ("w", 2), ("b", 512), ("B", 1), ("k", 1024), ("K", 1024), ("kB", 1000), ("KB", 1000),
    ("KiB", 1024), ("M", 1048576), ("MB", 1000000), ("MiB", 1048576), ("G", 1073741824), ("GB", 1000000000),
    ("GiB", 1073741824), ("T", 1099511627776), ("TB", 1000000000000)]
  let parts := text.toList.splitOn 'x'
  (parts.foldlM (fun (total : Nat) (part : List Char) =>
    let digits := part.takeWhile Char.isDigit
    match digits, units.lookup (String.ofList (part.drop digits.length)) with
    | [], _ => none
    | _, none => none
    | _, some unit => some (total * Text.valueIn 10 digits * unit)) 1).map fun total =>
      (total, text.toList.contains 'B')

structure Conversion where
  inputSize : Nat := 512
  outputSize : Nat := 512
  recordSize : Nat := 0
  regroups : Bool := true
  words : List String := []

namespace Conversion

def has (conversion : Conversion) (word : String) : Bool := conversion.words.contains word

def fixes (conversion : Conversion) : Bool := conversion.has "block" && conversion.recordSize ≠ 0

def frees (conversion : Conversion) : Bool := conversion.has "unblock" && conversion.recordSize ≠ 0

def filled (conversion : Conversion) (block : List Char) : List Char :=
  if conversion.has "sync" then
    block ++ List.replicate (conversion.inputSize - block.length)
      (if conversion.fixes || conversion.frees then ' ' else '\x00')
  else block

def swapped : List Char → List Char
  | a :: b :: rest => b :: a :: swapped rest
  | rest => rest

def record (size : Nat) (line : List Char) : List Char := line.take size ++ List.replicate (size - line.length) ' '

/-- Records without the blanks at their ends; the number bounds how many there are. -/
def freed (size : Nat) : Nat → List Char → List Char
  | 0, _ => []
  | fuel + 1, text =>
    if text = [] then []
    else ((text.take size).reverse.dropWhile (· = ' ')).reverse ++ '\n' :: freed size fuel (text.drop size)

def applied (conversion : Conversion) (text : List Char) : List Char × Nat :=
  let cased := if conversion.has "ucase" then text.map Char.toUpper
    else if conversion.has "lcase" then text.map Char.toLower else text
  let turned := if conversion.has "swab" then swapped cased else cased
  if conversion.fixes then
    let pieces := turned.splitOn '\n'
    let lines := if pieces.getLast? = some [] then pieces.dropLast else pieces
    (lines.flatMap (record conversion.recordSize), lines.countP fun line => decide (conversion.recordSize < line.length))
  else if conversion.frees then (freed conversion.recordSize (turned.length + 1) turned, 0)
  else (turned, 0)

end Conversion

/-- What has been copied: whole blocks, the blocks that were shorter, and the bytes, with fillings and as they
were read. -/
structure Copied where
  whole : Nat := 0
  partly : Nat := 0
  pieces : List (List Char) := []
  sizes : List Nat := []

structure Share where
  blocks : Option Nat := none
  bytes : Nat := 0

def fullBlock (channel size : Nat) : Nat → List Char → Utility (Except FileFault (List Char))
  | 0, begun => return .ok begun
  | fuel + 1, begun => do
    match ← ask (.read channel (size - begun.length)) with
    | .error fault => return .error fault
    | .ok piece =>
      if piece.isEmpty then return .ok begun
      else
        let now := begun ++ Octets.chars piece
        if size ≤ now.length then return .ok now else fullBlock channel size fuel now

def readBlocks (conversion : Conversion) (name : String) (channel : Nat) (wholly : Bool) :
    Nat → Share → Copied → Utility Copied
  | 0, _, copied => return copied
  | fuel + 1, share, copied => do
    let size := if share.blocks = some 0 then share.bytes else conversion.inputSize
    if size = 0 then return copied
    else
      let read ← if wholly then fullBlock channel size Process.manySteps []
        else do
          match ← ask (.read channel size) with
          | .error fault => pure (.error fault)
          | .ok piece => pure (.ok (Octets.chars piece))
      match read with
      | .error fault =>
        complain ("error reading " ++ quoted name ++ ": " ++ fault.message)
        return copied
      | .ok [] => return copied
      | .ok piece =>
        let full := piece.length = conversion.inputSize
        let block := conversion.filled piece
        readBlocks conversion name channel wholly fuel
          (if share.blocks = some 0 then { share with bytes := 0 }
            else { share with blocks := share.blocks.map (· - 1) })
          { whole := copied.whole + (if full then 1 else 0), partly := copied.partly + (if full then 0 else 1)
            pieces := block :: copied.pieces, sizes := block.length :: copied.sizes }

def roundedSize (base : Nat) (units : List String) (size : Nat) : String :=
  let rec go (unit : Nat) : List String → String
    | [] => toString size
    | name :: rest =>
      let tenths := (size * 20 + unit) / (2 * unit)
      if tenths < 100 then toString (tenths / 10) ++ "." ++ toString (tenths % 10) ++ " " ++ name
      else
        let whole := (size * 2 + unit) / (2 * unit)
        if whole < base then toString whole ++ " " ++ name else go (unit * base) rest
  go base units

def copiedText (size : Nat) : String :=
  let decimal := if size < 1000 then []
    else [roundedSize 1000 ["kB", "MB", "GB", "TB"] size]
      ++ if size < 1024 then [] else [roundedSize 1024 ["KiB", "MiB", "GiB", "TiB"] size]
  toString size ++ (if size = 1 then " byte" else " bytes")
    ++ (if decimal = [] then "" else " (" ++ ", ".intercalate decimal ++ ")") ++ " copied"

def listed (kind : String) (known : List String) (text : String) : Utility (List String) := do
  let words := text.toList.splitOn ',' |>.map String.ofList
  for word in words do
    if !known.contains word then misuse ("invalid " ++ kind ++ ": " ++ cited word)
  return words

def conversionWords : List String :=
  ["ascii", "ebcdic", "ibm", "block", "unblock", "lcase", "ucase", "sparse", "swab", "noerror", "nocreat", "excl",
   "notrunc", "sync", "fdatasync", "fsync"]

def dd : Program := program do
  let given ← arguments
  let mut conversion : Conversion := {}
  let mut both : Option Nat := none
  let mut count : Option (Nat × Bool) := none
  let mut skip : Nat × Bool := (0, false)
  let mut seek : Nat × Bool := (0, false)
  let mut source : Option String := none
  let mut target : Option String := none
  let mut inputFlags : List String := []
  let mut outputFlags : List String := []
  let mut status := ""
  for text in given.filter (· ≠ "--") do
    let key := text.toList.takeWhile (· ≠ '=')
    let value := String.ofList (text.toList.drop (key.length + 1))
    let amount : Utility (Nat × Bool) := do
      match product? value with
      | some found => return found
      | none => fail ("invalid number: " ++ cited value)
    let size : Utility Nat := do
      match ← amount with
      | (0, _) => fail ("invalid number: " ++ cited value)
      | (n, _) => return n
    if key.length = text.length then misuse ("unrecognized operand " ++ cited text)
    match String.ofList key with
    | "if" => source := some value
    | "of" => target := some value
    | "bs" => both := some (← size)
    | "ibs" => conversion := { conversion with inputSize := ← size }
    | "obs" => conversion := { conversion with outputSize := ← size }
    | "cbs" => conversion := { conversion with recordSize := ← size }
    | "count" => count := some (← amount)
    | "skip" | "iseek" => skip := ← amount
    | "seek" | "oseek" => seek := ← amount
    | "conv" => conversion := { conversion with words := conversion.words ++ (← listed "conversion" conversionWords value) }
    | "iflag" =>
      inputFlags := inputFlags ++ (← listed "input flag"
        ["append", "binary", "cio", "direct", "directory", "dsync", "noatime", "nocache", "noctty", "nofollow", "nolinks",
         "nonblock", "sync", "text", "fullblock", "count_bytes", "skip_bytes"] value)
    | "oflag" =>
      outputFlags := outputFlags ++ (← listed "output flag"
        ["append", "binary", "cio", "direct", "directory", "dsync", "noatime", "nocache", "noctty", "nofollow", "nolinks",
         "nonblock", "sync", "text", "seek_bytes"] value)
    | "status" =>
      if !(["none", "noxfer", "progress"].contains value) then misuse ("invalid status level: " ++ cited value)
      status := value
    | _ => misuse ("unrecognized operand " ++ cited text)
  if 1 < ["ascii", "ebcdic", "ibm"].countP conversion.has then
    fail "cannot combine any two of \x7bascii,ebcdic,ibm\x7d"
  if conversion.fixes && conversion.frees then fail "cannot combine block and unblock"
  for pair in [("lcase", "ucase"), ("excl", "nocreat")] do
    if conversion.has pair.1 && conversion.has pair.2 then
      fail ("cannot combine " ++ pair.1 ++ " and " ++ pair.2)
  let rearranges := ["ascii", "ebcdic", "ibm", "block", "unblock", "lcase", "ucase", "swab"].any conversion.has
  match both with
  | some size =>
    conversion := { conversion with inputSize := size, outputSize := size, regroups := rearranges }
  | none => pure ()
  let final := conversion
  let inBytes := fun (number : Nat × Bool) (flag : Bool) (size : Nat) => if number.2 || flag then number.1 else number.1 * size
  let share := fun (bytes : Nat) => { blocks := some (bytes / final.inputSize), bytes := bytes % final.inputSize : Share }
  let channel ← match source with
    | none => pure 0
    | some file =>
      match ← ask (.openFile (path file) .read inputNumber) with
      | .ok () => pure inputNumber
      | .error fault => fail ("failed to open " ++ quoted file ++ ": " ++ fault.message)
  let startsAt := inBytes seek (outputFlags.contains "seek_bytes") final.outputSize
  let mut before : List Char := []
  match target with
  | none => pure ()
  | some file =>
    let there := ((← tree).target? (← folder) (path file)).isSome
    if there && final.has "excl" then fail ("failed to open " ++ quoted file ++ ": File exists")
    if !there && final.has "nocreat" then
      fail ("failed to open " ++ quoted file ++ ": " ++ FileFault.notFound.message)
    match ← ask (.openFile (path file) (if outputFlags.contains "append" then .append else .create) (inputNumber + 1)) with
    | .error fault => fail ("failed to open " ++ quoted file ++ ": " ++ fault.message)
    | .ok () =>
      match (← tree).target? (← folder) (path file) with
      | some (_, .file _ content _) => before := Octets.chars content
      | _ => pure ()
  let inputText := source.getD "standard input"
  let skipped := inBytes skip (inputFlags.contains "skip_bytes") final.inputSize
  match ← ask (.standing channel) with
  | some standing =>
    if standing.size < standing.position + skipped && status ≠ "none" then
      warn (named inputText ++ ": cannot skip to specified offset")
  | none => pure ()
  let wholly := inputFlags.contains "fullblock"
  let _ ← readBlocks { inputSize := final.inputSize } inputText channel true 100000000 (share skipped) {}
  let wanted := match count with
    | none => ({} : Share)
    | some number =>
      if number.2 || inputFlags.contains "count_bytes" then share number.1 else { blocks := some number.1 }
  let copied ← readBlocks final inputText channel wholly 100000000 wanted {}
  let (text, cuts) := final.applied copied.pieces.reverse.flatten
  let mut size := text.length
  match target with
  | none =>
    emit (List.replicate startsAt '\x00' ++ text)
    flush
  | some file =>
    let regular := (← ask (.standing (inputNumber + 1))).isSome
    if !regular || outputFlags.contains "append" then
      match ← lift (Process.write (inputNumber + 1) (Octets.bytes text)) with
      | .ok () => pure ()
      | .error fault =>
        complain ("error writing " ++ quoted file ++ ": " ++ fault.message)
        size := 0
    else
      let front := before.take startsAt
      let lead := front ++ List.replicate (startsAt - front.length) '\x00'
      let rest := if final.has "notrunc" then before.drop (lead.length + text.length) else []
      match ← ask (.openFile (path file) .write (inputNumber + 1)) with
      | .ok () =>
        match ← lift (Process.write (inputNumber + 1) (Octets.bytes (lead ++ text ++ rest))) with
        | .ok () => pure ()
        | .error fault => complain ("error writing " ++ quoted file ++ ": " ++ fault.message)
      | .error fault => fail ("failed to open " ++ quoted file ++ ": " ++ fault.message)
  if status ≠ "none" then
    let (whole, partly) :=
      if final.regroups then (size / final.outputSize, if size % final.outputSize = 0 then 0 else 1)
      else (copied.sizes.countP (· = final.inputSize), copied.sizes.countP (· ≠ final.inputSize))
    let counted := fun (one other : Nat) (what : String) => toString one ++ "+" ++ toString other ++ " records " ++ what ++ "\n"
    say (counted copied.whole copied.partly "in" ++ counted whole partly "out")
    if cuts ≠ 0 then say (toString cuts ++ (if cuts = 1 then " truncated record\n" else " truncated records\n"))
    if status ≠ "noxfer" then
      say (copiedText size ++ ", 0.0001 s, " ++ toString (size * 10) ++ " kB/s\n")

end Assay.Utility
