import Assay.Utility.Copying

/-!
One file in pieces: so many lines or bytes in each, or so many pieces.
-/

namespace Assay.Utility

structure PieceNames where
  front : String := "x"
  digits : List Char := "abcdefghijklmnopqrstuvwxyz".toList
  width : Nat := 2
  grows : Bool := true
  start : Nat := 0
  ending : String := ""

namespace PieceNames

def spelled (digits : List Char) : Nat → Nat → List Char
  | 0, _ => []
  | width + 1, n => spelled digits width (n / digits.length) ++ [digits.getD (n % digits.length) 'x']

/-- The end of a name that may grow: when the first digit would be the last one there is, it stays, and the name gets
two digits longer. -/
def grown (digits : List Char) : Nat → Nat → Nat → List Char
  | 0, _, _ => []
  | fuel + 1, width, n =>
    let base := digits.length
    let room := (base - 1) * Nat.pow base (width - 1)
    if n < room then spelled digits width n
    else digits.getD (base - 1) 'z' :: grown digits fuel (width + 1) (n - room)

def name? (names : PieceNames) (number : Nat) : Option String :=
  let n := number + names.start
  if names.grows then some (names.front ++ String.ofList (grown names.digits 40 names.width n) ++ names.ending)
  else if n < Nat.pow names.digits.length names.width then
    some (names.front ++ String.ofList (spelled names.digits names.width n) ++ names.ending)
  else none

end PieceNames

inductive SplitRule
  | lines (count : Nat)
  | bytes (count : Nat)
  /-- Whole lines, as many as fit into so many bytes. -/
  | lineBytes (count : Nat)
  /-- So many pieces, of bytes or of whole lines, of which perhaps only one is wanted. -/
  | pieces (count : Nat) (byLines : Bool) (only : Option Nat)
  | turns (count : Nat) (only : Option Nat)

namespace SplitRule

def cuts {α : Type} (size : Nat) : Nat → List α → List (List α)
  | 0, _ => []
  | fuel + 1, items => if items.isEmpty then [] else items.take size :: cuts size fuel (items.drop size)

/-- Whole lines in pieces of at most a size; a line that is too long is cut. -/
def filled (size : Nat) : Nat → List Char → List (List Char) → List (List Char)
  | 0, held, _ => if held = [] then [] else [held]
  | _, held, [] => if held = [] then [] else [held]
  | fuel + 1, held, line :: rest =>
    if held.length + line.length ≤ size then filled size fuel (held ++ line) rest
    else if held ≠ [] then held :: filled size fuel [] (line :: rest)
    else line.take size :: filled size fuel [] (line.drop size :: rest)

def byLine (count size : Nat) (lines : List (List Char)) : List (List Char) :=
  let (_, placed) := lines.foldl (fun (found : Nat × List (Nat × List Char)) line =>
    let place := if size = 0 then count - 1 else min (count - 1) (found.1 / size)
    (found.1 + line.length, (place, line) :: found.2)) (0, [])
  let ordered := placed.reverse
  (List.range count).map fun number => (ordered.filter (·.1 = number)).flatMap Prod.snd

def apply (rule : SplitRule) (mark : Char) (text : List Char) : List (List Char) :=
  let lines := marked mark text
  match rule with
  | .lines count => (cuts count (lines.length + 1) lines).map List.flatten
  | bytes count => cuts count (text.length + 1) text
  | lineBytes count => filled count (2 * text.length + lines.length + 2) [] lines
  | pieces count false _ =>
    let size := max text.length count / count
    (List.range count).map fun number =>
      (text.drop (number * size)).take (if number + 1 = count then text.length else size)
  | pieces count true _ => byLine count (max text.length count / count) lines
  | turns count _ =>
    (List.range count).map fun number =>
      (((List.range lines.length).zip lines).filter fun item => item.1 % count = number).flatMap Prod.snd

def only? : SplitRule → Option Nat
  | pieces _ _ only | turns _ only => only
  | _ => none

def ofPieces (text : String) : Utility SplitRule := do
  let (kind, body) : Option Char × List Char := match text.toList with
    | 'l' :: '/' :: rest => (some 'l', rest)
    | 'r' :: '/' :: rest => (some 'r', rest)
    | rest => (none, rest)
  let parts := (body.splitOn '/').map String.ofList
  let number := fun (what shown : String) => do
    match natural? shown with
    | none | some 0 => fail ("invalid " ++ what ++ ": " ++ cited shown)
    | some n => pure n
  let (only, count) ← match parts with
    | [one, all] =>
      let count ← number "number of chunks" all
      let place ← number "chunk number" one
      if count < place then fail ("invalid chunk number: " ++ cited one)
      pure (some (place - 1), count)
    | _ => pure (none, ← number "number of chunks" (String.ofList body))
  return match kind with
    | some 'r' => turns count only
    | some _ => pieces count true only
    | none => pieces count false only

end SplitRule

def split : Program := starting fun become => do
  let given := (← arguments).map fun text =>
    match text.toList with
    | '-' :: rest => if rest ≠ [] ∧ rest.all Char.isDigit then "-l" ++ String.ofList rest else text
    | _ => text
  let found ← scanArguments
    { flags := "deux", valued := "abClntI", lenient := ["numeric-suffixes", "hex-suffixes"],
      words := [("suffix-length", "a", true), ("bytes", "b", true), ("line-bytes", "C", true), ("lines", "l", true),
        ("number", "n", true), ("numeric-suffixes", "d", false), ("hex-suffixes", "x", false),
        ("elide-empty-files", "e", false), ("unbuffered", "u", false), ("separator", "t", true),
        ("additional-suffix", "additional", true), ("filter", "filter", true), ("verbose", "verbose", false)] }
    (given.length + 1) given
  let mut rule : Option SplitRule := none
  let mut names : PieceNames := {}
  let mut widthGiven : Option Nat := none
  let mut mark := '\n'
  for (key, value) in found.options do
    match key with
    | "a" =>
      match natural? value with
      | some width => widthGiven := some width
      | none => fail ("invalid suffix length: " ++ cited value)
    | "l" | "b" | "C" | "n" =>
      if rule.isSome then misuse "cannot split in more than one way"
      if key = "n" then rule := some (← SplitRule.ofPieces value)
      else
        let what := if key = "l" then "lines" else "bytes"
        match if key = "l" then natural? value else sized? value.toList with
        | none => fail ("invalid number of " ++ what ++ ": " ++ cited value)
        | some 0 => fail ("invalid number of " ++ what ++ ": " ++ cited value)
        | some count =>
          rule := some (match key with
            | "l" => .lines count
            | "b" => .bytes count
            | _ => .lineBytes count)
    | "d" | "x" =>
      let digits := if key = "d" then "0123456789".toList else "0123456789abcdef".toList
      let start ← if value = "" then pure 0
        else if value.toList.all fun c => digits.contains c then
          pure (value.toList.foldl (fun n c => digits.length * n + (digits.idxOf? c).getD 0) 0)
        else misuse (cited value ++ ": invalid start value for "
          ++ (if key = "d" then "numerical" else "hexadecimal") ++ " suffix")
      names := { names with digits, start, grows := names.grows && value = "" }
    | "t" =>
      mark ← match value.toList with
        | [] => fail "empty record separator"
        | [c] => pure c
        | ['\\', '0'] => pure '\x00'
        | _ => fail ("multi-character separator " ++ cited value)
    | "additional" =>
      if value.toList.contains '/' then misuse ("invalid suffix " ++ cited value ++ ", contains directory separator")
      names := { names with ending := value }
    | _ => pure ()
  match found.operands with
  | _ :: _ :: extra :: _ => misuse ("extra operand " ++ cited extra)
  | operands =>
    let file := operands.headD "-"
    let chosen := rule.getD (.lines 1000)
    names := { names with front := operands.getD 1 "x" }
    let needed := match chosen with
      | .pieces count _ _ | .turns count _ => (PieceNames.spelled names.digits 20 (count + names.start - 1)).dropWhile
          (some · = names.digits.head?) |>.length
      | _ => 0
    match widthGiven with
    | some width =>
      if width ≠ 0 then
        if width < needed then
          fail ("the suffix length needs to be at least " ++ toString needed)
        names := { names with width, grows := false }
    | none => if 0 < needed then names := { names with width := max 2 needed, grows := false }
    match chosen with
    | .pieces .. =>
      if file = "-" && (← ask (.standing 0)).isNone then fail "-: cannot determine file size"
    | _ => pure ()
    match ← contentOf file with
    | .error .isAFolder => fail (named file ++ ": Is a directory")
    | .error fault =>
      fail (if file = "-" then "-: " ++ fault.message
        else "cannot open " ++ quoted file ++ " for reading: " ++ fault.message)
    | .ok content =>
      let pieces := chosen.apply mark (Octets.chars content)
      match chosen.only? with
      | some place => emit (pieces.getD place [])
      | none =>
        let shown := if found.has "e" then pieces.filter (· ≠ []) else pieces
        for (piece, number) in shown.zip (List.range shown.length) do
          match names.name? number with
          | none => fail "output file suffixes exhausted"
          | some target =>
            match found.value? "filter" with
            | some command =>
              if found.has "verbose" then emitText ("executing with FILE=" ++ quoted target ++ "\n")
              flush
              let (reading, writing) ← ask .pipe
              let channels ← ask .channels
              ask (.setChannels ((channels.put (inputNumber + 2) reading).put (inputNumber + 3) writing))
              let environment := ("FILE", target) :: ((← get).call.environment.filter (·.1 ≠ "FILE"))
              let number ← lift (Process.fork do
                Process.ask (.setChannels (channels.put 0 reading))
                let _ ← Program.becomeNamed become environment "/bin/sh" ["-c", command]
                return 127)
              ask (.setChannels (channels.put (inputNumber + 3) writing))
              let _ ← lift (Process.write (inputNumber + 3) (Octets.bytes piece))
              ask (.setChannels channels)
              match ← awaitNumber number Process.manySteps with
              | .code 0 => pure ()
              | .code status => fail ("with FILE=" ++ target ++ ", exit " ++ toString status ++ " from command: " ++ command) status
              | .signal _ => pure ()
            | none =>
              if found.has "verbose" then emitText ("creating file " ++ quoted target ++ "\n")
              match ← ask (.openFile (path target) .write (inputNumber + 1)) with
              | .error fault => fail (named target ++ ": " ++ fault.message)
              | .ok () =>
                match ← lift (Process.write (inputNumber + 1) (Octets.bytes piece)) with
                | .ok () => pure ()
                | .error fault => fail (named target ++ ": " ++ fault.message)

end Assay.Utility
