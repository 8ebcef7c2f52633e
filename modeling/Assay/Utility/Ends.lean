import Assay.Text.Measure
import Assay.Utility.Copying

/-!
The beginning and the end of a text, by lines or by bytes.
-/

namespace Assay.Utility

structure Extent where
  bytes : Bool := false
  count : Nat := 10
  turned : Bool := false

structure EndView where
  extent : Extent := {}
  headed : Option Bool := none
  mark : Char := '\n'
  follows : Bool := false
  awaited : Option Nat := none
  files : List String := []

def extentSize (bytes : Bool) (digits : List Char) (shown : String) : Utility Nat := do
  match sized? digits with
  | some count => return count
  | none => fail ("invalid number of " ++ (if bytes then "bytes" else "lines") ++ ": " ++ cited shown)

/-- The view that options of the usual form tell. A sign of one kind turns the meaning of a number round. -/
def EndView.ofOptions (view : EndView) (turning : Char) (known : Options)
    (given : List String) : Utility EndView := do
  let found ← scanArguments known (given.length + 1) given
  let mut view := view
  for (key, value) in found.options do
    match key with
    | "n" | "c" =>
      let bytes : Bool := key = "c"
      let (turned, digits) : Bool × List Char := match value.toList with
        | c :: rest => if c = turning then (true, rest) else if c = '-' then (false, rest) else (false, c :: rest)
        | [] => (false, [])
      let shown := if value.startsWith "-" then String.ofList digits else value
      let count ← extentSize bytes digits shown
      view := { view with
        extent := { bytes, count, turned := turned || (turning = '+' && view.extent.turned) } }
    | "q" => view := { view with headed := some false }
    | "v" => view := { view with headed := some true }
    | "z" => view := { view with mark := '\x00' }
    | "f" | "F" =>
      if value ≠ "" then
        let _ ← choice "--follow" [(["descriptor"], 0), (["name"], 1)] value
      view := { view with follows := true }
    | "pid" =>
      match natural? value with
      | some number => view := { view with awaited := some number }
      | none => fail ("invalid PID: " ++ cited value)
    | "s" =>
      match Text.scanNumber? value.toList with
      | some (seconds, []) => if seconds < 0 then fail ("invalid number of seconds: " ++ cited value)
      | _ => fail ("invalid number of seconds: " ++ cited value)
    | _ => pure ()
  return { view with files := if found.operands.isEmpty then ["-"] else found.operands }

def endOptions : Options where
  flags := "qvz"
  valued := "nc"
  words := [("lines", "n", true), ("bytes", "c", true), ("quiet", "q", false), ("silent", "q", false),
    ("verbose", "v", false), ("zero-terminated", "z", false)]

def header (first : Bool) (file : String) : List Char :=
  ((if first then "" else "\n") ++ "==> " ++ inputName file ++ " <==\n").toList

def eachHeaded (view : EndView) (fromEnd : Bool) (part : Nat → Utility (Except FileFault Unit)) :
    Utility Unit := do
  let files := view.files
  let headed := view.headed.getD (1 < files.length)
  let mut first := true
  for file in files do
    let here := first
    let result ← withInput file fun number => do
      if headed then emit (header here file)
      part number
    match result with
    | .ok (.ok ()) => first := false
    | .ok (.error fault) =>
      first := false
      let failed := if fromEnd && fault = .badChannel then "cannot fstat " else "error reading "
      complain (failed ++ quoted (inputName file) ++ ": " ++ fault.message)
    | .error fault => complain ("cannot open " ++ quoted file ++ " for reading: " ++ fault.message)
  if files.contains "-" then closeInput "-"

def firstBytes (number : Nat) : Nat → Nat → Utility (Except FileFault Unit)
  | 0, _ => return .ok ()
  | pieces + 1, count => do
    if count = 0 then return .ok ()
    else
      match ← ask (.read number (min count 8192)) with
      | .error fault => return .error fault
      | .ok content =>
        if content.isEmpty then return .ok ()
        else
          emitBytes content
          firstBytes number pieces (count - content.size)

def firstLines (mark : Char) : LineStep Nat := fun count line complete =>
  { state := count - 1, output := if complete then ended line mark else line, ends := count ≤ 1 }

def oldHead (view : EndView) (letters digits : List Char) : Utility EndView := do
  let mut view := view
  let mut unit : List Char := []
  for c in letters do
    match c with
    | 'c' =>
      view := { view with extent := { view.extent with bytes := true } }
      unit := []
    | 'b' | 'k' | 'm' =>
      view := { view with extent := { view.extent with bytes := true } }
      unit := [c]
    | 'l' => view := { view with extent := { view.extent with bytes := false } }
    | 'q' => view := { view with headed := some false }
    | 'v' => view := { view with headed := some true }
    | 'z' => view := { view with mark := '\x00' }
    | _ => misuse ("invalid trailing option -- " ++ String.ofList [c])
  let count ← extentSize view.extent.bytes (digits ++ unit) (String.ofList (digits ++ unit))
  return { view with extent := { view.extent with count } }

def head : Program := program do
  let given ← arguments
  let plain : EndView := {}
  let (view, rest) ← match given with
    | word :: rest =>
      match word.toList with
      | '-' :: c :: more =>
        if c.isDigit then
          let digits := (c :: more).takeWhile Char.isDigit
          pure (← oldHead plain ((c :: more).drop digits.length) digits, rest)
        else pure (plain, given)
      | _ => pure (plain, given)
    | [] => pure (plain, given)
  let strays := fun c : Char =>
    if c.isDigit then some ("invalid trailing option -- " ++ String.ofList [c], true) else none
  let view ← view.ofOptions '-' { endOptions with refused := strays } rest
  let extent := view.extent
  let mark := view.mark
  eachHeaded view false fun number => do
    if extent.turned then
      match ← lift (Process.readAll number) with
      | .error fault => return .error fault
      | .ok content =>
        let text := Octets.chars content
        if extent.bytes then emit (text.take (text.length - extent.count))
        else
          let lines := marked mark text
          emit (lines.take (lines.length - extent.count)).flatten
        return .ok ()
    else if extent.bytes then firstBytes number Process.manySteps extent.count
    else if extent.count = 0 then return .ok ()
    else
      let manner : LineManner := { mark, piece := 8192, returns := true }
      return (← readLines number manner (firstLines mark) Process.manySteps { state := extent.count }).map fun _ => ()

def followOn (channels : List Nat) (awaited : Option Nat) : Nat → Utility Unit
  | 0 => return
  | times + 1 => do
    flush
    let alive ← match awaited with
      | some number => ask (.send number 0)
      | none => pure true
    for number in channels do
      let _ ← copyOn number Process.manySteps
    if alive then
      ask (.pause 100000)
      followOn channels awaited times

def endOf (extent : Extent) (mark : Char) (text : List Char) : List Char :=
  if extent.bytes then
    if extent.turned then text.drop (extent.count - 1) else lastOf extent.count text
  else
    let lines := marked mark text
    if extent.turned then (lines.drop (extent.count - 1)).flatten else (lastOf extent.count lines).flatten

def oldTail? (given : List String) : Option EndView := do
  let (word, rest) ← match given with
    | word :: rest => some (word, rest)
    | [] => none
  let alone := match rest with
    | [] => true
    | [file] => file = "-" || !file.startsWith "-" || file = "--"
    | ["--", _] => true
    | _ => false
  if !alone then none
  let (turned, body) ← match word.toList with
    | '+' :: body => some (true, body)
    | '-' :: body => if body = [] ∨ body = ['c'] then none else some (false, body)
    | _ => none
  let digits := body.takeWhile Char.isDigit
  let letters := body.drop digits.length
  let (bytes, factor, after) : Bool × Nat × List Char := match letters with
    | 'b' :: more => (true, 512, more)
    | 'c' :: more => (true, 1, more)
    | 'l' :: more => (false, 1, more)
    | more => (false, 1, more)
  let follows : Bool := after.head? = some 'f'
  if (if follows then after.drop 1 else after) ≠ [] then none
  let count := (if digits = [] then 10 else Text.valueIn 10 digits) * factor
  return { extent := { bytes, count, turned }, follows }

def tail : Program := program do
  let given ← arguments
  let (view, rest) := match oldTail? given with
    | some view => (view, given.drop 1)
    | none => ({}, given)
  let strays := fun c : Char =>
    if c.isDigit then some ("option used in invalid context -- " ++ String.ofList [c], false) else none
  let known : Options :=
    { endOptions with
      flags := "qvzfF", valued := "ncs", lenient := ["follow"], refused := strays
      words := endOptions.words ++ [("follow", "f", false), ("sleep-interval", "s", true), ("pid", "pid", true),
        ("retry", "retry", false), ("max-unchanged-stats", "max", true)] }
  let view ← view.ofOptions '+' known rest
  if view.awaited.isSome && !view.follows then
    warn "warning: PID ignored; --pid=PID is useful only when following"
  if view.extent.count = 0 && !view.extent.turned && !view.follows then return
  eachHeaded view true fun number => do
    match ← lift (Process.readAll number) with
    | .error fault => return .error fault
    | .ok content =>
      emit (endOf view.extent view.mark (Octets.chars content))
      return .ok ()
  if view.follows then
    flush
    let files := view.files
    let mut channels := []
    for (file, offset) in files.zip (List.range files.length) do
      if file = "-" then
        if (← ask (.standing 0)).isSome then channels := channels ++ [0]
      else
        let number := inputNumber + 1 + offset
        match ← ask (.openFile (path file) .read number) with
        | .ok () =>
          let _ ← lift (Process.readAll number)
          channels := channels ++ [number]
        | .error _ => pure ()
    if channels.isEmpty && (files ≠ ["-"]) then fail "no files remaining"
    else if !channels.isEmpty then followOn channels view.awaited Process.manySteps

end Assay.Utility
