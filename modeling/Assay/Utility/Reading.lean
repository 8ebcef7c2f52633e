import Assay.Utility.Basic

/-!
Reading line by line, only as far as somebody wants to.
-/

namespace Assay.Utility

structure Stride (σ : Type) where
  state : σ
  output : List Char := []
  ends : Bool := false

/-- What is done with a line; the flag tells that its end was there. -/
abbrev LineStep (σ : Type) := σ → List Char → Bool → Stride σ

structure Reel (σ : Type) where
  state : σ
  output : ByteArray := .empty
  ends : Bool := false
  left : Nat := 0
  begun : List Char := []

namespace Reel

variable {σ : Type}

def push (reel : Reel σ) (chars : List Char) : ByteArray :=
  chars.foldl (fun bytes c => bytes.push (Octets.byteOf c)) reel.output

def take (step : LineStep σ) (reel : Reel σ) (line : List Char) (complete : Bool) : Reel σ :=
  let stride := step reel.state line complete
  { state := stride.state, output := reel.push stride.output, ends := stride.ends }

def turn (mark : Char) (step : LineStep σ) : Reel σ → List Char → Reel σ
  | reel, [] => reel
  | reel, c :: rest =>
    if reel.ends then { reel with left := reel.left + 1 + rest.length }
    else if c = mark then turn mark step ((reel.take step reel.begun.reverse true)) rest
    else turn mark step { reel with begun := c :: reel.begun } rest

def finish (step : LineStep σ) (reel : Reel σ) : Reel σ :=
  if reel.ends || reel.begun.isEmpty then reel else reel.take step reel.begun.reverse false

end Reel

structure LineManner where
  mark : Char := '\n'
  piece : Nat := 32768
  returns : Bool := false

variable {σ : Type}

def readLines (number : Nat) (manner : LineManner) (step : LineStep σ) :
    Nat → Reel σ → Utility (Except FileFault σ)
  | 0, reel => return .ok reel.state
  | pieces + 1, reel => do
    match ← ask (.read number manner.piece) with
    | .error fault => return .error fault
    | .ok content =>
      let next := if content.isEmpty then reel.finish step else reel.turn manner.mark step (Octets.chars content)
      emitBytes next.output
      if next.ends && manner.returns && next.left ≠ 0 then ask (.giveBack number next.left)
      if next.ends || content.isEmpty then return .ok next.state
      else readLines number manner step pieces { next with output := .empty }

def eachLine (file : String) (manner : LineManner) (state : σ) (step : LineStep σ) :
    Utility (Except FileFault σ) := do
  match ← withInput file fun number => readLines number manner step Process.manySteps { state } with
  | .error fault => return .error fault
  | .ok result => return result

/-- Reads the lines of some files, or of the input; files that cannot be read are told about. -/
def eachLineOf (files : List String) (manner : LineManner) (state : σ) (step : LineStep σ) :
    Utility σ := do
  let mut now := state
  for file in if files.isEmpty then ["-"] else files do
    match ← eachLine file manner now step with
    | .ok next => now := next
    | .error fault => complain ((if file = "-" then "-" else named file) ++ ": " ++ fault.message)
  if files.isEmpty || files.contains "-" then closeInput "-"
  return now

def ended (line : List Char) (mark : Char := '\n') : List Char := line ++ [mark]

/-- The characters of a file, or of the input; a file that cannot be read is told about. -/
def charsOf (file : String) : Utility (List Char) := do
  match ← contentOf file with
  | .ok content => return Octets.chars content
  | .error fault =>
    complain ((if file = "-" then "-" else named file) ++ ": " ++ fault.message)
    return []

end Assay.Utility
