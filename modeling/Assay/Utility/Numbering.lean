import Assay.Text.Regex
import Assay.Utility.Copying

/-!
Numbered lines. A text may have pages with a head, a body and a foot, each of which is numbered in its own manner.
-/

namespace Assay.Utility

inductive Section
  | header | body | footer
deriving DecidableEq

inductive NumberedLines
  | all
  | nonempty
  | none
  | fitting (regex : Text.Regex)

structure Numbering where
  header : NumberedLines := .none
  body : NumberedLines := .nonempty
  footer : NumberedLines := .none
  width : Nat := 6
  separator : List Char := ['\t']
  start : Int := 1
  increment : Int := 1
  align : String := "rn"
  joined : Nat := 1
  restarts : Bool := true
  mark : List Char := ['\\', ':']
  wide : Bool := false

structure Numbered where
  next : Int
  part : Section := .body
  empty : Nat := 0

namespace Numbering

def shown (numbering : Numbering) (n : Int) : List Char :=
  let digits := (toString n).toList
  match numbering.align with
  | "ln" => leftAligned numbering.width digits
  | "rz" =>
    let sign := if n < 0 then ['-'] else []
    let plain := digits.drop sign.length
    sign ++ List.replicate (numbering.width - digits.length) '0' ++ plain
  | _ => rightAligned numbering.width digits

def section? (numbering : Numbering) (line : List Char) : Option Section :=
  let mark := numbering.mark
  if mark.length < 2 then none
  else if line = mark ++ mark ++ mark then some .header
  else if line = mark ++ mark then some .body
  else if line = mark then some .footer
  else none

def style (numbering : Numbering) : Section → NumberedLines
  | .header => numbering.header
  | .body => numbering.body
  | .footer => numbering.footer

def step (numbering : Numbering) : LineStep Numbered := fun state line _ =>
  match numbering.section? line with
  | some part =>
    { state := { state with part, next := if numbering.restarts then numbering.start else state.next }, output := ['\n'] }
  | none =>
    let numbered : Stride Numbered :=
      { state := { state with next := state.next + numbering.increment, empty := 0 }
        output := numbering.shown state.next ++ numbering.separator ++ ended line }
    let plain : Stride Numbered :=
      { state, output := List.replicate (numbering.width + numbering.separator.length) ' ' ++ ended line }
    match numbering.style state.part with
    | .all =>
      if 1 < numbering.joined ∧ line = [] ∧ state.empty + 1 ≠ numbering.joined then
        { plain with state := { state with empty := state.empty + 1 } }
      else numbered
    | .nonempty => if line = [] then plain else numbered
    | .none => plain
    | .fitting regex =>
      let chars := if numbering.wide then Text.Characters.gather line else line
      if (Text.Regex.find? { chars := chars.toArray, style := { wide := numbering.wide } } regex 0).isSome then numbered else plain

end Numbering

def numberedLines (wide : Bool) (what text : String) : Utility NumberedLines := do
  match text.toList with
  | 'a' :: _ => return .all
  | 't' :: _ => return .nonempty
  | 'n' :: _ => return .none
  | 'p' :: pattern =>
    match Text.Regex.read { wide } (if wide then Text.Characters.gather pattern else pattern) with
    | .ok (regex, _) => return .fitting regex
    | .error fault => fail fault.message
  | _ => misuse ("invalid " ++ what ++ " numbering style: " ++ cited text)

def integerOption (what text : String) (least : Option Int) : Utility Int := do
  let scanned := Text.scanInteger true text.toList
  if !scanned.found || scanned.rest ≠ [] then fail ("invalid " ++ what ++ ": " ++ cited text)
  if scanned.value < Text.leastInteger || Text.greatestInteger < scanned.value then
    fail ("invalid " ++ what ++ ": " ++ cited text ++ ": Value too large for defined data type")
  if least.any (scanned.value < ·) then
    fail ("invalid " ++ what ++ ": " ++ cited text ++ ": Numerical result out of range")
  return scanned.value

def nl : Program := program do
  let found ← options
    { flags := "p", valued := "bdfhilnsvw",
      words := [("body-numbering", "b", true), ("header-numbering", "h", true), ("footer-numbering", "f", true),
                ("number-width", "w", true), ("section-delimiter", "d", true), ("no-renumber", "p", false),
                ("join-blank-lines", "l", true), ("number-separator", "s", true), ("starting-line-number", "v", true),
                ("line-increment", "i", true), ("number-format", "n", true)] }
  let mut numbering : Numbering := { wide := ← spellsWide }
  for (key, value) in found.options do
    match key with
    | "b" => numbering := { numbering with body := ← numberedLines numbering.wide "body" value }
    | "h" => numbering := { numbering with header := ← numberedLines numbering.wide "header" value }
    | "f" => numbering := { numbering with footer := ← numberedLines numbering.wide "footer" value }
    | "v" => numbering := { numbering with start := ← integerOption "starting line number" value none }
    | "i" => numbering := { numbering with increment := ← integerOption "line number increment" value none }
    | "l" => numbering := { numbering with joined := (← integerOption "line number of blank lines" value (some 0)).toNat }
    | "w" => numbering := { numbering with width := (← integerOption "line number field width" value (some 1)).toNat }
    | "s" => numbering := { numbering with separator := value.toList }
    | "p" => numbering := { numbering with restarts := false }
    | "d" =>
      numbering := { numbering with
        mark := match value.toList with
          | [c] => [c, ':']
          | mark => mark }
    | "n" =>
      if !(["ln", "rn", "rz"].contains value) then misuse ("invalid line numbering format: " ++ cited value)
      numbering := { numbering with align := value }
    | _ => pure ()
  let _ ← eachLineOf found.operands {} { next := numbering.start } numbering.step

end Assay.Utility
