import Assay.Utility.Reading

/-!
Tabs and blanks in each other's place. Tab stops stand at the multiples of a number or where a list puts them.
-/

namespace Assay.Utility

/-- Where tab stops are: those of a list, and then one after each step, counted from the left margin or from the last
stop of the list. -/
structure TabStops where
  stops : List Nat := []
  step : Option Nat := some 8
  fromLast : Bool := false

namespace TabStops

def next? (tabs : TabStops) (column : Nat) : Option Nat :=
  match tabs.stops.find? (column < ·) with
  | some stop => some stop
  | none =>
    tabs.step.map fun step =>
      let margin := if tabs.fromLast then tabs.stops.getLast?.getD 0 else 0
      column + (step - (column - margin) % step)

/-- One entry of a list of stops. A stroke or a plus before it makes this one and those behind it the step after the
others. -/
def withEntry (tabs : TabStops) (mark : Option Char) (text : List Char) : Utility (TabStops × Option Char) := do
  let (mark, digits) : Option Char × List Char := match text with
    | '/' :: rest => (some '/', rest)
    | '+' :: rest => (some '+', rest)
    | rest => (mark, rest)
  match digits.dropWhile Char.isDigit with
  | [] => pure ()
  | c :: rest =>
    if c = '/' ∨ c = '+' then
      fail ("'" ++ String.ofList [c] ++ "' specifier not at start of number: " ++ cited (String.ofList (c :: rest)))
    else fail ("tab size contains invalid character(s): " ++ cited (String.ofList (c :: rest)))
  if digits = [] then return (tabs, mark)
  let n := Text.valueIn 10 digits
  match mark with
  | some sign =>
    if tabs.step.isSome then
      if tabs.fromLast = (sign = '+') then
        fail ("'" ++ String.ofList [sign] ++ "' specifier only allowed with the last value")
      else fail "'/' specifier is mutually exclusive with '+'"
    return ({ tabs with step := some n, fromLast := sign = '+' }, mark)
  | none => return ({ tabs with stops := tabs.stops ++ [n] }, mark)

def ofTexts (texts : List String) : Utility TabStops := do
  let mut tabs : TabStops := { step := none }
  for text in texts do
    let mut mark : Option Char := none
    for entry in text.toList.splitOnP fun c => c = ',' || c = ' ' || c = '\t' do
      (tabs, mark) ← tabs.withEntry mark entry
  if tabs.stops.contains 0 then fail "tab size cannot be 0"
  if !(tabs.stops.zip (tabs.stops.drop 1)).all fun (one, other) => one < other then
    fail "tab sizes must be ascending"
  match tabs.stops, tabs.step with
  | [], none => return {}
  | [], some step => return { step := some (if step = 0 then 8 else step) }
  | [only], none => return { step := some only }
  | _, some 0 => return { tabs with step := none }
  | _, _ => return tabs

end TabStops

def withTabOption (given : List String) : List String :=
  given.map fun word =>
    match word.toList with
    | '-' :: c :: rest =>
      if c.isDigit && rest.all fun d => d.isDigit || d = ',' then "-t" ++ String.ofList (c :: rest) else word
    | _ => word

/-- Blanks instead of tabs. With `first` only those at the front of a line are changed. -/
def withoutTabs (tabs : TabStops) (first : Bool) : Nat → List Char → List Char
  | _, [] => []
  | column, c :: rest =>
    if c = '\t' then
      let size := (tabs.next? column).elim 1 (· - column)
      List.replicate size ' ' ++ withoutTabs tabs first (column + size) rest
    else if first && c ≠ ' ' then c :: rest
    else c :: withoutTabs tabs first (if c = '\x08' then column - 1 else column + 1) rest

def expand : Program := program do
  let given := withTabOption (← arguments)
  let found ← scanArguments
    { flags := "i", valued := "t", words := [("tabs", "t", true), ("initial", "i", false)] } (given.length + 1) given
  let tabs ← TabStops.ofTexts (found.values "t")
  let step : LineStep Unit := fun _ line complete =>
    let body := withoutTabs tabs (found.has "i") 0 line
    { state := (), output := if complete then ended body else body }
  eachLineOf found.operands {} () step

structure Tabbing where
  column : Nat := 0
  converts : Bool := true
  afterBlank : Bool := true
  pending : List Char := []
  atStop : Bool := false
  output : List Char := []

namespace Tabbing

def write (state : Tabbing) (c : Char) : Tabbing :=
  let pending := if 1 < state.pending.length && state.atStop then '\t' :: state.pending.drop 1 else state.pending
  { state with
    output := c :: pending.reverse ++ state.output, pending := [], atStop := state.atStop && state.pending = [] }

def step (tabs : TabStops) (all : Bool) (state : Tabbing) (c : Char) : Tabbing :=
  if !state.converts then { state with output := c :: state.output }
  else if c = ' ' ∨ c = '\t' then
    match tabs.next? state.column with
    | none =>
      { state.write c with converts := false, afterBlank := true }
    | some stop =>
      let tabbed := fun (column : Nat) =>
        let held := if state.atStop then ['\t'] else []
        { ({ state with pending := held }).write '\t' with column, afterBlank := true }
      if c = '\t' then tabbed stop
      else if state.afterBlank && state.column + 1 = stop then tabbed stop
      else
        { state with
          column := state.column + 1, atStop := state.atStop || state.column + 1 = stop
          pending := state.pending ++ [c], afterBlank := true }
  else
    { state.write c with
      column := if c = '\x08' then state.column - 1 else state.column + 1, afterBlank := false, converts := all }

end Tabbing

def withTabs (tabs : TabStops) (all : Bool) (line : List Char) : List Char :=
  let state := line.foldl (Tabbing.step tabs all) {}
  let pending := if 1 < state.pending.length && state.atStop then '\t' :: state.pending.drop 1 else state.pending
  state.output.reverse ++ pending

def unexpand : Program := program do
  let given := withTabOption (← arguments)
  let found ← scanArguments
    { flags := "a", valued := "t", words := [("all", "a", false), ("tabs", "t", true), ("first-only", "f", false)] }
    (given.length + 1) given
  let tabs ← TabStops.ofTexts (found.values "t")
  let all := (found.has "a" || found.has "t") && !found.has "f"
  let step : LineStep Unit := fun _ line complete =>
    let body := withTabs tabs all line
    { state := (), output := if complete then ended body else body }
  eachLineOf found.operands {} () step

end Assay.Utility
