import Assay.Utility.Comparing.Files

/-!
How files are compared line by line: the options of the program.
-/

namespace Assay.Utility

open Comparing Text

def diffOptions : Options :=
  { flags := "0123456789abBcdeEfhHilnNpPqrstTuvwyZ", valued := "CDFILSUWxX", failure := 2, signed := true
    words :=
      [("binary", "binary", false), ("brief", "q", false), ("changed-group-format", "changed", true),
       ("color", "color", false), ("context", "C", false), ("ed", "e", false), ("exclude", "x", true),
       ("exclude-from", "X", true), ("expand-tabs", "t", false), ("forward-ed", "f", false),
       ("from-file", "from", true), ("help", "help", false), ("horizon-lines", "horizon", true), ("ifdef", "D", true),
       ("ignore-all-space", "w", false), ("ignore-blank-lines", "B", false), ("ignore-case", "i", false),
       ("ignore-file-name-case", "names", false), ("ignore-matching-lines", "I", true),
       ("ignore-space-change", "b", false), ("ignore-tab-expansion", "E", false),
       ("ignore-trailing-space", "Z", false), ("inhibit-hunk-merge", "merge", false), ("initial-tab", "T", false),
       ("label", "L", true), ("left-column", "left", false), ("line-format", "line", true), ("minimal", "d", false),
       ("new-file", "N", false), ("new-group-format", "new", true), ("new-line-format", "newLine", true),
       ("no-dereference", "links", false), ("no-ignore-file-name-case", "cases", false), ("normal", "normal", false),
       ("old-group-format", "old", true), ("old-line-format", "oldLine", true), ("paginate", "l", false),
       ("palette", "palette", true), ("rcs", "n", false), ("recursive", "r", false),
       ("report-identical-files", "s", false), ("sdiff-merge-assist", "assist", false),
       ("show-c-function", "p", false), ("show-function-line", "F", true), ("side-by-side", "y", false),
       ("speed-large-files", "H", false), ("starting-file", "S", true), ("strip-trailing-cr", "cr", false),
       ("suppress-blank-empty", "bare", false), ("suppress-common-lines", "changes", false), ("tabsize", "size", true),
       ("text", "a", false), ("to-file", "to", true), ("unchanged-group-format", "same", true),
       ("unchanged-line-format", "sameLine", true), ("unidirectional-new-file", "P", false), ("unified", "U", false),
       ("version", "v", false), ("width", "W", true)]
    lenient := ["unified", "context", "color"] }

def optionWords (known : Options) : List String → List String
  | [] => []
  | "--" :: _ => ["--"]
  | text :: rest =>
    match text.toList with
    | '-' :: '-' :: word =>
      let takes := !word.contains '=' && (known.words.filter fun item => word.isPrefixOf item.1.toList).any (·.2.2)
      text :: if takes then valueAnd takes rest else optionWords known rest
    | '-' :: c :: more =>
      let flags := (c :: more).takeWhile fun letter => !known.valued.toList.contains letter
      let takes : Bool := (c :: more).length = flags.length + 1
      text :: if takes then valueAnd takes rest else optionWords known rest
    | _ => optionWords known rest
where
  valueAnd (_ : Bool) : List String → List String
    | [] => []
    | value :: rest => value :: optionWords known rest

namespace Comparing

def lastWord (found : Found) (given : List String) (standard : String := "diff") : String :=
  (found.operands.getLast?.orElse fun _ => given.getLast?).getD standard

structure Request where
  form : Option String := none
  context : Option Nat := none
  exact : Bool := false
  groups : Groups := {}
  width : Option Nat := none
  tabSize : Option Nat := none

def misused {α : Type} (message : String) : Utility α := diffOptions.misused message

def Request.withForm (request : Request) (form : String) : Utility Request := do
  match request.form with
  | some other => if other = form then return request else misused "conflicting output style options"
  | none => return { request with form := some form }

def single (option : String) (old : Option String) (value : String) : Utility (Option String) := do
  match old with
  | some other => if other ≠ value then misused ("conflicting " ++ option ++ " option value '" ++ value ++ "'")
  | none => pure ()
  return some value

def size (wrong : String) (text : String) : Utility Nat := do
  match natural? text with
  | some (value + 1) => return value + 1
  | _ => misused (wrong ++ " '" ++ text ++ "'")

def Request.read (request : Request) (option : String × String) : Utility Request := do
  let (key, value) := option
  let groups := request.groups
  let grouped := fun (change : Groups → Utility Groups) => do
    let next ← request.withForm "groups"
    return { next with groups := ← change groups }
  match key with
  | "normal" => request.withForm "normal"
  | "c" => do
    let next ← request.withForm "doubled"
    return { next with context := some (max 3 (next.context.getD 0)) }
  | "u" => do
    let next ← request.withForm "unified"
    return { next with context := some (max 3 (next.context.getD 0)) }
  | "C" | "U" => do
    let count ← if value = "" then pure 3 else
      match natural? value with
      | some count => pure count
      | none => misused ("invalid context length '" ++ value ++ "'")
    let next ← request.withForm (if key = "C" then "doubled" else "unified")
    return { next with context := some (max count (next.context.getD 0)), exact := true }
  | "e" => request.withForm "commands"
  | "f" => request.withForm "forward"
  | "n" => request.withForm "counts"
  | "y" => request.withForm "columns"
  | "D" => do
    let next ← request.withForm "groups"
    return { next with groups := Groups.named value }
  | "W" => do
    let width ← size "invalid width" value
    if request.width.any fun other => other ≠ width then fail "conflicting width options" 2
    return { request with width := some width }
  | "size" => do
    let width ← size "invalid tabsize" value
    if request.tabSize.any fun other => other ≠ width then fail "conflicting tabsize options" 2
    return { request with tabSize := some width }
  | "changed" => grouped fun groups => do
    return { groups with changed := ← single "--changed-group-format" groups.changed value }
  | "old" => grouped fun groups => do return { groups with old := ← single "--old-group-format" groups.old value }
  | "new" => grouped fun groups => do return { groups with new := ← single "--new-group-format" groups.new value }
  | "same" => grouped fun groups => do
    return { groups with same := ← single "--unchanged-group-format" groups.same value }
  | "oldLine" => grouped fun groups => do
    return { groups with oldLine := ← single "--old-line-format" groups.oldLine value }
  | "newLine" => grouped fun groups => do
    return { groups with newLine := ← single "--new-line-format" groups.newLine value }
  | "sameLine" => grouped fun groups => do
    return { groups with sameLine := ← single "--unchanged-line-format" groups.sameLine value }
  | "line" => grouped fun groups => do
    return { groups with
      oldLine := ← single "--line-format" groups.oldLine value
      newLine := ← single "--line-format" groups.newLine value
      sameLine := ← single "--line-format" groups.sameLine value }
  | _ => return request

def readAll : Request → List (String × String) → Utility Request
  | request, [] => return request
  | request, option :: rest => do readAll (← request.read option) rest

def expressions (texts : List String) : Utility (List (Regex × Regex.Style)) := do
  let wide ← spellsWide
  let mut found := []
  for text in texts do
    let style : Regex.Style := { wide }
    let chars := if wide then Characters.gather text.toList else text.toList
    match Regex.read style chars with
    | .ok (regex, _) => found := found ++ [(regex, style)]
    | .error fault => fail (text ++ ": " ++ fault.message) 2
  return found

def blanksOf (found : Found) : Blanks :=
  if found.has "w" then .none
  else if found.has "b" then .amounts
  else if found.has "Z" then .endings
  else if found.has "E" then .tabs
  else .all

def patternsIn (file : String) : Utility (List String) := do
  match ← contentOf file with
  | .ok content => return (linesOf (Octets.chars content)).map String.ofList
  | .error fault => fail (file ++ ": " ++ fault.message) 2

def schemeOf (found : Found) (given : List String) : Utility Scheme := do
  let start ← readAll {} found.options
  let request ← match start.form with
    | some _ => pure start
    | none =>
      if found.has "p" || found.has "F" then do
        let next ← start.withForm "doubled"
        pure { next with context := some (next.context.getD 3) }
      else pure start
  if 2 < (found.values "L").length then fail "too many file label options" 2
  let digits := found.options.foldl (fun digits option =>
    if option.1.toList.all Char.isDigit then digits ++ option.1.toList else digits) ([] : List Char)
  let context := match request.context with
    | none => 0
    | some context =>
      let asked := Text.valueIn 10 digits
      if digits.isEmpty then context
      else if context < asked || !request.exact then asked
      else context
  let colored ← if found.has "color" then
      choiceOfColor ((found.value? "color").getD "")
    else pure false
  let tabSize := request.tabSize.getD 8
  let expands := found.has "t"
  let headings ← expressions ((if found.has "p" then ["^[[:alpha:]$_]"] else []) ++ found.values "F")
  let layout : Layout :=
    { context, tabbed := found.has "T", expands, tabSize, bare := found.has "bare", colored, headings }
  let columns := Columns.ofWidth (request.width.getD 130) expands tabSize
  let form : Form := match request.form with
    | some "unified" => .unified
    | some "doubled" => .doubled
    | some "commands" => .commands
    | some "forward" => .forward
    | some "counts" => .counts
    | some "groups" => .groups request.groups
    | some "columns" =>
      .columns
        { columns with
          wide := false, layout, leftOnly := found.has "left", changesOnly := found.has "changes"
          counts := found.has "assist" }
    | _ => .normal
  let wide ← spellsWide
  let form := match form with
    | .columns columns => Form.columns { columns with wide }
    | other => other
  let mut excluded := found.values "x"
  for file in found.values "X" do excluded := excluded ++ (← patternsIn file)
  let words := optionWords diffOptions given
  return {
    rule :=
      { blanks := blanksOf found, ignoresCase := found.has "i", tabSize, ignoresEmpty := found.has "B"
        ignored := ← expressions (found.values "I") }
    form, layout, brief := found.has "q", tellsSame := found.has "s", recursive := found.has "r"
    asText := found.has "a", dropsReturns := found.has "cr", fillsAbsent := found.has "N"
    fillsFirst := found.has "P", labels := found.values "L", excluded, startsAt := found.value? "S"
    switches := String.join (words.map fun word =>
      " " ++ String.ofList (Text.Citation.readable true [] word.toList)) }
where
  choiceOfColor (word : String) : Utility Bool := do
    match word with
    | "always" => return true
    | "" | "auto" | "never" => return false
    | _ => misused ("invalid color '" ++ word ++ "'")

end Comparing

def diff : Program := program do
  losing fun fault => ("standard output: " ++ fault.message, 2)
  let given ← arguments
  let found ← options diffOptions
  if found.has "v" then emitText "diff\n"
  else
    let scheme ← schemeOf found given
    let compareAll := fun (pairs : List (String × String)) => do
      let mut status := 0
      for (one, two) in pairs do status := max status (← comparePaths scheme one two)
      if status ≠ 0 then throw status
    match found.value? "from", found.value? "to" with
    | some _, some _ => fail "--from-file and --to-file both specified" 2
    | some file, none => compareAll (found.operands.map fun other => (file, other))
    | none, some file => compareAll (found.operands.map fun other => (other, file))
    | none, none =>
      match found.operands with
      | [] | [_] => misused ("missing operand after '" ++ lastWord found given ++ "'")
      | [one, two] => compareAll [(one, two)]
      | _ :: _ :: extra :: _ => misused ("extra operand '" ++ extra ++ "'")

end Assay.Utility
