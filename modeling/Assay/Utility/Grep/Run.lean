import Assay.Script.Pattern
import Assay.Utility.Grep.Search

/-!
The program that finds lines, and the files that it looks through.
-/

namespace Assay.Utility

open Text (Regex Trial)

structure NameRule where
  wanted : Bool
  pattern : String

def NameRule.fits (given : Bool) (name : String) (rule : NameRule) : Bool :=
  let chars := name.toList
  let ends := (List.range chars.length).filter fun place =>
    place = 0 || (given && chars[place - 1]? = some '/' && chars[place]? ≠ some '/')
  ends.any fun place => Script.Pattern.fitsPlain rule.pattern (String.ofList (chars.drop place))

/-- The last rule that fits decides; if none does, the first one tells what is usual. -/
def NameRule.refuses (rules : List NameRule) (given : Bool) (name : String) : Bool :=
  match rules.reverse.find? (NameRule.fits given name), rules.head? with
  | some rule, _ => !rule.wanted
  | none, some first => first.wanted
  | none, none => false

inductive OnFolder
  | tell
  | skip
  | enter
deriving DecidableEq

structure Descent where
  onFolder : OnFolder := .tell
  follows : Bool := false
  skipsDevices : Bool := false
  silent : Bool := false
  rules : List NameRule := []
  folderRules : List NameRule := []
  inputLabel : String := "(standard input)"

/-- Looks through a file, or all files below a folder; the number bounds the depth. The flags tell that the user
has written the name, and that the name of the folder is not shown. -/
def searchFile (search : Search) (descent : Descent) : Nat → Bool → Bool → String → SearchOutcome →
    Utility SearchOutcome
  | 0, _, _, _, outcome => return outcome
  | depth + 1, given, hidden, file, outcome => do
    let place ← folder
    let files ← tree
    let entry := if file = "-" then none else files.target? place (path file)
    let isFolder : Bool := match entry with
      | some (_, .folder) => true
      | _ => false
    let isDevice : Bool := match entry with
      | some (_, .device _) => true
      | _ => false
    let baseName := String.ofList (file.toList.reverse.takeWhile (· ≠ '/')).reverse
    let known := if given then file else baseName
    if isFolder then
      if descent.onFolder = .skip || (!hidden && NameRule.refuses descent.folderRules given known) then return outcome
      if descent.onFolder = .enter then
        let found := match entry with
          | some (location, _) => files.children location
          | none => []
        let mut now := outcome
        for (name, entry) in found do
          let child := if hidden then name else below file name
          let enters : Bool := match entry with
            | .folder | .file .. => true
            | .link _ => descent.follows
            | .device _ => false
          if enters then now ← searchFile search descent depth false false child now
        return now
      if descent.silent then modify fun console => { console with status := 2 }
      else complain (file ++ ": Is a directory") 2
      return outcome
    else if (isDevice && descent.skipsDevices)
        || (file ≠ "-" && NameRule.refuses descent.rules given known) then return outcome
    else
      let name := if file = "-" then descent.inputLabel else file
      let result ← withInput file fun number => searchChannel search name number outcome
      match result with
      | .ok next =>
        if search.quiet && next.selected then throw 0
        return next
      | .error fault =>
        if descent.silent then modify fun console => { console with status := 2 }
        else complain (file ++ ": " ++ fault.message) 2
        return outcome
where
  below (folder name : String) : String :=
    if folder.toList.getLast? = some '/' then folder ++ name else folder ++ "/" ++ name

def grepOptions : Options where
  flags := "EFGPHILTUVZabchilnoqRrsuvwxyz"
  valued := "ABCDXdefm"
  failure := 2
  usage := some "[OPTION]... PATTERNS [FILE]..."
  lenient := ["color", "colour"]
  words := [("extended-regexp", "E", false), ("fixed-strings", "F", false), ("basic-regexp", "G", false),
    ("perl-regexp", "P", false), ("ignore-case", "i", false), ("no-ignore-case", "!", false),
    ("invert-match", "v", false), ("word-regexp", "w", false), ("line-regexp", "x", false),
    ("count", "c", false), ("files-with-matches", "l", false), ("files-without-match", "L", false),
    ("quiet", "q", false), ("silent", "q", false), ("no-messages", "s", false), ("line-number", "n", false),
    ("only-matching", "o", false), ("no-filename", "h", false), ("with-filename", "H", false),
    ("recursive", "r", false), ("dereference-recursive", "R", false), ("byte-offset", "b", false),
    ("text", "a", false), ("null-data", "z", false), ("null", "Z", false), ("initial-tab", "T", false),
    ("regexp", "e", true), ("file", "f", true), ("max-count", "m", true), ("after-context", "A", true),
    ("before-context", "B", true), ("context", "C", true), ("directories", "d", true), ("devices", "D", true),
    ("color", "color", false), ("colour", "color", false), ("include", "include", true),
    ("exclude", "exclude", true), ("exclude-dir", "exclude-dir", true), ("line-buffered", "line", false),
    ("label", "label", true), ("binary-files", "binary", true), ("group-separator", "sep", true),
    ("no-group-separator", "nosep", false), ("exclude-from", "from", true), ("binary", "U", false),
    ("unix-byte-offsets", "u", false), ("version", "V", false), ("help", "help", false)]

def grepUsage {α : Type} : Utility α := do
  let name ← name
  say ("Usage: " ++ name ++ " [OPTION]... PATTERNS [FILE]...\nTry '" ++ name ++ " --help' for more information.\n")
  throw 2

/-- The letters of an argument, with numbers among them as sizes of the context. The flag tells that the next argument
belongs to the last letter. -/
def splitSizes : Nat → List Char → List String × Bool
  | 0, _ | _, [] => ([], false)
  | fuel + 1, c :: more =>
    if c.isDigit then
      let digits := (c :: more).takeWhile Char.isDigit
      let (others, waits) := splitSizes fuel ((c :: more).drop digits.length)
      (("-C" ++ String.ofList digits) :: others, waits)
    else if grepOptions.valued.toList.contains c then ([String.ofList ('-' :: c :: more)], more = [])
    else
      let (others, waits) := splitSizes fuel more
      (String.ofList ['-', c] :: others, waits)

/-- The arguments, with options that are numbers as sizes of the context. -/
def withContexts : List String → List String
  | [] => []
  | "--" :: rest => "--" :: rest
  | text :: rest =>
    match text.toList with
    | '-' :: '-' :: word =>
      let takes := (grepOptions.words.filter fun item => word.isPrefixOf item.1.toList).map fun item => item.2.2
      if !word.contains '=' && takes.contains true then text :: skipOne rest else text :: withContexts rest
    | '-' :: c :: more =>
      let (split, waits) := splitSizes (more.length + 2) (c :: more)
      split ++ (if waits then skipOne rest else withContexts rest)
    | _ => text :: withContexts rest
where
  skipOne : List String → List String
    | [] => []
    | value :: rest => value :: withContexts rest

def isBareClass (text : List Char) : Bool :=
  match text with
  | '[' :: ':' :: rest =>
    match rest.reverse with
    | ']' :: ':' :: _ => !rest.dropLast.contains ']'
    | _ => false
  | _ => false

def contextSize (text : String) : Utility Nat := do
  let scanned := Text.scanInteger true text.toList
  if !scanned.found || scanned.rest ≠ [] || scanned.value < 0 then
    fail (text ++ ": invalid context length argument") 2
  return scanned.value.toNat

def mostLines (text : String) : Utility (Option Nat) := do
  let scanned := Text.scanInteger true text.toList
  if !scanned.found || scanned.rest ≠ [] then fail "invalid max count" 2
  return if scanned.value < 0 then none else some scanned.value.toNat

structure GrepPlan where
  kind : Option String := none
  texts : List (List Char) := []
  explicit : Bool := false
  search : Search := {}
  descent : Descent := {}
  around : Option Nat := none
  beforeGiven : Option Nat := none
  afterGiven : Option Nat := none
  colors : Bool := false
  helps : Bool := false
  tells : Bool := false
  namesGiven : Option Bool := none
  ignoresCase : Bool := false

namespace GrepPlan

def add (plan : GrepPlan) (key value : String) : Utility GrepPlan := do
  let searching := fun (search : Search) => { plan with search }
  let descending := fun (descent : Descent) => { plan with descent }
  let search := plan.search
  let descent := plan.descent
  match key with
  | "E" | "F" | "G" | "P" =>
    if plan.kind.any (· ≠ key) then fail "conflicting matchers specified" 2
    return { plan with kind := some key }
  | "e" => return { plan with explicit := true, texts := plan.texts ++ value.toList.splitOn '\n' }
  | "f" =>
    match ← contentOf value with
    | .ok content => return { plan with explicit := true, texts := plan.texts ++ linesOf (Octets.chars content) }
    | .error fault => fail (value ++ ": " ++ fault.message) 2
  | "i" | "y" => return { plan with ignoresCase := true }
  | "!" => return { plan with ignoresCase := false }
  | "v" => return searching { search with inverted := true }
  | "w" => return searching { search with words := true }
  | "x" => return searching { search with wholeLines := true }
  | "c" => return searching { search with counts := true }
  | "l" => return searching { search with names := some true }
  | "L" => return searching { search with names := some false }
  | "q" => return searching { search with quiet := true }
  | "n" => return searching { search with numbers := true }
  | "b" => return searching { search with offsets := true }
  | "o" => return searching { search with onlyParts := true }
  | "a" => return searching { search with onBinary := .readAnyway }
  | "I" => return searching { search with onBinary := .skip }
  | "z" => return searching { search with mark := '\x00' }
  | "Z" => return searching { search with nullNames := true }
  | "T" => return searching { search with aligned := true }
  | "m" => return searching { search with most := ← mostLines value }
  | "sep" => return searching { search with separator := some value }
  | "nosep" => return searching { search with separator := none }
  | "binary" =>
    match value with
    | "binary" => return searching { search with onBinary := .tell }
    | "text" => return searching { search with onBinary := .readAnyway }
    | "without-match" => return searching { search with onBinary := .skip }
    | _ => fail "unknown binary-files type" 2
  | "A" => return { plan with afterGiven := some (← contextSize value) }
  | "B" => return { plan with beforeGiven := some (← contextSize value) }
  | "C" => return { plan with around := some (← contextSize value) }
  | "h" => return { plan with namesGiven := some false }
  | "H" => return { plan with namesGiven := some true }
  | "s" => return descending { descent with silent := true }
  | "r" => return descending { descent with onFolder := .enter }
  | "R" => return descending { descent with onFolder := .enter, follows := true }
  | "d" =>
    let onFolder ← folderChoice value
    return descending { descent with onFolder, follows := descent.follows && onFolder = .enter }
  | "D" =>
    match value with
    | "read" => return descending { descent with skipsDevices := false }
    | "skip" => return descending { descent with skipsDevices := true }
    | _ => fail "unknown devices method" 2
  | "include" => return descending { descent with rules := descent.rules ++ [{ wanted := true, pattern := value }] }
  | "exclude" => return descending { descent with rules := descent.rules ++ [{ wanted := false, pattern := value }] }
  | "from" =>
    match ← contentOf value with
    | .ok content =>
      let trimmed := fun line : List Char => (line.reverse.dropWhile Text.isSpaceByte).reverse
      let lines := ((linesOf (Octets.chars content)).map trimmed).filter (· ≠ [])
      let rules := lines.map fun line => { wanted := false, pattern := String.ofList line : NameRule }
      return descending { descent with rules := descent.rules ++ rules }
    | .error fault => fail (value ++ ": " ++ fault.message) 2
  | "exclude-dir" =>
    let bare := (value.toList.reverse.dropWhile (· = '/')).reverse
    let pattern := if bare = [] then value else String.ofList bare
    return descending { descent with folderRules := descent.folderRules ++ [{ wanted := false, pattern }] }
  | "label" => return descending { descent with inputLabel := value }
  | "color" =>
    if ["always", "yes", "force"].contains value then return { plan with colors := true }
    else if ["never", "no", "none", "auto", "tty", "if-tty", ""].contains value then return { plan with colors := false }
    else return { plan with helps := true }
  | "u" =>
    warn "warning: --unix-byte-offsets (-u) is obsolete"
    return plan
  | "help" => return { plan with helps := true }
  | "V" => return { plan with tells := true }
  | _ => return plan
where
  folderChoice (word : String) : Utility OnFolder := do
    match (["read", "recurse", "skip"].filter fun name => word.isPrefixOf name : List String) with
    | ["read"] => return .tell
    | ["recurse"] => return .enter
    | ["skip"] => return .skip
    | fits =>
      warn ((if fits.isEmpty then "invalid" else "ambiguous") ++ " argument " ++ cited word ++ " for "
        ++ cited "--directories")
      say "Valid arguments are:\n"
      for name in ["read", "recurse", "skip"] do say ("  - " ++ cited name ++ "\n")
      let program ← name
      say ("Usage: " ++ program ++ " [OPTION]... PATTERNS [FILE]...\nTry '" ++ program
        ++ " --help' for more information.\n")
      throw 1

def palette (plan : GrepPlan) : Utility (Option Palette) := do
  if !plan.colors then return none
  let environment := (← get).call.environment
  let mut palette : Palette := {}
  let old := (environment.lookup "GREP_COLOR").getD ""
  let colors := (environment.lookup "GREP_COLORS").getD ""
  if old ≠ "" && Palette.isColor old.toList then
    palette := { palette with selectedMatch := old, contextMatch := old }
    warn ("warning: GREP_COLOR='" ++ old ++ "' is deprecated; use GREP_COLORS='mt=" ++ old ++ "'")
  return some (palette.withColors colors)

/-- An expression of the kind that is tried from left to right, for whole words or lines if only they count. -/
def trial (plan : GrepPlan) (wide : Bool) : Utility (Trial × List (Nat × Trial)) := do
  match plan.texts with
  | [text] =>
    let switches : Trial.Switches :=
      { wide, ignoresCase := plan.ignoresCase }
    match Trial.read switches (if wide then Text.Characters.gather text else text) with
    | .error fault => fail fault.message 2
    | .ok (trial, groups) =>
      let outside : Trial := .one (Trial.isWordChar switches)
      let start : Trial := .edge fun before _ => before.isNone
      let stop : Trial := .edge fun _ after => after.isNone
      let whole : Trial :=
        if plan.search.wholeLines then .sequence start (.sequence trial stop)
        else if plan.search.words then
          .sequence (.behind false 1 outside) (.sequence trial (.ahead false outside))
        else trial
      return (whole, groups)
  | _ => fail "the -P option only supports a single pattern" 2

def regexes (plan : GrepPlan) (kind : String) (style : Regex.Style) : Utility (List Regex) := do
  let mut patterns : List Regex := []
  for text in plan.texts do
    let chars := if style.wide then Text.Characters.gather text else text
    if kind = "F" then
      patterns := patterns ++ [chars.foldl (fun (made : Regex) c => .sequence made (.char c)) .empty]
    else if isBareClass text then
      fail "character class syntax is [[:space:]], not [:space:]" 2
    else
      match Regex.read style chars with
      | .ok (regex, strays) =>
        for stray in strays do warn ("warning: " ++ stray)
        patterns := patterns ++ [regex]
      | .error fault => fail fault.message 2
  return patterns

end GrepPlan

/-- The program; the letter is the notation of expressions if no option tells. -/
def grepAs (standard : Option String) : Program := program do
  modify fun console => { console with call := { console.call with name := "grep" }, loss := Loss.usual 2 }
  let given := withContexts (← arguments)
  let found ← scanArguments grepOptions (given.length + 1) given
  let mut plan : GrepPlan := { kind := standard }
  for (key, value) in found.options do plan ← plan.add key value
  if plan.tells then
    emitText "grep\n"
    return
  let operands ← match plan.explicit, found.operands with
    | true, operands => pure operands
    | false, [] => grepUsage
    | false, first :: rest =>
      plan := { plan with texts := first.toList.splitOn '\n' }
      pure rest
  let wide ← spellsWide
  let kind := plan.kind.getD "G"
  let style : Regex.Style := { extended := kind = "E", wide, ignoresCase := plan.ignoresCase }
  let palette ← plan.palette
  let trial ← if kind = "P" then some <$> plan.trial wide else pure none
  let patterns ← if kind = "P" then pure [] else plan.regexes kind style
  let recursive := plan.descent.onFolder = .enter
  let files := if operands.isEmpty then [if recursive then "." else "-"] else operands
  let onFolder := match (← tree).target? (← folder) (path (files.headD "")) with
    | some (_, .folder) => true
    | _ => false
  let search : Search :=
    { plan.search with
      patterns, style, trial, palette
      counts := plan.search.counts && plan.search.names.isNone && !plan.search.quiet
      names := if plan.search.quiet then none else plan.search.names
      withNames := plan.namesGiven.getD (1 < files.length || (recursive && onFolder))
      before := (plan.beforeGiven.orElse fun _ => plan.around).getD 0
      after := (plan.afterGiven.orElse fun _ => plan.around).getD 0
      context := (plan.beforeGiven.orElse fun _ => plan.afterGiven.orElse fun _ => plan.around).isSome }
  if search.most = some 0 then throw 1
  let depth := (← tree).entries.length + 3
  let mut outcome : SearchOutcome := {}
  for file in files do
    outcome ← searchFile search plan.descent depth true (operands.isEmpty && recursive) file outcome
  let status := (← get).status
  let final := if status ≠ 0 then status else if outcome.selected then 0 else 1
  modify fun console => { console with status := final }

def grep : Program := grepAs none

def egrep : Program := grepAs (some "E")

def fgrep : Program := grepAs (some "F")

end Assay.Utility
