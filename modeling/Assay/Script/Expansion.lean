import Assay.Script.Braces
import Assay.Script.Fields
import Assay.Script.Quoting
import Assay.Script.Sum
import Assay.Script.Written
import Assay.Script.Work

/-!
Expanding words: parameters, commands and sums in a word are replaced by what they come to.
-/

namespace Assay.Script.Expansion

structure Aim where
  /-- Results outside quotes are split into fields, and all arguments become several fields. -/
  splits : Bool := false
  nested : Bool := false
  /-- The word is a value that is assigned; paths in it may stand after colons. -/
  assigned : Bool := false

inductive Found
  | missing
  | text (content : String)
  | several (contents : List String) (apart : Bool)

def isNumeric (name : String) : Bool := name ≠ "" && name.toList.all Char.isDigit

def shownFlags (rich given : Bool) (flags : List Char) : String :=
  if rich then
    String.ofList ("abefhikmnprtuvxBCEHPT".toList.filter flags.contains ++ (if given then ['c'] else [])
      ++ (if flags.contains 's' then ['s'] else []))
  else String.ofList ("efIimnsxvVECabu".toList.filter flags.contains)

def homeOf? (name : String) : Option String :=
  [("root", "/root"), ("daemon", "/usr/sbin"), ("bin", "/bin"), ("sys", "/dev"),
   ("nobody", "/nonexistent"), ("mail", "/var/mail"), ("www-data", "/var/www")].lookup name

section

structure Commands where
  outputOf : Nat → Command → Work (List Char)
  channelOf : Command → Bool → Work String

def characters (text : List Char) (quoted splits : Bool) : List Atom :=
  text.map fun c => .char c quoted splits

def resulting (aim : Aim) (quoted : Bool) (text : List Char) : List Atom :=
  if quoted then .held :: characters text true false
  else .border :: characters text false aim.splits

/-- The folder that a word behind a tilde means. In the rich dialect this may be the present folder, the one before
it, or one that was put aside. -/
def tildeFolder? (shell : Shell) (name : String) : Option String :=
  let value := fun called : String => (shell.binding? called).bind fun binding => binding.value.text?
  let all := shell.directory :: shell.stack
  let numbered := fun digits : List Char => if digits ≠ [] && digits.all Char.isDigit then
      some (Text.valueIn 10 digits) else none
  if name = "" then value "HOME"
  else if !shell.isRich then homeOf? name
  else
    match name.toList with
    | ['+'] => value "PWD"
    | ['-'] => value "OLDPWD"
    | '+' :: digits => (numbered digits).bind fun place => all[place]?
    | '-' :: digits => (numbered digits).bind fun place => all.reverse[place]?
    | digits => ((numbered digits).bind fun place => all[place]?).orElse fun _ => homeOf? name

/-- A path that begins with a tilde, at the front of a text; none if it names no home. -/
def homePath? (home : String → Option String) (assigned last : Bool) (text : List Char) :
    Option (List Char × List Char) :=
  match text with
  | '~' :: rest =>
    let name := rest.takeWhile fun c => c ≠ '/' && !(assigned && c = ':')
    let after := rest.drop name.length
    if after = [] ∧ ¬last then none
    else
      (home (String.ofList name)).map fun path => (path.toList, after)
  | _ => none

def tildes (home : String → Option String) (assigned splits last : Bool) : Bool → List Char → List Atom
  | start, text =>
    match if start then homePath? home assigned last text else none with
    | some (path, after) => characters path true false ++ onward after
    | none => onward text
where
  onward (text : List Char) : List Atom :=
    if assigned then
      let pieces := text.splitOn ':'
      match pieces with
      | [] => []
      | first :: others =>
        characters first false splits ++
          ((others.zip (List.range others.length)).flatMap fun (piece, index) =>
            .char ':' false splits ::
              (match homePath? home false (last || index + 1 < others.length) piece with
                | some (path, after) => characters path true false ++ characters after false splits
                | none => characters piece false splits))
    else characters text false splits

def frameNames (shell : Shell) : List String :=
  let names := shell.calls.map Frame.name
  if names.isEmpty || shell.given then names else names ++ ["main"]

def ownList? (shell : Shell) (name : String) : Option (List String) :=
  match name with
  | "PIPESTATUS" => some (shell.stages.map toString)
  | "FUNCNAME" =>
    if shell.calls.all Frame.isFile then none else some (frameNames shell)
  | "BASH_SOURCE" =>
    some (shell.calls.map Frame.origin ++ if shell.given then [] else [shell.name])
  | "BASH_LINENO" =>
    some (shell.calls.map (fun frame => toString frame.line) ++ if shell.given then [] else ["0"])
  | "GROUPS" => some ["0"]
  | "BASH_VERSINFO" => some ["5", "2", "15", "1", "release", "x86_64-pc-linux-gnu"]
  | "DIRSTACK" => some (shell.directory :: shell.stack)
  | _ => none

def ownVariables : List String :=
  ["BASHPID", "BASH_ALIASES", "BASH_ARGC", "BASH_ARGV", "BASH_ARGV0", "BASH_CMDS", "BASH_COMMAND", "BASH_LINENO",
   "BASH_SOURCE", "BASH_SUBSHELL", "BASH_VERSINFO", "DIRSTACK", "EPOCHREALTIME", "EPOCHSECONDS", "FUNCNAME", "GROUPS",
   "HISTCMD", "LINENO", "PIPESTATUS", "RANDOM", "SECONDS", "SRANDOM"]

def parameterOf (name : String) : Work Found := do
  let shell ← get
  match name with
  | "@" => return .several shell.arguments true
  | "*" => return .several shell.arguments false
  | "#" => return .text (toString shell.arguments.length)
  | "?" => return .text (toString shell.status)
  | "-" => return .text (shownFlags shell.isRich shell.given shell.flags)
  | "$" => return .text (toString shell.number)
  | "!" => return (shell.background.map fun number => Found.text (toString number)).getD .missing
  | "0" => return .text shell.name
  | _ =>
    if isNumeric name then
      match name.toNat? with
      | some 0 => return .text shell.name
      | some place => return ((shell.arguments[place - 1]?).map Found.text).getD .missing
      | none => return .missing
    else if shell.isRich && !shell.ordinary.contains name then
      match name with
      | "RANDOM" =>
        let (number, after) := shell.draw
        set after
        return .text (toString number)
      | "SECONDS" =>
        let passed : Nat := ((← Work.ask .clock) - shell.began) / 1000000
        return .text (toString (shell.lead + passed))
      | "SRANDOM" =>
        let (number, after) := shell.draw
        set after
        return .text (toString (number * 65536 + after.chance % 65536))
      | "EPOCHSECONDS" => return .text (toString (Host.firstSecond + (← Work.ask .clock) / 1000000))
      | "EPOCHREALTIME" =>
        let clock ← Work.ask .clock
        let micros := toString (clock % 1000000)
        return .text (toString (Host.firstSecond + clock / 1000000) ++ "."
          ++ String.ofList (List.replicate (6 - micros.length) '0') ++ micros)
      | "SHELLOPTS" => return .text (":".intercalate (settingsOn shell))
      | "BASHOPTS" => return .text (":".intercalate (shell.options.filter (· ≠ "interactive-comments")).mergeSort)
      | "BASH_COMMAND" => return .text (Writing.commandHead shell.documentOf (shell.interrupted.getD shell.current))
      | "BASHPID" => return .text (toString (← Work.ask .number))
      | "BASH_SUBSHELL" => return .text (toString shell.depth)
      | "_" => return .text shell.lastWord
      | _ =>
        match ownList? shell name with
        | some texts => return (texts.head?.map Found.text).getD .missing
        | none => return ((← Work.value? name).map Found.text).getD .missing
    else return ((← Work.value? name).map Found.text).getD .missing

def reckon (source : List Char) : Work Int64 := do
  let shell ← get
  let member := fun name : String =>
    let plainName := String.ofList (name.toList.takeWhile (· ≠ '['))
    let index := String.ofList ((name.toList.dropWhile (· ≠ '[')).drop 1).dropLast
    (shell.binding? plainName).bind fun binding => (binding.value.members).lookup index
  let isDrawn := fun name : String =>
    shell.isRich && ["RANDOM", "SRANDOM"].contains name && !shell.ordinary.contains name
  let special ← if shell.isRich then ["SECONDS", "BASHPID", "BASH_SUBSHELL", "EPOCHSECONDS"].filterMapM specialValue
    else pure []
  let valueOf := fun (draws : Nat) (name : String) =>
    if name.toList.contains '[' then member name
    else if isDrawn name then some (toString (drawnAt draws shell).1)
    else (special.lookup name).orElse fun _ =>
      if name = "LINENO" && shell.isRich then some (toString shell.line)
      else (shell.binding? name).bind fun binding => binding.value.text?
  let isTable := fun name : String =>
    match (shell.binding? name).map Binding.value with
    | some (.table _) => true
    | _ => false
  match Sum.value { rich := shell.isRich, rest := [], valueOf, isTable, isDrawn } source with
  | .ok { value, changes, draws } =>
    if 0 < draws then set (drawnAt (draws - 1) shell).2
    for (name, new) in changes do
      if name.toList.contains '[' then assignMember name (toString new.toInt)
      else Work.assign name (toString new.toInt)
    return value
  | .error { fault := .overflow, .. } => Work.finish (.signal Signal.arithmetic)
  | .error { fault := .noNumber text, .. } => Work.refuse (Sum.Fault.noNumber text).reason
  | .error failure =>
    if shell.isRich then
      let whole := (failure.source.getD source).dropWhile fun c => c = ' ' || c = '\t'
      let text := if failure.place.isSuffixOf whole then whole else upToPiece failure.place whole
      Work.refuse (String.ofList text ++ ": " ++ failure.fault.richReason
        ++ " (error token is \"" ++ String.ofList failure.place ++ "\")") 1
    else
      Work.refuse ("arithmetic expression: " ++ failure.fault.reason ++ ": \"" ++ String.ofList source ++ "\"")
where
  upToPiece (piece : List Char) : List Char → List Char
    | [] => []
    | c :: rest => if piece.isPrefixOf (c :: rest) then piece else c :: upToPiece piece rest
  drawnAt : Nat → Shell → Nat × Shell
    | 0, shell => shell.draw
    | draws + 1, shell => drawnAt draws shell.draw.2
  specialValue (name : String) : Work (Option (String × String)) := do
    if String.ofList source ≠ "" && containsName name then
      match ← parameterOf name with
      | .text content => return some (name, content)
      | _ => return none
    else return none
  containsName (name : String) : Bool :=
    (List.range source.length).any fun place => name.toList.isPrefixOf (source.drop place)
  assignMember (name value : String) : Work Unit := do
    let shell ← get
    let plainName := String.ofList (name.toList.takeWhile (· ≠ '['))
    let index := String.ofList ((name.toList.dropWhile (· ≠ '[')).drop 1).dropLast
    let old := (shell.binding? plainName).getD { name := shell.target plainName }
    let place := (index.toNat?).getD 0
    let held : Value := match old.value with
      | .table members => .table (members.filter (·.1 ≠ index) ++ [(index, value)])
      | other =>
        let members := match other with
          | .list members => members
          | .single text => [(0, text)]
          | _ => []
        .list (members.filter (·.1 ≠ place) ++ [(place, value)])
    set (shell.setBinding { old with value := held })

def turned (wide : Bool) (casing : Casing) (c : Char) : Char :=
  let lower := if wide then Text.Alphabet.lower else Char.toLower
  let upper := if wide then Text.Alphabet.upper else Char.toUpper
  match casing with
  | .upper => upper c
  | .lower => lower c
  | .turned => if upper c ≠ c then upper c else lower c

def recased (wide : Bool) (casing : Casing) (all : Bool) (fits : Char → Bool) (text : List Char) : List Char :=
  let turn := fun c => if fits c then turned wide casing c else c
  match all, text with
  | true, _ => text.map turn
  | false, first :: rest => turn first :: rest
  | false, [] => []

def filled (fits : Bool) (part : List Char) : List Glyph → List Char
  | [] => []
  | ('&', false) :: rest => (if fits then part else ['&']) ++ filled fits part rest
  | ('\\', false) :: ('&', _) :: rest => (if fits then ['&'] else ['\\', '&']) ++ filled fits part rest
  | (c, _) :: rest => c :: filled fits part rest

def substituted (anchor : Anchor) (pattern : List Pattern.Item) (replacement : List Char → List Char) :
    Nat → List Char → List Char
  | 0, text => text
  | fuel + 1, text =>
    match anchor with
    | .front =>
      match Pattern.front? pattern true text with
      | some (part, after) => replacement part ++ after
      | none => text
    | .back =>
      match Pattern.back? pattern true text with
      | some (before, part) => before ++ replacement part
      | none => text
    | _ =>
      match Pattern.front? pattern true text with
      | some (c :: part, after) =>
        if anchor = .everywhere then
          replacement (c :: part) ++ substituted anchor pattern replacement (fuel - part.length) after
        else replacement (c :: part) ++ after
      | _ =>
        match text with
        | [] => []
        | c :: rest => c :: substituted anchor pattern replacement fuel rest

variable (commands : Commands) (self : Aim → Word → Work (List Atom))

def textOf (word : Word) : Work (List Char) := do return plain (← self {} word)

def patternOf (style : Pattern.Style) (word : Word) : Work (List Pattern.Item) := do
  let shell ← get
  return Pattern.ofGlyphs style (shell.readsPattern (glyphs (← self {} word)))

def joinedValues (aim : Aim) (contents : List String) (apart quoted : Bool) : Work (List Atom) := do
  if aim.splits && (apart || !quoted) then
    let each := contents.map fun content => resulting aim quoted content.toList
    return (each.intersperse [.gap]).flatten
  else
    let joint ← if apart && (← get).isRich then pure [' '] else Work.joint
    return resulting aim quoted (joint.intercalate (contents.map String.toList))

def unsetFault (name message : String) : Work (List Atom) := do
  let shell ← get
  Work.quit (name ++ ": " ++ message) (if !shell.isRich then 2 else if shell.given then 127 else 1)

def valueAtoms (aim : Aim) (name : String) (quoted : Bool) : Found → Work (List Atom)
  | .missing => do
    if (← get).hasFlag 'u' then
      unsetFault name (if (← get).isRich then "unbound variable" else "parameter not set")
    else return if quoted then [.held] else []
  | .text content => return resulting aim quoted content.toList
  | .several contents apart => joinedValues aim contents apart quoted

def Found.map (change : List Char → List Char) : Found → Found
  | .missing => .missing
  | .text content => .text (String.ofList (change content.toList))
  | .several contents apart =>
    .several (contents.map fun content => String.ofList (change content.toList)) apart

/-- Some value is there, and is not empty if that counts. In the plain dialect several values are there even
if they are none. -/
def Found.isThere (rich whenEmpty : Bool) : Found → Bool
  | .missing => false
  | .text content => !whenEmpty || content ≠ ""
  | .several contents _ =>
    if whenEmpty then !contents.isEmpty && contents ≠ [""] else !rich || !contents.isEmpty

def sumOf (word : Word) : Work Int64 := do
  let text ← textOf self word
  Work.abandoning (reckon text)

/-- What a slice is taken from: a text, all arguments behind the name of the script, or the members of a list by their
places. -/
inductive Sliceable
  | text (content : List Char)
  | arguments (all : List String)
  | members (places : List (Nat × String))

def Sliceable.extent : Sliceable → Nat
  | text content => content.length
  | arguments all => all.length
  | members places => places.foldl (fun most item => max most (item.1 + 1)) 0

/-- A part of a value. A size below zero leaves so much out at the end of a text; otherwise it is an error, which
shows the size as it was written. -/
def slice (whole : Sliceable) (start : Word) (size : Option Word) (written : String) : Work Sliceable := do
  let called := (← get).name
  let rich := (← get).isRich
  let named := fun part : Work Int64 => if rich then Work.naming (some called) part else part
  let extent : Int := whole.extent
  let given := (← named (sumOf self start)).toInt
  let first := if given < 0 then given + extent else given
  if first < 0 ∨ extent < first then
    return match whole with
      | .text _ => .text []
      | _ => .arguments []
  let count ← match size with
    | some word => do pure (some (← named (sumOf self word)).toInt)
    | none => pure none
  let wrong : Work Sliceable := Work.abandon (written ++ ": substring expression < 0")
  match whole with
  | .text content =>
    let stop := match count with
      | none => extent
      | some number => if number < 0 then extent + number else min extent (first + number)
    if stop < first then wrong else return .text ((content.take stop.toNat).drop first.toNat)
  | .arguments all =>
    let rest := all.drop first.toNat
    match count with
    | none => return .arguments rest
    | some number => if number < 0 then wrong else return .arguments (rest.take number.toNat)
  | .members places =>
    let rest := places.filter fun item => first ≤ item.1
    match count with
    | none => return .members rest
    | some number => if number < 0 then wrong else return .members (rest.take number.toNat)

def promptEscape (shell : Shell) (c : Char) : List Char :=
  match c with
  | 'n' => ['\n']
  | 't' | 'T' | 'A' | '@' => []
  | 'e' => ['\x1b']
  | 'a' => ['\x07']
  | 'r' => ['\r']
  | '\\' => ['\\', '\\']
  | '$' => ['#']
  | 'u' => "root".toList
  | 'h' | 'H' => (((shell.binding? "HOSTNAME").bind fun binding => binding.value.text?).getD "localhost").toList
  | 's' => (((shell.name.toList.splitOn '/').getLast?).getD [])
  | 'v' => "5.2".toList
  | 'V' => "5.2.15".toList
  | 'w' => shell.directory.toList
  | 'W' => ((shell.directory.toList.splitOn '/').getLast?).getD []
  | 'j' => (toString shell.jobs.length).toList
  | '!' => ['1']
  | '#' => ['0']
  | '[' | ']' => []
  | other => ['\\', other]

def prompted (shell : Shell) : List Char → List Char
  | '\\' :: c :: rest => promptEscape shell c ++ prompted shell rest
  | c :: rest => c :: prompted shell rest
  | [] => []

def unescaped (text : List Char) : List Char :=
  let closed := (text.flatMap fun c => if c = '\'' then ['\\', c] else [c]) ++ ['\'']
  match StateT.run (Words.escapedText Reading.limit []) { text := closed } with
  | .ok (content, _) => content
  | .error _ => text

def transformed (aim : Aim) (name : String) (quoted : Bool) (letter : Char) (found : Found) :
    Work (List Atom) := do
  let shell ← get
  let wide := shell.isWide
  let binding? := shell.binding? name
  let text := fun change : String → String =>
    valueAtoms aim name quoted (found.map fun content => (change (String.ofList content)).toList)
  let one := fun content : String => resulting aim quoted content.toList
  let letters := (binding?.map Binding.letters).getD ""
  let declared := fun (content : String) =>
    (if letters = "" then "" else "declare -" ++ letters ++ " ") ++ name ++ "=" ++ Quoting.reusable wide content
  let whole : Bool := match found with
    | .several .. => binding?.isSome
    | _ => false
  let arguments : Bool := name = "@" || name = "*"
  match letter with
  | 'Q' => text (Quoting.reusable wide)
  | 'U' => valueAtoms aim name quoted (found.map (shell.changing (recased wide .upper true fun _ => true)))
  | 'L' => valueAtoms aim name quoted (found.map (shell.changing (recased wide .lower true fun _ => true)))
  | 'u' => valueAtoms aim name quoted (found.map (shell.changing (recased wide .upper false fun _ => true)))
  | 'E' => valueAtoms aim name quoted (found.map unescaped)
  | 'P' => valueAtoms aim name quoted (found.map (prompted shell))
  | 'A' =>
    match found with
    | .missing => if letters = "" then valueAtoms aim name quoted found else return one ("declare -" ++ letters ++ " " ++ name)
    | .text content => return one (declared content)
    | .several contents _ =>
      if arguments then
        return one (" ".intercalate ("set" :: "--" :: contents.map (Quoting.reusable wide)))
      else
        return one ((binding?.map (Quoting.declared wide)).getD "")
  | 'K' =>
    if whole then
      let pairs := ((binding?.map fun binding => binding.value.members).getD []).map fun (key, value) =>
        Quoting.key wide key ++ " " ++ Quoting.doubled wide value
      let isTable : Bool := match binding?.map Binding.value with
        | some (.table _) => true
        | _ => false
      return one (" ".intercalate pairs ++ if isTable then " " else "")
    else text (Quoting.reusable wide)
  | 'k' =>
    if whole then
      let pairs := ((binding?.map fun binding => binding.value.members).getD []).flatMap fun (key, value) => [key, value]
      match found with
      | .several _ apart => valueAtoms aim name quoted (.several pairs apart)
      | _ => text id
    else text (Quoting.reusable wide)
  | 'a' =>
    match found with
    | .several contents apart =>
      if arguments then return one "" else valueAtoms aim name quoted (.several (contents.map fun _ => letters) apart)
    | _ => return one letters
  | _ => text id

def operate (aim : Aim) (name : String) (quoted : Bool) (found : Found) (again : Work Found) :
    Operation → Work (List Atom)
  | .value => valueAtoms aim name quoted found
  | .size => do
    match found with
    | .missing =>
      if (← get).hasFlag 'u' then valueAtoms aim name quoted found
      else return resulting aim quoted ['0']
    | .text content => return resulting aim quoted (toString ((← get).reads content.toList).length).toList
    | .several contents _ =>
      if (← get).isRich then return resulting aim quoted (toString contents.length).toList
      else
        let whole := (← Work.joint).intercalate (contents.map String.toList)
        return resulting aim quoted (toString whole.length).toList
  | .unknown written => do
    if (← get).isRich then Work.abandon (String.ofList written ++ ": bad substitution")
    else Work.refuse "Bad substitution"
  | .fallback .replace whenEmpty word => do
    if found.isThere (← get).isRich whenEmpty then valueAtoms aim name quoted found
    else self { splits := aim.splits && !quoted, nested := !quoted } word
  | .fallback .whenSet whenEmpty word => do
    if found.isThere (← get).isRich whenEmpty then self { splits := aim.splits && !quoted, nested := !quoted } word
    else return if quoted then [.held] else []
  | .fallback .assign whenEmpty word => do
    if found.isThere (← get).isRich whenEmpty then valueAtoms aim name quoted found
    else
      let text ← textOf self word
      if isName name.toList then
        Work.abandoning (Work.assign name (String.ofList text))
        valueAtoms aim name quoted (← again)
      else if (← get).isRich then
        Work.abandon ("$" ++ name ++ ": cannot assign in this way")
      else Work.refuse (name ++ ": bad variable name")
  | .fallback .refuse whenEmpty word => do
    if found.isThere (← get).isRich whenEmpty then valueAtoms aim name quoted found
    else
      let shell ← get
      let status := if !shell.isRich then 2 else if shell.given then 127 else 1
      if word = [] then
        if (← get).isRich then
          Work.quit (name ++ ": parameter " ++ (if whenEmpty then "null or " else "") ++ "not set") status
        else Work.quit (name ++ ": parameter not set" ++ (if whenEmpty then " or null" else "")) status
      else
        let text ← textOf self word
        Work.quit (name ++ ": " ++ String.ofList text) status
  | .trim trim pattern => do
    match found with
    | .missing => valueAtoms aim name quoted found
    | _ =>
      let shell ← get
      let items ← patternOf self shell.patternStyle pattern
      valueAtoms aim name quoted (found.map (shell.changing (Pattern.trimmed items trim.atEnd trim.longest)))
  | .slice start size written => do
    match found with
    | .missing => valueAtoms aim name quoted found
    | .several contents apart =>
      let shell ← get
      let whole : Sliceable :=
        if name = "@" ∨ name = "*" then .arguments (shell.name :: contents)
        else
          match (shell.binding? name).map Binding.value with
          | some (.list members) => .members (members.mergeSort fun left right => left.1 ≤ right.1)
          | some (.table _) => .members ((List.range contents.length).zip contents |>.map fun item => (item.1 + 1, item.2))
          | _ => .members ((List.range contents.length).zip contents)
      match ← slice self whole start size written with
      | .members places => valueAtoms aim name quoted (.several (places.map Prod.snd) apart)
      | .arguments all => valueAtoms aim name quoted (.several all apart)
      | .text content => return resulting aim quoted content
    | .text content =>
      let shell ← get
      match ← slice self (.text (shell.reads content.toList)) start size written with
      | .text part => valueAtoms aim name quoted (.text (String.ofList (shell.writes part)))
      | _ => return []
  | .substitute anchor pattern replacement => do
    let shell ← get
    let items ← patternOf self { shell.patternStyle with caseless := shell.options.contains "nocasematch" } pattern
    let glyphs := shell.readsPattern (glyphs (← self {} replacement))
    let text := fun part => filled (shell.options.contains "patsub_replacement") part glyphs
    let change := fun content => substituted anchor items text (2 * content.length + 2) content
    valueAtoms aim name quoted (found.map fun content => shell.writes (change (shell.reads content)))
  | .recase casing all pattern => do
    let shell ← get
    let items ← patternOf self shell.patternStyle pattern
    let fits := fun c => pattern = [] || Pattern.fitsAll items [c]
    valueAtoms aim name quoted (found.map (shell.changing (recased shell.isWide casing all fits)))
  | .transform letter => transformed aim name quoted letter found
  | .indirect _ | .indices | .names _ => return []

def memberOf (value : Value) (index : Word) : Work Found := do
  match value with
  | .table members =>
    let key ← textOf self index
    return ((members.lookup (String.ofList key)).map Found.text).getD .missing
  | other =>
    let place ← sumOf self index
    let members := other.members
    let number := if place < 0 then
        ((members.getLast?.bind fun item => item.1.toNat?).getD 0 + 1) - place.toInt.natAbs
      else place.toInt.toNat
    return ((members.lookup (toString number)).map Found.text).getD .missing

def find (name : String) (index : Word) : Work Found := do
  if index = [] then parameterOf name
  else
    let shell ← get
    let value : Value :=
      match if shell.isRich then ownList? shell name else none with
      | some texts => .list ((List.range texts.length).zip texts)
      | none => ((shell.binding? name).map Binding.value).getD .missing
    match Part.wholeList? index with
    | some apart => return .several (value.members.map Prod.snd) apart
    | none => memberOf self value index

def referred? (text : String) : Option (String × Word) :=
  let chars := text.toList
  let name := chars.takeWhile (· ≠ '[')
  let index := ((chars.drop name.length).drop 1).dropLast
  if name.length = chars.length then
    if isName name || isNumeric text || ["@", "*", "#", "?", "-", "$", "!"].contains text then some (text, []) else none
  else if isName name && index ≠ [] && chars.getLast? = some ']' then
    some (String.ofList name, [.text index (!(["@", "*"].contains (String.ofList index)))])
  else none

def parameter (aim : Aim) (name : String) (index : Word) (operation : Operation) (quoted : Bool) :
    Work (List Atom) := do
  match operation with
  | .indices =>
    let value := (((← get).binding? name).map Binding.value).getD .missing
    let apart := (Part.wholeList? index).getD true
    valueAtoms aim name quoted (.several (value.members.map Prod.fst) apart)
  | .names apart =>
    let known := (← get).bindings.map Binding.name
    let all := ownVariables.filter (fun other => !known.contains other) ++ known
    let chosen := (all.filter fun other => name.isPrefixOf other).mergeSort fun left right =>
      (compare left right).isLE
    valueAtoms aim name quoted (.several chosen apart)
  | .indirect inner =>
    let refers : Bool := match (← get).ownBinding? name with
      | some binding => binding.refers
      | none => false
    if refers then return resulting aim quoted ((← get).target name).toList
    match ← find self name index with
    | .text target =>
      match referred? target with
      | some (meant, place) =>
        let again := find self meant place
        operate self aim target quoted (← again) again inner
      | none => Work.abandon (target ++ ": invalid variable name")
    | _ =>
      if name = "!" then valueAtoms aim name quoted .missing
      else Work.abandon (name ++ ": invalid indirect expansion")
  | _ =>
    let again := find self name index
    operate self aim name quoted (← again) again operation

def holdsNothing : List Part → Bool
  | .parameter "@" [] _ true :: _ => true
  | .parameter _ index _ true :: _ => Part.wholeList? index = some true
  | _ => false

def parts (aim : Aim) : Bool → List Part → Work (List Atom)
  | _, [] => return []
  | start, part :: rest => do
    let here ←
      match part with
      | .text [] true => pure (if holdsNothing rest then [] else [.held])
      | .text content true => pure (.held :: characters content true false)
      | .text content false =>
        let shell ← get
        pure (tildes (tildeFolder? shell) aim.assigned (aim.splits && aim.nested) rest.isEmpty start content)
      | .parameter name index operation quoted => parameter self aim name index operation quoted
      | .output line body quoted => do
        let text ← commands.outputOf line body
        pure (resulting aim quoted text)
      | .arithmetic source quoted => do
        let value ← sumOf self source
        pure (resulting aim quoted (toString value.toInt).toList)
      | .channelOf body reads => do
        let name ← commands.channelOf body reads
        pure (characters name.toList true false)
    return here ++ (← parts aim false rest)

end

/-- Expands a word; the first number bounds how deep words stand inside others. -/
def atoms (commands : Commands) : Nat → Aim → Word → Work (List Atom)
  | 0, _, _ => return []
  | depth + 1, aim, word => parts commands (atoms commands depth) aim true word

def depthLimit : Nat := 1000000

def text (commands : Commands) (word : Word) : Work String := do
  return String.ofList (plain (← atoms commands depthLimit {} word))

def assignedText (commands : Commands) (word : Word) : Work String := do
  return String.ofList (plain (← atoms commands depthLimit { assigned := true } word))

def pattern (commands : Commands) (word : Word) : Work (List Glyph) := do
  return glyphs (← atoms commands depthLimit {} word)

def fields (commands : Commands) (word : Word) : Work (List String) := do
  let expanded ← atoms commands depthLimit { splits := true } word
  let found := Fields.split (← Work.separators) expanded
  if (← get).hasFlag 'f' then return found.map fun field => String.ofList (field.map Prod.fst)
  else
    let tree ← Work.ask .tree
    let folder ← Work.ask .folder
    let shell ← get
    let options := shell.options
    let globbing : Fields.Globbing :=
      { style := { shell.patternStyle with caseless := options.contains "nocaseglob" },
        hidden := options.contains "dotglob", vanishes := options.contains "nullglob",
        insists := options.contains "failglob",
        skipsDots := options.contains "globskipdots", deep := options.contains "globstar" }
    match found.mapM (Fields.named globbing tree folder) with
    | .ok names => return names.flatten
    | .error pattern => Work.abandon ("no match: " ++ pattern)

def unbraced (word : Word) : Work (List Word) := do
  if (← get).hasFlag 'B' then return Braces.expand word else return [word]

def eachFields (commands : Commands) : List Word → Work (List String)
  | [] => return []
  | word :: rest => do
    let here ← fields commands word
    return here ++ (← eachFields commands rest)

def allFields (commands : Commands) (words : List Word) : Work (List String) := do
  eachFields commands (← words.mapM unbraced).flatten

end Assay.Script.Expansion
