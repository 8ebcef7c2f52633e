import Assay.Script.Parser
import Assay.Script.Pattern
import Assay.Host.Activity
import Assay.Host.Signal
import Assay.Text.Octets

/-!
The state of a running script: its variables, functions, options, and what it knows of the programs
that it started.
-/

namespace Assay.Script

inductive Value
  | missing
  | single (text : String)
  | list (members : List (Nat × String))
  | table (members : List (String × String))
deriving DecidableEq, Repr

def Value.text? : Value → Option String
  | missing => none
  | single text => some text
  | list members => members.lookup 0
  | table members => members.lookup "0"

structure Binding where
  name : String
  value : Value := .missing
  exported : Bool := false
  fixed : Bool := false
  whole : Bool := false
  casing : Option Bool := none
  refers : Bool := false
deriving Repr

def Binding.letters (binding : Binding) : String :=
  (match binding.value with
    | .list _ => "a"
    | .table _ => "A"
    | _ => "")
  ++ (if binding.whole then "i" else "") ++ (if binding.refers then "n" else "") ++ (if binding.fixed then "r" else "")
  ++ (if binding.exported then "x" else "")
  ++ (match binding.casing with
    | some true => "u"
    | some false => "l"
    | none => "")

def Binding.cased (binding : Binding) (text : String) : String :=
  let changed := fun (change : Char → Char) =>
    String.ofList (Text.Characters.changing (List.map change) text.toList)
  match binding.casing with
  | some true => changed Text.Alphabet.upper
  | some false => changed Text.Alphabet.lower
  | none => text

/-- Where programs were found, as long as they are looked for in the same folders. -/
structure Finds where
  folders : String := ""
  entries : List (String × String × Nat) := []
deriving Repr

namespace Finds

def within (finds : Finds) (folders : String) : List (String × String × Nat) :=
  if finds.folders = folders then finds.entries else []

def noting (finds : Finds) (folders name path : String) (calls : Nat) : Finds :=
  let known := finds.within folders
  let entries :=
    if (known.lookup name).isSome then
      known.map fun entry => if entry.1 = name then (name, path, entry.2.2 + calls) else entry
    else known ++ [(name, path, calls)]
  { folders, entries }

end Finds

structure Routine where
  line : Nat
  body : Command
  origin : String
  traced : Bool := false

structure Frame where
  name : String
  origin : String
  line : Nat
  isFile : Bool := false
deriving Repr

/-- What a script knows of a command beside it: the list that names the channels to it, and their numbers. -/
structure Partner where
  name : String
  channels : List Nat
deriving Repr

namespace Happening

def command : Nat := Signal.highest + 1

def failure : Nat := Signal.highest + 2

def ending : Nat := Signal.highest + 3

def names : List (String × Nat) := [("DEBUG", command), ("ERR", failure), ("RETURN", ending)]

end Happening

structure Shell where
  dialect : Dialect := .plain
  name : String
  arguments : List String := []
  bindings : List Binding := []
  functions : List (String × Routine) := []
  aliases : List (String × String) := []
  finds : Finds := {}
  flags : List Char := []
  options : List String := []
  status : Nat := 0
  outputStatus : Nat := 0
  held : Option Nat := none
  background : Option Nat := none
  jobs : List (Nat × List Nat) := []
  ended : List (Nat × Ending) := []
  /-- The commands that signals and other happenings call; zero stands for the end of the script. -/
  traps : List (Nat × String) := []
  formerTraps : List (Nat × String) := []
  attending : List Nat := []
  pending : List Nat := []
  line : Nat := 0
  shift : Int := 0
  readLine : Nat := 1
  functionLine : Nat := 0
  builtin : Option String := none
  locals : List (List (String × Option Binding)) := []
  calls : List Frame := []
  current : Command := .empty
  interrupted : Option Command := none
  announced : Bool := false
  tested : Bool := false
  statusBefore : Nat := 0
  loops : Nat := 0
  documents : List (Nat × Document) := []
  nextDocument : Nat := 0
  number : Nat := 0
  inside : Bool := false
  /-- The argument that options are read from next, and the position within it. -/
  optionIndex : Nat := 1
  optionPlace : Option Nat := none
  stages : List Nat := []
  chance : Nat := 1
  drawn : Nat := 0
  ordinary : List String := []
  began : Nat := 0
  lead : Int := 0
  lastWord : String := ""
  directory : String := "/"
  stack : List String := []
  limits : List (Char × String) := []
  given : Bool := false
  reading : Option String := none
  level : Nat := 0
  depth : Nat := 0
  passages : List Nat := []
  partners : List (Nat × Partner) := []
  titles : List (Nat × Command) := []
  lamented : List Nat := []
  disabled : List String := []

namespace Shell

def ownBinding? (shell : Shell) (name : String) : Option Binding :=
  shell.bindings.find? (·.name = name)

/-- The name that a name means in the end, if it refers to others. The number bounds how many there are. -/
def meant (shell : Shell) : Nat → String → String
  | 0, name => name
  | steps + 1, name =>
    match shell.ownBinding? name with
    | some { refers := true, value := .single other, .. } => if other = "" then name else meant shell steps other
    | _ => name

def referenceLimit : Nat := 8

def target (shell : Shell) (name : String) : String := shell.meant referenceLimit name

def binding? (shell : Shell) (name : String) : Option Binding := shell.ownBinding? (shell.target name)

def setBinding (shell : Shell) (binding : Binding) : Shell :=
  { shell with
    bindings :=
      if shell.bindings.any fun old => old.name = binding.name then
        shell.bindings.map fun old => if old.name = binding.name then binding else old
      else shell.bindings ++ [binding] }

def removeBinding (shell : Shell) (name : String) : Shell :=
  { shell with bindings := shell.bindings.filter (·.name ≠ name) }

def traces (shell : Shell) (happening : Nat) : Bool :=
  shell.flags.contains (if happening = Happening.failure then 'E' else 'T')

def hasTraps (shell : Shell) : Bool := shell.traps.any fun trap => trap.2 ≠ ""

def hasFlag (shell : Shell) (flag : Char) : Bool := shell.flags.contains flag

def isRich (shell : Shell) : Bool := shell.dialect = .rich

def isWide (shell : Shell) : Bool :=
  shell.isRich && Text.spellsWide fun name => (shell.binding? name).bind fun binding => binding.value.text?

def reads (shell : Shell) (octets : List Char) : List Char :=
  if octets.all (fun c => c.toNat < 128) || !shell.isWide then octets else Text.Characters.gather octets

def readsPattern (shell : Shell) (glyphs : List Glyph) : List Glyph :=
  if glyphs.all (fun glyph => glyph.1.toNat < 128) || !shell.isWide then glyphs
  else Text.Characters.gatherTagged glyphs

def patternStyle (shell : Shell) : Pattern.Style :=
  { grouped := shell.options.contains "extglob", wide := shell.isWide }

def writes (shell : Shell) (chars : List Char) : List Char :=
  if chars.all (fun c => c.toNat < 128) || !shell.isWide then chars else Text.Characters.spread chars

def changing (shell : Shell) (change : List Char → List Char) (octets : List Char) : List Char :=
  shell.writes (change (shell.reads octets))

/-- The next number below 32768 that nobody can foresee. The same number does not come twice in a row. -/
def draw (shell : Shell) : Nat × Shell := go 4 shell.chance
where
  after (number : Nat) : Nat :=
    let start := if number = 0 then 123459876 else number
    let next : Int := 16807 * (start % 127773) - 2836 * (start / 127773)
    (if next < 0 then next + 2147483647 else next).toNat
  go : Nat → Nat → Nat × Shell
    | 0, number => (number % 32768, { shell with chance := number, drawn := number % 32768 })
    | tries + 1, number =>
      let next := after number
      let value := (next / 65536 ^^^ next % 65536) % 32768
      if value = shell.drawn then go tries next else (value, { shell with chance := next, drawn := value })

def documentOf (shell : Shell) (id : Nat) : Document := (shell.documents.lookup id).getD {}

/-- The name in whose line complaints stand: in the rich dialect that of the file at work. -/
def title (shell : Shell) : String :=
  match shell.calls with
  | frame :: _ => if shell.isRich && frame.origin ≠ "" then frame.origin else shell.name
  | [] => shell.name

def origin (shell : Shell) : String :=
  match shell.calls with
  | frame :: _ => frame.origin
  | [] => if shell.given then "environment" else shell.name

end Shell

def optionNames : List (String × Char) :=
  [("errexit", 'e'), ("noglob", 'f'), ("ignoreeof", 'I'), ("interactive", 'i'), ("monitor", 'm'),
   ("noexec", 'n'), ("stdin", 's'), ("xtrace", 'x'), ("verbose", 'v'), ("vi", 'V'), ("emacs", 'E'),
   ("noclobber", 'C'), ("allexport", 'a'), ("notify", 'b'), ("nounset", 'u'), ("privileged", 'p'),
   ("nolog", ' '), ("debug", ' ')]

def richOptionNames : List (String × Char) :=
  [("pipefail", ' '), ("hashall", 'h'), ("keyword", 'k'), ("physical", 'P'), ("posix", ' '),
   ("braceexpand", 'B'), ("errtrace", 'E'), ("functrace", 'T'), ("histexpand", 'H'), ("history", ' '),
   ("nolog", ' '), ("onecmd", 't')]

def isOn (shell : Shell) (option : String × Char) : Bool :=
  if option.2 = ' ' then shell.options.contains option.1 else shell.hasFlag option.2

def listedOptions : List String :=
  ["allexport", "braceexpand", "emacs", "errexit", "errtrace", "functrace", "hashall", "histexpand", "history",
   "ignoreeof", "interactive-comments", "keyword", "monitor", "noclobber", "noexec", "noglob", "nolog", "notify",
   "nounset", "onecmd", "physical", "pipefail", "posix", "privileged", "verbose", "vi", "xtrace"]

def isListedOn (shell : Shell) (name : String) : Bool :=
  let letter := if name = "emacs" ∨ name = "interactive-comments" then ' '
    else ((richOptionNames ++ optionNames).lookup name).getD ' '
  isOn shell (name, letter)

def settingsOn (shell : Shell) : List String := listedOptions.filter (isListedOn shell)

def isOnNamed (shell : Shell) (name : String) : Bool :=
  (richOptionNames ++ optionNames).any fun option => option.1 = name && isOn shell option

end Assay.Script
