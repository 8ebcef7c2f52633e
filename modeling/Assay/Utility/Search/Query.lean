import Assay.Script.Pattern
import Assay.Text.Regex
import Assay.Utility.Listing

/-!
What is looked for among files: tests and actions, joined by operators, as arguments tell them.
-/

namespace Assay.Utility.Search

open Text (Regex)

inductive Measure
  | exactly (wanted : Nat)
  | above (limit : Nat)
  | below (limit : Nat)

def Measure.holds (number : Nat) : Measure → Bool
  | exactly wanted => number = wanted
  | above limit => limit < number
  | below limit => number < limit

inductive Rights
  | same (bits : Nat)
  | all (bits : Nat)
  | some (bits : Nat)

inductive Trial
  | always (answer : Bool)
  | named (folded : Bool) (pattern : String)
  | located (folded : Bool) (pattern : String)
  | fits (regex : Regex) (style : Regex.Style)
  | leadsTo (folded : Bool) (pattern : String)
  | kind (letters : List Char)
  | empty
  | size (measure : Measure) (unit : Nat)
  | names (measure : Measure)
  | owner (measure : Measure)
  | age (clock : Clock) (minutes : Bool) (measure : Measure)
  | later (clock : Clock) (limit : Int)
  | node (measure : Measure)
  | rights (rights : Rights)
  | executable
  | same (location : Location)

inductive Action
  | print (ending : String)
  | format (text : List Char)
  | printTo (file ending : String)
  | formatTo (file : String) (text : List Char)
  | run (command : List String) (inFolder asks : Bool)
  | gather (number : Nat) (command : List String)
  | remove
  | prune
  | quit

inductive Query
  | trial (trial : Trial)
  | action (action : Action)
  | negation (query : Query)
  | both (first second : Query)
  | either (first second : Query)
  | sequence (first second : Query)

structure Scope where
  least : Nat := 0
  most : Option Nat := none
  innerFirst : Bool := false
  followsFirst : Bool := false
  followsAll : Bool := false
  extended? : Option Bool := none
  removes : Bool := false
  toldInnerFirst : Bool := false
  prunes : Bool := false

inductive Piece
  | query (query : Query)
  | opening (text : String)
  | closing
  | negation (text : String)
  | operator (rank : Nat) (text : String)

def Piece.starts : Piece → Bool
  | .query _ | .opening _ | .negation _ => true
  | _ => false

def Piece.finishes : Piece → Bool
  | .query _ | .closing => true
  | _ => false

structure Reader where
  scope : Scope := {}
  pieces : List Piece := []
  acts : Bool := false
  gathers : Nat := 0

abbrev Reading (α : Type) := StateT Reader Utility α

def refuse {α : Type} (message : String) : Reading α := do
  let result : Utility α := fail message
  result

def add (piece : Piece) : Reading Unit :=
  modify fun reader =>
    let before := match reader.pieces with
      | last :: _ => if last.finishes && piece.starts then [Piece.operator 2 "-a"] else []
      | [] => []
    { reader with pieces := piece :: before ++ reader.pieces }

def addTrial (trial : Trial) : Reading Unit := add (.query (.trial trial))

def addAction (action : Action) : Reading Unit := add (.query (.action action))

def addDeed (action : Action) : Reading Unit := do
  modify fun reader => { reader with acts := true }
  addAction action

def setScope (change : Scope → Scope) : Reading Unit :=
  modify fun reader => { reader with scope := change reader.scope }

def measure? (text : String) : Option (Measure × Nat) :=
  let body := fun (rest : List Char) =>
    if rest ≠ [] ∧ rest.all Char.isDigit then some (Text.valueIn 10 rest) else none
  match text.toList with
  | '+' :: rest => (body rest).map fun number => (.above number, number)
  | '-' :: rest => (body rest).map fun number => (.below number, number)
  | rest => (body rest).map fun number => (.exactly number, number)

def measure (key text : String) : Reading Measure := do
  match measure? text with
  | some (found, _) => return found
  | none => refuse ("invalid argument \x60" ++ text ++ "' to \x60" ++ key ++ "'")

def sizeTrial (text : String) : Reading Trial := do
  let letters := text.toList
  match letters.getLast? with
  | none => refuse "invalid null argument to -size"
  | some last =>
    let unit? := [('b', 512), ('c', 1), ('w', 2), ('k', 1024), ('M', 1048576), ('G', 1073741824)].lookup last
    let (number, unit) ← match unit?, last.isDigit with
      | some unit, _ => pure (letters.dropLast, unit)
      | none, true => pure (letters, 512)
      | none, false => refuse ("invalid -size type \x60" ++ String.ofList [last] ++ "'")
    match measure? (String.ofList number) with
    | some (found, _) => return .size found unit
    | none => refuse ("Invalid argument \x60" ++ text ++ "' to -size")

def kinds (text : String) : Nat → List Char → Reading (List Char)
  | 0, _ => return []
  | _, [] => refuse "Arguments to -type should contain at least one letter"
  | fuel + 1, letter :: rest => do
    if !"bcdpflsD".toList.contains letter then
      refuse ("Unknown argument to -type: " ++ String.ofList [letter])
    match rest with
    | [] => return [letter]
    | [','] => refuse "Last file type in list argument to -type is missing, i.e., list is ending on: ','"
    | ',' :: more =>
      let others ← kinds text fuel more
      if others.contains letter then
        refuse ("Duplicate file type '" ++ String.ofList [letter] ++ "' in the argument list to -type.")
      return letter :: others
    | _ => refuse "Must separate multiple arguments to -type using: ','"

def rightsTrial (text : String) : Reading Trial := do
  let bits? := fun (rest : List Char) =>
    (Mode.change? (String.ofList rest)).map fun steps => Mode.changed steps false 0 0
  let found := match text.toList with
    | '-' :: rest => (bits? rest).map Rights.all
    | '/' :: rest => (bits? rest).map Rights.some
    | rest => (bits? rest).map Rights.same
  match found with
  | some (.some 0) =>
    let told : Utility Unit := warn ("warning: you have specified a mode pattern " ++ text ++ " (which is equivalent to "
      ++ "/000). The meaning of -perm /000 has now been changed to be consistent with -perm -000; that is, while it "
      ++ "used to match no files, it now matches all files.")
    told
    return .rights (.some 0)
  | some rights => return .rights rights
  | none => refuse ("invalid mode " ++ cited text)

/-- An expression in which groups and choices have backslashes and other operators have none, in the extended
notation. -/
def withoutSlashes : List Char → List Char
  | '\\' :: c :: rest =>
    if "()|".toList.contains c then c :: withoutSlashes rest else '\\' :: c :: withoutSlashes rest
  | c :: rest => if "()|\x7b\x7d".toList.contains c then '\\' :: c :: withoutSlashes rest else c :: withoutSlashes rest
  | [] => []

def regexTrial (folded : Bool) (text : String) : Reading Trial := do
  let scope := (← get).scope
  let style : Regex.Style := { extended := scope.extended?.getD true, ignoresCase := folded }
  let letters := if scope.extended?.isNone then withoutSlashes text.toList else text.toList
  match Regex.read style letters with
  | .ok (regex, _) => return .fits regex style
  | .error fault => refuse ("failed to compile regular expression '" ++ text ++ "': " ++ fault.message)

def dialects : List (String × Option Bool) :=
  [("findutils-default", none), ("ed", some false), ("emacs", none), ("gnu-awk", some true), ("grep", some false),
   ("posix-awk", some true), ("awk", some true), ("posix-basic", some false), ("posix-egrep", some true),
   ("egrep", some true), ("posix-extended", some true), ("posix-minimal-basic", some false), ("sed", some false)]

/-- The words of a command up to its end, and what follows. The flag tells that files are gathered. -/
def commandOf : List String → List String → Option (List String × Bool × List String)
  | _, [] => none
  | taken, word :: rest =>
    if word = ";" then some (taken.reverse, false, rest)
    else if word = "+" ∧ taken.head? = some "\x7b\x7d" then some (taken.reverse, true, rest)
    else commandOf (word :: taken) rest

def plainWord (word : String) : Reading Bool := do
  let trial := fun (found : Trial) => do
    addTrial found
    return true
  match word with
  | "-true" => trial (.always true)
  | "-false" => trial (.always false)
  | "-empty" => trial .empty
  | "-executable" => trial .executable
  | "-readable" | "-writable" => trial (.always true)
  | "-nouser" | "-nogroup" => trial (.always false)
  | "-print" =>
    addDeed (.print "\n")
    return true
  | "-print0" =>
    addDeed (.print "\x00")
    return true
  | "-delete" =>
    setScope fun scope => { scope with innerFirst := true, removes := true }
    addDeed .remove
    return true
  | "-prune" =>
    setScope fun scope => { scope with prunes := true }
    addAction .prune
    return true
  | "-quit" =>
    addAction .quit
    return true
  | "-depth" | "-d" =>
    setScope fun scope => { scope with innerFirst := true, toldInnerFirst := true }
    trial (.always true)
  | "-follow" =>
    setScope fun scope => { scope with followsFirst := true, followsAll := true }
    trial (.always true)
  | "-xdev" | "-mount" | "-daystart" | "-noleaf" | "-ignore_readdir_race" | "-noignore_readdir_race" | "-warn"
  | "-nowarn" => trial (.always true)
  | "(" =>
    add (.opening word)
    return true
  | ")" =>
    add .closing
    return true
  | "!" | "-not" =>
    add (.negation word)
    return true
  | "-a" | "-and" =>
    add (.operator 2 word)
    return true
  | "-o" | "-or" =>
    add (.operator 1 word)
    return true
  | "," =>
    add (.operator 0 word)
    return true
  | _ => return false

def valuedWords : List String :=
  ["-name", "-iname", "-path", "-ipath", "-wholename", "-iwholename", "-lname", "-ilname", "-regex", "-iregex", "-regextype",
   "-type", "-xtype", "-size", "-links", "-inum", "-uid", "-gid", "-user", "-group", "-mtime", "-ctime", "-atime", "-mmin",
   "-cmin", "-amin", "-newer", "-anewer", "-cnewer", "-perm", "-samefile", "-maxdepth", "-mindepth", "-printf", "-fprint",
   "-fprint0"]

def clockOf : Char → Option Clock
  | 'a' => some .accessed
  | 'c' => some .changed
  | 'm' => some .modified
  | _ => none

/-- A word that compares one time of a file with one of another file, or with one that is told. -/
def newerWord? (word : String) : Option (Clock × Option Clock) :=
  match word.toList with
  | '-' :: 'n' :: 'e' :: 'w' :: 'e' :: 'r' :: first :: [second] =>
    (clockOf first).bind fun clock =>
      if second = 't' then some (clock, none) else (clockOf second).map fun other => (clock, some other)
  | _ => none

def timeBy (traits : Traits) : Clock → Int
  | .modified => traits.modified
  | .accessed => traits.accessed
  | .changed => traits.changed

def timeOfFile (clock : Clock) (file : String) : Reading Int := do
  let result : Utility (Except FileFault (Location × Entry)) := presentAt true file
  let files : Utility FileTree := tree
  match ← result with
  | .ok (location, entry) => return timeBy ((← files).traitsOf location entry) clock
  | .error fault => refuse (cited file ++ ": " ++ fault.message)

def timeTold (text : String) : Reading Int := do
  let result : Utility (Option Moment) := momentOf? text
  match ← result with
  | some moment => return moment.total
  | none => refuse ("I cannot figure out how to interpret " ++ cited text ++ " as a date or time")

def depth (word text : String) : Reading Nat := do
  match natural? text with
  | some number => return number
  | none => refuse ("Expected a positive decimal integer argument to " ++ word ++ ", but got " ++ cited text)

def placeOf (file : String) : Reading Location := do
  let result : Utility (Except FileFault (Location × Entry)) := presentAt true file
  match ← result with
  | .ok (location, _) => return location
  | .error fault => refuse (cited file ++ ": " ++ fault.message)

def formatSigns : List Char := "pPfhHsdyYmMluUgGnikbtTaAcCDFS%".toList

def checkFormat : Nat → List Char → Reading Unit
  | 0, _ => return
  | fuel + 1, '%' :: rest => do
    match rest.dropWhile fun c => c.isDigit || "-+ #0.".toList.contains c with
    | c :: _ =>
      if !formatSigns.contains c then
        let result : Utility Unit := warn ("warning: unrecognized format directive \x60%" ++ String.ofList [c] ++ "'")
        result
    | [] => pure ()
    checkFormat fuel (rest.drop 1)
  | fuel + 1, _ :: rest => checkFormat fuel rest
  | _, [] => return

def makeOutput (file : String) : Reading Unit := do
  let opening : Utility (Except FileFault Unit) := ask (.openFile (path file) .write inputNumber)
  match ← opening with
  | .ok () => pure ()
  | .error fault => refuse (cited file ++ ": " ++ fault.message)

def valuedWord (word value : String) : Reading Unit := do
  match word with
  | "-name" => addTrial (.named false value)
  | "-iname" => addTrial (.named true value)
  | "-path" | "-wholename" => addTrial (.located false value)
  | "-ipath" | "-iwholename" => addTrial (.located true value)
  | "-lname" => addTrial (.leadsTo false value)
  | "-ilname" => addTrial (.leadsTo true value)
  | "-regex" => addTrial (← regexTrial false value)
  | "-iregex" => addTrial (← regexTrial true value)
  | "-regextype" =>
    match dialects.lookup value with
    | some found =>
      setScope fun scope => { scope with extended? := found }
      addTrial (.always true)
    | none =>
      refuse ("Unknown regular expression type " ++ cited value ++ "; valid types are "
        ++ ", ".intercalate (dialects.map fun item => cited item.1) ++ ".")
  | "-type" | "-xtype" => addTrial (.kind (← kinds value (value.length + 1) value.toList))
  | "-size" => addTrial (← sizeTrial value)
  | "-links" => addTrial (.names (← measure word value))
  | "-uid" | "-gid" => addTrial (.owner (← measure word value))
  | "-user" | "-group" =>
    if value = "root" ∨ value = "0" then addTrial (.always true)
    else if (natural? value).isSome then addTrial (.always false)
    else
      let kind := if word = "-user" then "user" else "group"
      refuse (cited value ++ " is not the name of " ++ (if kind = "user" then "a known user" else "an existing group"))
  | "-mtime" => addTrial (.age .modified false (← measure word value))
  | "-ctime" => addTrial (.age .changed false (← measure word value))
  | "-atime" => addTrial (.age .accessed false (← measure word value))
  | "-mmin" => addTrial (.age .modified true (← measure word value))
  | "-cmin" => addTrial (.age .changed true (← measure word value))
  | "-amin" => addTrial (.age .accessed true (← measure word value))
  | "-newer" => addTrial (.later .modified (← timeOfFile .modified value))
  | "-anewer" => addTrial (.later .accessed (← timeOfFile .modified value))
  | "-cnewer" => addTrial (.later .changed (← timeOfFile .modified value))
  | "-inum" => addTrial (.node (← measure word value))
  | "-fprint" | "-fprint0" =>
    makeOutput value
    addDeed (.printTo value (if word = "-fprint" then "\n" else "\x00"))
  | "-samefile" => addTrial (.same (← placeOf value))
  | "-perm" => addTrial (← rightsTrial value)
  | "-maxdepth" =>
    let most ← depth word value
    setScope fun scope => { scope with most := some most }
    addTrial (.always true)
  | "-mindepth" =>
    let least ← depth word value
    setScope fun scope => { scope with least }
    addTrial (.always true)
  | _ =>
    checkFormat (value.length + 1) value.toList
    addDeed (.format value.toList)

/-- Reads the pieces of a query; the number bounds how many words there are. -/
def readPieces : Nat → List String → Reading Unit
  | 0, _ => return
  | _, [] => return
  | fuel + 1, word :: rest => do
    let missing := fun (_ : Unit) => (refuse ("missing argument to \x60" ++ word ++ "'") : Reading Unit)
    if ← plainWord word then readPieces fuel rest
    else if valuedWords.contains word then
      match rest with
      | [] => missing ()
      | value :: more =>
        valuedWord word value
        readPieces fuel more
    else if word = "-fprintf" then
      match rest with
      | file :: form :: more =>
        makeOutput file
        checkFormat (form.length + 1) form.toList
        addDeed (.formatTo file form.toList)
        readPieces fuel more
      | [file] => refuse ("invalid argument \x60" ++ file ++ "' to \x60" ++ word ++ "'")
      | [] => missing ()
    else if let some (clock, other) := newerWord? word then
      match rest with
      | [] => missing ()
      | value :: more =>
        let limit ← match other with
          | some source => timeOfFile source value
          | none => timeTold value
        addTrial (.later clock limit)
        readPieces fuel more
    else if ["-exec", "-execdir", "-ok", "-okdir"].contains word then
      match commandOf [] rest with
      | none => missing ()
      | some ([], _, _) => refuse ("invalid argument \x60;' to \x60" ++ word ++ "'")
      | some (command, gathers, more) =>
        if gathers then
          let front := command.dropLast
          if front.any fun part => 1 < (part.splitOn "\x7b\x7d").length then
            refuse ("Only one instance of \x7b\x7d is supported with " ++ word ++ " ... +")
          let number := (← get).gathers
          modify fun reader => { reader with gathers := number + 1 }
          addDeed (.gather number front)
        else addDeed (.run command (word = "-execdir" || word = "-okdir") (word = "-ok" || word = "-okdir"))
        readPieces fuel more
    else if "-".isPrefixOf word then refuse ("unknown predicate \x60" ++ word ++ "'")
    else refuse ("paths must precede expression: \x60" ++ word ++ "'")

inductive Before
  | nothing
  | opening
  | operator (text : String)

/-- A part of a query, and the pieces after it. Operators of a rank up to the limit are left. `wrapped` tells
that the last closing bracket is not among the arguments. -/
def part (wrapped : Bool) : Nat → Int → Before → List Piece → Utility (Query × List Piece)
  | 0, _, _, _ => fail "invalid expression"
  | fuel + 1, limit, before, pieces => do
    let artificial := fun (rest : List Piece) => wrapped && rest.isEmpty
    let (first, rest) ← match pieces with
      | [] => fail "invalid expression"
      | .query query :: rest => pure (query, rest)
      | .operator _ text :: _ =>
        fail ("invalid expression; you have used a binary operator '" ++ text ++ "' with nothing before it.")
      | .closing :: rest =>
        match before with
        | .operator text =>
          if artificial rest then fail ("expected an expression after '" ++ text ++ "'")
          else fail ("expected an expression between '" ++ text ++ "' and ')'")
        | _ => fail "invalid expression; you have too many ')'"
      | .negation text :: rest => do
        let (query, after) ← part wrapped fuel 3 (.operator text) rest
        pure (.negation query, after)
      | .opening text :: rest =>
        match rest with
        | [] =>
          fail ("invalid expression; expected to find a ')' but didn't see one. Perhaps you need an extra predicate after '"
            ++ text ++ "'")
        | .closing :: more =>
          if artificial more then
            fail ("invalid expression; expected to find a ')' but didn't see one. Perhaps you need an extra predicate after '"
              ++ text ++ "'")
          else fail "invalid expression; empty parentheses are not allowed."
        | _ => do
          let (query, after) ← part wrapped fuel (-1) .opening rest
          match after with
          | .closing :: more => pure (query, more)
          | _ => fail "invalid expression; I was expecting to find a ')' somewhere but did not see one."
    joined fuel limit first rest
where
  joined : Nat → Int → Query → List Piece → Utility (Query × List Piece)
    | 0, _, query, rest => return (query, rest)
    | fuel + 1, limit, query, rest => do
      match rest with
      | .operator rank text :: more =>
        if limit < (rank : Int) then
          let (other, after) ← part wrapped fuel rank (.operator text) more
          let whole : Query := if rank = 2 then .both query other
            else if rank = 1 then .either query other else .sequence query other
          joined fuel limit whole after
        else return (query, rest)
      | _ => return (query, rest)

/-- The whole query; what is found is printed if nothing else is done with it. -/
def queryOf (reader : Reader) : Utility Query := do
  let pieces := reader.pieces.reverse
  let size := 4 * pieces.length + 10
  if pieces.isEmpty then return .action (.print "\n")
  else if reader.acts then
    let (query, rest) ← part false size (-1) .nothing pieces
    if !rest.isEmpty then fail "you have too many ')'"
    return query
  else
    let (query, rest) ← part true size (-1) .nothing (.opening "(" :: pieces ++ [.closing])
    if !rest.isEmpty then fail "you have too many ')'"
    return .both query (.action (.print "\n"))

end Assay.Utility.Search
