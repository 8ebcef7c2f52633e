import Assay.Utility.Copying
import Assay.Utility.Search.Query

/-!
Looking for files: folders are gone through from the top, or from the bottom, and a query is asked for each entry.
-/

namespace Assay.Utility.Search

structure Candidate where
  path : String
  start : String
  depth : Nat
  location : Location
  entry : Entry

namespace Candidate

def name (candidate : Candidate) : String := lastName candidate.path

def traits (tree : FileTree) (candidate : Candidate) : Traits := tree.traitsOf candidate.location candidate.entry

def kind (candidate : Candidate) : Char :=
  match candidate.entry with
  | .file .. => 'f'
  | .folder => 'd'
  | .link _ => 'l'
  | .device (.pipe _) => 'p'
  | .device _ => 'c'

def inner (candidate : Candidate) : String :=
  let rest := candidate.path.toList.drop candidate.start.length
  String.ofList (if rest.head? = some '/' then rest.drop 1 else rest)

end Candidate

def fitsPattern (folded : Bool) (pattern text : String) : Bool := Script.Pattern.fitsPlain pattern text folded

def Trial.holds (tree : FileTree) (candidate : Candidate) : Trial → Bool
  | always answer => answer
  | named folded pattern => fitsPattern folded pattern candidate.name
  | located folded pattern => fitsPattern folded pattern candidate.path
  | fits regex style =>
    let subject : Text.Regex.Subject := { chars := candidate.path.toList.toArray, style }
    match Text.Regex.longestAt subject regex 0 with
    | some found => found.stop = candidate.path.length
    | none => false
  | leadsTo folded pattern =>
    match candidate.entry with
    | .link target => fitsPattern folded pattern (Octets.ofText target.text)
    | _ => false
  | kind letters => letters.contains candidate.kind
  | empty =>
    match candidate.entry with
    | .file _ content _ => content.isEmpty
    | .folder => (tree.listing candidate.location).isEmpty
    | _ => false
  | size measure unit => measure.holds ((entrySize candidate.entry + unit - 1) / unit)
  | names measure => measure.holds (linkCount tree candidate.location candidate.entry)
  | owner measure => measure.holds 0
  | age clock minutes measure =>
    let passed := Int.fdiv (tree.now - timeBy (candidate.traits tree) clock) 1000000000
    if minutes then
      match measure with
      | .exactly wanted => Int.fdiv passed 60 + 1 = wanted
      | .above limit => limit * 60 < passed
      | .below limit => passed < limit * 60
    else
      let days := Int.fdiv passed 86400
      match measure with
      | .exactly wanted => days = wanted
      | .above limit => limit < days
      | .below limit => days < limit
  | later clock limit => limit < timeBy (candidate.traits tree) clock
  | node measure => measure.holds (nodeNumber tree candidate.location candidate.entry)
  | rights (.same wanted) => (candidate.traits tree).mode = wanted
  | rights (.all wanted) => (candidate.traits tree).mode &&& wanted = wanted
  | rights (.some wanted) => wanted = 0 || (candidate.traits tree).mode &&& wanted ≠ 0
  | executable =>
    match candidate.entry with
    | .file .. => Mode.runs (candidate.traits tree).mode
    | _ => true
  | same location => candidate.location = location

/-- A time in the form that a letter asks for; where there are seconds, their parts follow. -/
def timeFact (zone : Calendar.Zone) (time : Int) (letter : Char) : String :=
  let moment := Moment.ofNanos time
  let shown := Calendar.Local.ofMoment zone moment
  let plain := (toString moment.nanos).toList
  let parts := "." ++ String.ofList (List.replicate (9 - plain.length) '0' ++ plain) ++ "0"
  let form := fun text : String => String.ofList (shown.written text true)
  match letter with
  | '@' => toString moment.seconds ++ parts
  | '+' => form "%Y-%m-%d+%H:%M:%S" ++ parts
  | 'S' | 'T' | 'X' => form ("%" ++ String.ofList [letter]) ++ parts
  | ' ' => form "%a %b %e %H:%M:%S" ++ parts ++ form " %Y"
  | _ => form ("%" ++ String.ofList [letter])

def fact (tree : FileTree) (candidate : Candidate) (sign : Char) : Option String :=
  let entry := candidate.entry
  match sign with
  | 'p' => some candidate.path
  | 'P' => some candidate.inner
  | 'f' => some candidate.name
  | 'h' =>
    let above := candidate.path.toList.reverse.dropWhile (· ≠ '/')
    some (if above.isEmpty then "." else String.ofList (above.drop 1).reverse)
  | 'H' => some candidate.start
  | 's' => some (toString (entrySize entry))
  | 'd' => some (toString candidate.depth)
  | 'y' => some (String.ofList [candidate.kind])
  | 'Y' =>
    match entry with
    | .link _ =>
      match tree.locate [] true ⟨Location.path candidate.location |>.text⟩ with
      | .ok (.present place found) =>
        some (String.ofList [{ candidate with location := place, entry := found : Candidate }.kind])
      | .error .tooManyLinks => some "L"
      | _ => some "N"
    | _ => some (String.ofList [candidate.kind])
  | 'm' => some (String.ofList (Mode.digits 1 (candidate.traits tree).mode))
  | 'M' => some (modeText entry (candidate.traits tree).mode)
  | 'l' =>
    match entry with
    | .link target => some (Octets.ofText target.text)
    | _ => some ""
  | 'u' | 'g' => some "root"
  | 'U' | 'G' => some "0"
  | 'n' => some (toString (linkCount tree candidate.location entry))
  | 'k' => some (toString (entryBlocks entry))
  | 'b' => some (toString (2 * entryBlocks entry))
  | 'i' => some (toString (nodeNumber tree candidate.location entry))
  | 'D' => some "65024"
  | 'F' => some "ext4"
  | 'S' => some "1"
  | '%' => some "%"
  | _ => none

def formatted (tree : FileTree) (zone : Calendar.Zone) (candidate : Candidate) : Nat → List Char → List Char
  | 0, _ => []
  | _, [] => []
  | fuel + 1, '%' :: rest =>
    let flags := rest.takeWhile fun c => "-+ #0".toList.contains c
    let digits := (rest.drop flags.length).takeWhile Char.isDigit
    let clocked := fun (sign : Char) => match sign with
      | 'a' | 'A' => some (candidate.traits tree).accessed
      | 'c' | 'C' => some (candidate.traits tree).changed
      | 't' | 'T' => some (candidate.traits tree).modified
      | _ => none
    match rest.drop (flags.length + digits.length) with
    | sign :: after =>
      let (found, after) : Option String × List Char :=
        match clocked sign, after with
        | some time, letter :: more =>
          if sign.isUpper then (some (timeFact zone time letter), more) else (some (timeFact zone time ' '), after)
        | some time, [] => (some (timeFact zone time ' '), [])
        | none, _ => (fact tree candidate sign, after)
      match found with
      | some text =>
        let width := Text.valueIn 10 digits
        let field := if flags.contains '-' then leftAligned width text.toList else rightAligned width text.toList
        field ++ formatted tree zone candidate fuel after
      | none => '%' :: (rest.take (flags.length + digits.length + 1) ++ formatted tree zone candidate fuel after)
    | [] => '%' :: rest
  | fuel + 1, '\\' :: c :: rest =>
    match [('n', '\n'), ('t', '\t'), ('a', '\x07'), ('b', '\x08'), ('f', '\x0c'), ('r', '\r'), ('v', '\x0b'),
        ('\\', '\\')].lookup c with
    | some mark => mark :: formatted tree zone candidate fuel rest
    | none =>
      if c = 'c' then []
      else
        let octal := ((c :: rest).take 3).takeWhile fun d => '0' ≤ d && d ≤ '7'
        if octal.isEmpty then '\\' :: c :: formatted tree zone candidate fuel rest
        else Char.ofNat (Text.valueIn 8 octal % 256) :: formatted tree zone candidate fuel ((c :: rest).drop octal.length)
  | fuel + 1, c :: rest => c :: formatted tree zone candidate fuel rest

structure Progress where
  pruned : Bool := false
  ended : Bool := false
  gathered : List (Nat × List String × List String) := []

abbrev Searching (α : Type) := StateT Progress Utility α

def perform {α : Type} (part : Utility α) : Searching α := part

def runs (become : Become) (enters : Option Location) (command : List String) : Utility Bool := do
  flush
  let called ← name
  let program := command.headD ""
  let environment := (← get).call.environment
  let wide ← spellsWide
  let number ← lift (Process.fork do
    match enters with
    | some place => Process.ask (.enter place)
    | none => pure ()
    let fault ← Program.becomeNamed become environment program (command.drop 1)
    let _ ← Process.write 2 (messageBytes wide (called ++ ": " ++ cited program ++ ": " ++ fault.message ++ "\n"))
    return 1)
  return (← awaitNumber number Process.manySteps) = .code 0

def remove (candidate : Candidate) : Utility Bool := do
  if candidate.path = "." then return true
  let result ← match candidate.entry with
    | .folder => removeFolder candidate.path
    | _ => do
      let base ← folder
      change fun tree => tree.remove base (path candidate.path)
  match result with
  | .ok () => return true
  | .error fault =>
    flush
    complain ("cannot delete " ++ cited candidate.path ++ ": " ++ fault.message)
    return false

def addTo (file : String) (text : List Char) : Utility Unit := do
  flush
  match ← ask (.openFile (path file) .append inputNumber) with
  | .ok () =>
    let _ ← lift (Process.write inputNumber (Octets.bytes text))
  | .error fault => complain (cited file ++ ": " ++ fault.message)

def act (become : Become) (candidate : Candidate) : Action → Searching Bool
  | .print ending => do
    perform (emitText (candidate.path ++ ending))
    return true
  | .format text => do
    perform (do emit (formatted (← tree) (← zone) candidate (text.length + 1) text))
    return true
  | .printTo file ending => do
    perform (addTo file (candidate.path ++ ending).toList)
    return true
  | .formatTo file text => do
    perform (do addTo file (formatted (← tree) (← zone) candidate (text.length + 1) text))
    return true
  | .run command inFolder asks => do
    let named := if inFolder then "./" ++ candidate.name else candidate.path
    let words := command.map fun word => named.intercalate (word.splitOn "\x7b\x7d")
    if asks then
      let agrees ← perform (agreed ("< " ++ command.headD "" ++ " ... " ++ candidate.path ++ " > ? "))
      if !agrees then return false
    let place := if inFolder then
        some (if candidate.depth = 0 then (match candidate.location with
          | [] => []
          | names => names.dropLast) else candidate.location.dropLast)
      else none
    perform (runs become place words)
  | .gather number command => do
    modify fun progress =>
      let others := progress.gathered.filter (·.1 ≠ number)
      let files := ((progress.gathered.lookup number).map Prod.snd).getD []
      { progress with gathered := others ++ [(number, command, files ++ [candidate.path])] }
    return true
  | .remove => perform (remove candidate)
  | .prune => do
    modify fun progress => { progress with pruned := true }
    return true
  | .quit => do
    modify fun progress => { progress with ended := true }
    return true

def decide? (become : Become) (candidate : Candidate) : Query → Searching Bool
  | .trial trial => do return trial.holds (← perform tree) candidate
  | .action action => act become candidate action
  | .negation query => do return !(← decide? become candidate query)
  | .both first second => do
    if !(← decide? become candidate first) then return false
    else if (← get).ended then return true
    else decide? become candidate second
  | .either first second => do
    if ← decide? become candidate first then return true
    else if (← get).ended then return false
    else decide? become candidate second
  | .sequence first second => do
    let _ ← decide? become candidate first
    if (← get).ended then return true else decide? become candidate second

/-- Goes through an entry and what is below it; the number bounds how deep that is. -/
def visit (become : Become) (scope : Scope) (query : Query) : Nat → Candidate → Searching Unit
  | 0, _ => return
  | fuel + 1, candidate => do
    let asks : Searching Unit := do
      if scope.least ≤ candidate.depth then
        let _ ← decide? become candidate query
    modify fun progress => { progress with pruned := false }
    if !scope.innerFirst then asks
    let enters := match candidate.entry with
      | .folder => (scope.most.map fun most => decide (candidate.depth < most)).getD true
      | _ => false
    if enters && !(← get).pruned && !(← get).ended then
      let tree ← perform tree
      match tree.entry? candidate.location with
      | some .folder =>
        for (name, entry) in tree.children candidate.location do
          if !(← get).ended then
            let location := candidate.location ++ [name]
            let file := below candidate.path (Octets.ofText name)
            let target : Location × Entry := match entry with
              | .link way =>
                if scope.followsAll then
                  match tree.locate candidate.location true way with
                  | .ok (.present place found) => if place.isPrefixOf location then (location, entry) else (place, found)
                  | _ => (location, entry)
                else (location, entry)
              | _ => (location, entry)
            visit become scope query fuel
              { candidate with path := file, depth := candidate.depth + 1, location := target.1, entry := target.2 }
      | _ => perform (do
          flush
          complain (cited candidate.path ++ ": " ++ FileFault.notFound.message))
    if scope.innerFirst && !(← get).ended then asks

def isQueryWord (word : String) : Bool :=
  match word.toList with
  | '-' :: _ :: _ => true
  | ['('] | ['!'] => true
  | _ => false

def frontOptions (scope : Scope) : List String → Scope × List String
  | word :: rest =>
    if word = "-P" then frontOptions { scope with followsFirst := false, followsAll := false } rest
    else if word = "-H" then frontOptions { scope with followsFirst := true, followsAll := false } rest
    else if word = "-L" then frontOptions { scope with followsFirst := true, followsAll := true } rest
    else if "-O".isPrefixOf word ∧ word ≠ "-O" then frontOptions scope rest
    else if word = "--" then (scope, rest)
    else (scope, word :: rest)
  | [] => (scope, [])

end Search

open Search

def find : Program := starting fun become => do
  let (scope, words) := frontOptions {} (← arguments)
  let starts := words.takeWhile fun word => !isQueryWord word
  let given := words.drop starts.length
  let ((), reader) ← (readPieces (given.length + 1) given).run { scope }
  let query ← queryOf reader
  if reader.scope.prunes && reader.scope.removes && !reader.scope.toldInnerFirst then
    fail ("The -delete action automatically turns on -depth, but -prune does nothing when -depth is in effect.  "
      ++ "If you want to carry on anyway, just explicitly use the -depth option.")
  let scope := reader.scope
  let mut progress : Progress := {}
  for start in if starts.isEmpty then ["."] else starts do
    if !progress.ended then
      let follows := scope.followsFirst || start.toList.getLast? = some '/'
      let found ← match ← presentAt follows start with
        | .error fault => if follows then presentAt false start else pure (.error fault)
        | found => pure found
      match found with
      | .error fault =>
        flush
        complain (cited start ++ ": " ++ fault.message)
      | .ok (location, entry) =>
        let depth := (← tree).entries.length + 2
        let ((), after) ← (visit become scope query depth { path := start, start, depth := 0, location, entry }).run
          progress
        progress := after
  for (_, command, files) in progress.gathered do
    if !(← runs become none (command ++ files)) then modify fun console => { console with status := 1 }

end Assay.Utility
