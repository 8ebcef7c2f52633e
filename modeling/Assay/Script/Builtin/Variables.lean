import Assay.Script.Builtin.Arguments
import Assay.Script.Expansion

/-!
Builtin commands on variables, arguments and options.
-/

namespace Assay.Script.Builtin

open Work (deliver)

def sorted (bindings : List Binding) : List Binding :=
  bindings.mergeSort fun left right => (compare left.name right.name).isLE

def listed (word : String) (bindings : List Binding) : String :=
  let front := if word = "" then "" else word ++ " "
  String.join ((sorted bindings).map fun binding =>
    front ++ binding.name ++
      (match binding.value.text? with
        | some value => "=" ++ singleQuoted value
        | none => "") ++ "\n")

def markAll (word : String) (holds : Binding → Bool) (mark : Binding → Binding)
    (arguments : List String) : Work Nat := do
  let (found, names) ← options "pfn" arguments
  if found.isEmpty && !names.isEmpty then
    for argument in names do
      let (name, value) := assignmentIn argument
      requireName name argument
      match value with
      | some text => Work.assign name text
      | none => pure ()
      modify fun shell => shell.setBinding (mark ((shell.binding? name).getD { name }))
    return 0
  else
    let shell ← get
    let chosen := shell.bindings.filter holds
    deliver (if shell.isRich then String.join ((sorted chosen).map fun binding => Quoting.declared shell.isWide binding ++ "\n") else listed word chosen)

def publish (arguments : List String) : Work Nat := do
  let rich := (← get).isRich
  let hides := rich && arguments.head? = some "-n"
  markAll "export" Binding.exported (fun binding => { binding with exported := !hides })
    (if hides then arguments.drop 1 else arguments)

def protect (arguments : List String) : Work Nat :=
  markAll "readonly" Binding.fixed (fun binding => { binding with fixed := true }) arguments

def localize (arguments : List String) : Work Nat := do
  let shell ← get
  if shell.calls.isEmpty then
    if shell.isRich then Work.refuse "can only be used in a function" 1
    else Work.refuse "not in a function"
  else
    for argument in arguments do
      if argument = "-" then pure ()
      else
        let (name, value) := assignmentIn argument
        requireName name
        Work.keep name
        let current ← get
        if current.isRich then set (current.setBinding { name })
        match value with
        | some text => Work.assign name text
        | none =>
          let after ← get
          if (after.binding? name).isNone then set (after.setBinding { name })
    return 0

def unset (arguments : List String) : Work Nat := do
  let (found, names) ← options (if (← get).isRich then "vfn" else "vf") arguments
  for name in names do
    let shell ← get
    if found.any (·.1 = 'f') then
      set { shell with functions := shell.functions.filter (·.1 ≠ name) }
    else
      let written := String.ofList (name.toList.takeWhile (· ≠ '['))
      let plainName := if found.any (·.1 = 'n') then written else shell.target written
      if !(shell.isRich && found.isEmpty) then requireName plainName name
      if shell.isRich && special.contains plainName then
        set { shell with ordinary := plainName :: shell.ordinary }
      let shell ← get
      match shell.ownBinding? plainName with
      | none =>
        if shell.isRich then set { shell with functions := shell.functions.filter (·.1 ≠ name) }
      | some binding =>
        if binding.fixed then
          if shell.isRich then Work.refuse (name ++ ": cannot unset: readonly variable") 1
          else Work.refuse (name ++ ": is read only")
        else if written = name then set (shell.removeBinding plainName)
        else
          let index := String.ofList ((name.toList.dropWhile (· ≠ '[')).drop 1).dropLast
          match binding.value with
          | .list members =>
            if index = "@" ∨ index = "*" then set (shell.removeBinding plainName)
            else
              let place := (← Expansion.reckon index.toList).toInt
              let size : Nat := members.foldl (fun most member => max most (member.1 + 1)) 0
              let meant := if place < 0 then Int.ofNat size + place else place
              set (shell.setBinding
                { binding with value := .list (members.filter fun member => Int.ofNat member.1 ≠ meant) })
          | .table members =>
            set (shell.setBinding { binding with value := .table (members.filter (·.1 ≠ index)) })
          | _ => if index = "0" then set (shell.removeBinding plainName)
  return 0
where
  special : List String := ["RANDOM", "SRANDOM", "SECONDS", "EPOCHSECONDS", "EPOCHREALTIME", "BASHPID", "LINENO"]

def shift (arguments : List String) : Work Nat := do
  let rich := (← get).isRich
  let given := if rich ∧ arguments.head? = some "--" then arguments.drop 1 else arguments
  let count ← match given with
    | [] => pure 1
    | first :: _ =>
      let scanned := Text.scanInteger true first.toList
      if rich ∧ scanned.found ∧ scanned.rest.all Text.isSpaceByte ∧ scanned.value < 0 then
        Work.refuse (first ++ ": shift count out of range") 1
      else if rich ∧ ¬scanned.found then Work.refuse (first ++ ": numeric argument required") 1
      else number first
  let shell ← get
  if count ≤ shell.arguments.length then
    set { shell with arguments := shell.arguments.drop count }
    return 0
  else if shell.isRich then return 1
  else Work.refuse "can't shift that many"

def setLetter (letter : Char) (on : Bool) : Work Unit := do
  let shell ← get
  let known := optionNames.any (·.2 = letter) || (shell.isRich && richOptionNames.any (·.2 = letter))
  if letter = ' ' ∨ !known then
    if shell.isRich then
      Work.warn ((if on then "-" else "+") ++ String.ofList [letter] ++ ": invalid option")
      if shell.builtin = some "set" then
        Work.put 2 "set: usage: set [-abefhkmnptuvxBCEHPT] [-o option-name] [--] [-] [arg ...]\n"
      Work.setStatus 2
      throw .fails
    else Work.refuse ("Illegal option -" ++ String.ofList [letter])
  else
    let others := shell.flags.filter (· ≠ letter)
    set { shell with flags := if on then letter :: others else others }

def setNamed (name : String) (on : Bool) : Work Unit := do
  let shell ← get
  let names := optionNames ++ (if shell.isRich then richOptionNames else [])
  match names.lookup name with
  | none =>
    if shell.isRich then Work.refuse (name ++ ": invalid option name")
    else Work.refuse ("Illegal option -o " ++ name)
  | some ' ' =>
    let others := shell.options.filter (· ≠ name)
    set { shell with options := if on then name :: others else others }
  | some letter => setLetter letter on

def optionList (shell : Shell) (readable : Bool) : String :=
  if shell.isRich then
    String.join (listedOptions.map fun name =>
      let on := isListedOn shell name
      if readable then "set " ++ (if on then "-o " else "+o ") ++ name ++ "\n"
      else
        name ++ String.ofList (List.replicate (15 - name.length) ' ') ++ "\t" ++ (if on then "on" else "off")
          ++ "\n")
  else
  let line := fun option : String × Char =>
    let on := isOn shell option
    if readable then "set " ++ (if on then "-o " else "+o ") ++ option.1 ++ "\n"
    else
      let gap := String.ofList (List.replicate (16 - option.1.length) ' ')
      option.1 ++ gap ++ (if on then "on" else "off") ++ "\n"
  (if readable then "" else "Current option settings\n") ++ String.join (optionNames.map line)

/-- The letters of one argument. The letter `o` takes the next argument as a name. -/
def setLetters (on : Bool) : List Char → List String → Work (List String)
  | [], rest => return rest
  | 'o' :: more, rest => do
    match rest with
    | [] =>
      let _ ← deliver (optionList (← get) !on)
      setLetters on more []
    | name :: others =>
      setNamed name on
      setLetters on more others
  | letter :: more, rest => do
    setLetter letter on
    setLetters on more rest

/-- Takes options from the front. The result is what is left, and whether it takes the place of the
arguments even if it is empty. -/
def takeOptions : Nat → List String → Work (List String × Bool)
  | 0, arguments => return (arguments, false)
  | _, [] => return ([], false)
  | size + 1, first :: rest => do
    match first.toList with
    | ['-'] =>
      modify fun shell => { shell with flags := shell.flags.filter fun flag => flag ≠ 'x' && flag ≠ 'v' }
      return (rest, false)
    | ['-', '-'] => return (rest, true)
    | '-' :: more => takeOptions size (← setLetters true more rest)
    | '+' :: more => takeOptions size (← setLetters false more rest)
    | _ => return (first :: rest, false)

def configure (arguments : List String) : Work Nat := do
  if arguments.isEmpty then
    let shell ← get
    let all := shell.bindings.filter fun binding => binding.value ≠ .missing
    if shell.isRich then
      let wide := shell.isWide
      let line := fun binding : Binding => binding.name ++ "=" ++
        (match binding.value with
          | .single text => Quoting.plainly wide text
          | value => Quoting.list wide value) ++ "\n"
      let names := (shell.functions.map Prod.fst).mergeSort fun left right => (compare left right).isLE
      deliver (String.join ((sorted all).map line) ++ String.join (names.map (functionText shell)))
    else deliver (listed "" all)
  else
    let (rest, always) ← takeOptions (arguments.length + 1) arguments
    if always || !rest.isEmpty then
      modify fun shell => { shell with arguments := rest, optionIndex := 1, optionPlace := none }
    return 0

/-- A character that was read. One behind a backslash splits nothing; before the first one of a
stretch of others, separators begin anew. -/
structure Read where
  c : Char
  splits : Bool
  begins : Bool

structure Cutting where
  start : Nat := 0
  fields : List String := []
  cut : Option Nat := none
  left : Nat
  afterBlank : Bool := false

def isUsualBlank (c : Char) : Bool := c = ' ' || c = '\t' || c = '\n'

def cutAt (line : List Char) (separators : List Char) (state : Cutting) (place : Nat) (item : Read) :
    Cutting :=
  let state := if item.begins then { state with afterBlank := false } else state
  if !item.splits then state
  else
    let separates := separators.contains item.c
    let blank := separates && isUsualBlank item.c
    if state.left = 0 then
      if blank then { state with cut := some (state.cut.getD place) }
      else
        { state with cut := if separates && state.afterBlank then state.cut else none,
                     afterBlank := false }
    else
      let passing := state.afterBlank
      let start := if passing then (if separates then place + 1 else place) else state.start
      if passing && blank then { state with start }
      else if separates && !passing then
        if place = start && blank then { state with start := place + 1, afterBlank := false }
        else if state.left = 1 then
          { state with start, left := 0, cut := some place, afterBlank := blank }
        else
          { state with
            start := place + 1, left := state.left - 1, afterBlank := blank,
            fields := state.fields ++ [String.ofList ((line.drop start).take (place - start))] }
      else { state with start, afterBlank := false }

def cutLine (separators : List Char) (count : Nat) (line : List Read) : List String :=
  let chars := line.map Read.c
  let final := (line.zip (List.range line.length)).foldl
    (fun state (item, place) => cutAt chars separators state place item) { left := count : Cutting }
  if final.start < chars.length then
    let stop := final.cut.getD chars.length
    final.fields ++ [String.ofList ((chars.take stop).drop final.start)]
  else final.fields

structure LineWish where
  channel : Nat := 0
  raw : Bool := false
  mark : Char := '\n'
  limit : Option Nat := none
  exact : Bool := false
  wide : Bool := false

def LineWish.isReached (wish : LineWish) (taken : List Read) : Bool :=
  match wish.limit with
  | none => false
  | some limit =>
    if !wish.wide then limit ≤ taken.length
    else
      let octets := taken.map Read.c
      let behind := octets.takeWhile fun c => 128 ≤ c.toNat && c.toNat < 192
      let lead := (octets.drop behind.length).headD ' '
      let unfinished : Bool := behind.length + 1 < Text.leadWidth (Octets.byteOf lead)
      limit ≤ Text.Characters.count octets.reverse && !unfinished

/-- Reads characters up to the end of a line. The flags tell that a backslash came before, and that
the next character begins a stretch. -/
def readLine (wish : LineWish) : Nat → Bool → Bool → List Read → Work (List Read × Bool)
  | 0, _, _, taken => return (taken.reverse, false)
  | size + 1, escaped, begins, taken => do
    if !escaped && wish.isReached taken then
      return (taken.reverse, true)
    else
      match ← Work.ask (.read wish.channel 1) with
      | .error _ => return (taken.reverse, false)
      | .ok piece =>
        match Octets.chars piece with
        | [] => return (taken.reverse, false)
        | c :: _ =>
          if c = '\x00' ∧ wish.mark ≠ c then readLine wish size escaped begins taken
          else if escaped then
            if c = '\n' then readLine wish size false true taken
            else readLine wish size false true ({ c, splits := false, begins := false } :: taken)
          else if c = '\\' && !wish.raw then readLine wish size true begins taken
          else if c = wish.mark ∧ !wish.exact then return (taken.reverse, true)
          else readLine wish size false false ({ c, splits := true, begins } :: taken)

/-- Gives the fields to the variables; those without one become empty. -/
def assignFields : List String → List String → Work Unit
  | [], _ => return
  | name :: names, fields => do
    requireName name
    Work.assign name (fields.headD "")
    assignFields names (fields.drop 1)

def read (arguments : List String) : Work Nat := do
  let rich := (← get).isRich
  let (found, given) ← options (if rich then "p:ra:d:n:N:t:su:e" else "p:r") arguments
  let raw := found.any (·.1 = 'r')
  if given.isEmpty && !rich then Work.refuse "arg count"
  else
    let limit := ((found.lookup 'N').orElse fun _ => found.lookup 'n').bind String.toNat?
    let exact := (found.lookup 'N').isSome
    let mark := match found.lookup 'd' with
      | some text => (text.toList.head?).getD '\x00'
      | none => '\n'
    let channel := ((found.lookup 'u').bind String.toNat?).getD 0
    match found.lookup 'u' with
    | none => pure ()
    | some text =>
      if (text.toNat?).isNone then Work.refuse (text ++ ": invalid file descriptor specification") 1
      if ((← Work.ask .channels).lookup channel).isNone then
        Work.refuse (text ++ ": invalid file descriptor: Bad file descriptor") 1
    let wide := (← get).isWide
    let (line, ended) ← readLine { channel, raw, mark, limit, exact, wide } Process.manySteps false true []
    let separators ← Work.separators
    match found.lookup 'a' with
    | some name =>
      let fields := cutLine separators (line.length + 1) line
      modify fun shell => shell.setBinding
        { name, value := .list ((List.range fields.length).zip fields) }
    | none =>
      if given.isEmpty then Work.assign "REPLY" (String.ofList (line.map Read.c))
      else if exact then assignFields given [String.ofList (line.map Read.c)]
      else assignFields given (cutLine separators given.length line)
    return if ended then 0 else 1

/-- The letters that an option text knows, each with whether it takes an argument. -/
def knownLetter? (letter : Char) : List Char → Option Bool
  | [] => none
  | c :: ':' :: rest => if c = letter then some true else knownLetter? letter rest
  | c :: rest => if c = letter then some false else knownLetter? letter rest

def noteOption (target : String) (letter : Char) (index : Nat) (place : Option Nat) : Work Unit := do
  Work.assign "OPTIND" (toString index)
  Work.assign target (String.ofList [letter])
  modify fun shell => { shell with optionIndex := index, optionPlace := place }

/-- Takes the next option out of arguments in the rich dialect. The position stays at an argument as long as some of
its letters have not been looked at. -/
def richGetopts (arguments : List String) : Work Nat := do
  let (_, operands) ← options "" arguments
  match operands with
  | text :: target :: given =>
    let shell ← get
    let all := if given.isEmpty then shell.arguments else given
    let silent := text.toList.head? = some ':'
    let known := if silent then text.toList.drop 1 else text.toList
    let value := fun name => (shell.binding? name).bind fun binding => binding.value.text?
    let quiet := silent || (value "OPTERR").any fun setting => setting ≠ "" && setting.toInt?.getD 0 = 0
    let size := all.length
    let index := shell.optionIndex
    let bindTo := fun (found : String) (status : Nat) => do
      if !isName target.toList then Work.refuse ("\x60" ++ target ++ "': not a valid identifier") 1
      Work.assign target found
      return status
    let forget : Work Unit := modify fun after => after.removeBinding "OPTARG"
    let note := fun (next : Nat) (place : Option Nat) => do
      Work.assign "OPTIND" (toString next)
      modify fun after => { after with optionIndex := next, optionPlace := place }
    let finish := fun (next : Nat) => do
      note next none
      forget
      bindTo "?" 1
    let complain := fun (reason : String) (letter : Char) =>
      if quiet then pure () else Work.put 2 (shell.name ++ ": " ++ reason ++ " -- " ++ String.ofList [letter] ++ "\n")
    let onLetter := fun (letter : Char) (rest : List Char) (place : Nat) => do
      let next := if rest = [] then index + 1 else index
      let onward : Option Nat := if rest = [] then none else some place
      let told := String.ofList [letter]
      match if letter = ':' then none else knownLetter? letter known with
      | none =>
        complain "illegal option" letter
        note next onward
        if silent then Work.assign "OPTARG" told else forget
        bindTo "?" 0
      | some false =>
        note next onward
        forget
        bindTo told 0
      | some true =>
        match rest, all[next - 1]? with
        | [], none =>
          complain "option requires an argument" letter
          note next none
          if silent then Work.assign "OPTARG" told else forget
          bindTo (if silent then ":" else "?") 0
        | [], some following =>
          note (next + 1) none
          Work.assign "OPTARG" following
          bindTo told 0
        | _, _ =>
          note (index + 1) none
          Work.assign "OPTARG" (String.ofList rest)
          bindTo told 0
    if size < index then finish (size + 1)
    else
      let word := (all.getD (index - 1) "").toList
      match shell.optionPlace.map fun place => (word.drop place, place) with
      | some (letter :: rest, place) => onLetter letter rest (place + 1)
      | _ =>
        match word with
        | ['-', '-'] => finish (index + 1)
        | '-' :: letter :: rest => onLetter letter rest 2
        | _ => finish index
  | _ =>
    Work.put 2 "getopts: usage: getopts optstring name [arg ...]\n"
    return 2

def getopts (arguments : List String) : Work Nat := do
  if (← get).isRich then richGetopts arguments
  else
  let (_, operands) ← options "" arguments
  match operands with
  | text :: target :: given =>
    requireName target
    let shell ← get
    let all := if given.isEmpty then shell.arguments else given
    let outside := shell.optionIndex > all.length + 1
    let index := if outside then 1 else shell.optionIndex
    let place := if outside then none else shell.optionPlace
    let current := all.getD (index - 2) ""
    let inside : List Char :=
      match place with
      | some offset =>
        if index ≤ 1 || current.length < offset then [] else current.toList.drop offset
      | none => []
    let silent := text.toList.head? = some ':'
    let finished : Work Nat := do
      noteOption target '?' index none
      return 1
    let onLetter := fun (letter : Char) (rest : List Char) (next : Nat) (word : String) => do
      let here : Option Nat := some (word.length - rest.length)
      match knownLetter? letter text.toList with
      | none =>
        if silent then Work.assign "OPTARG" (String.ofList [letter])
        else
          Work.put 2 ("Illegal option -" ++ String.ofList [letter] ++ "\n")
          modify fun after => after.removeBinding "OPTARG"
        noteOption target '?' next here
      | some false =>
        Work.assign "OPTARG" ""
        noteOption target letter next here
      | some true =>
        if rest ≠ [] then
          Work.assign "OPTARG" (String.ofList rest)
          noteOption target letter next none
        else
          match all[next - 1]? with
          | some value =>
            Work.assign "OPTARG" value
            noteOption target letter (next + 1) none
          | none =>
            if silent then
              Work.assign "OPTARG" (String.ofList [letter])
              noteOption target ':' next here
            else
              Work.put 2 ("No arg for -" ++ String.ofList [letter] ++ " option\n")
              modify fun after => after.removeBinding "OPTARG"
              noteOption target '?' next here
      return 0
    match inside with
    | letter :: rest => onLetter letter rest index current
    | [] =>
      match all[index - 1]? with
      | none => finished
      | some word =>
        match word.toList with
        | ['-', '-'] => do
          noteOption target '?' (index + 1) none
          return 1
        | '-' :: letter :: rest => onLetter letter rest (index + 1) word
        | _ => finished
  | _ => Work.refuse "Usage: getopts optstring var [arg...]"

def shownAlias (rich : Bool) (item : String × String) : String :=
  if rich then "alias " ++ item.1 ++ "=" ++ Quoting.wrapped item.2 else item.1 ++ "=" ++ singleQuoted item.2

def nameTexts (arguments : List String) : Work Nat := do
  let rich := (← get).isRich
  if arguments.isEmpty || (rich && arguments = ["-p"]) then
    let all := (← get).aliases.mergeSort fun left right => (compare left.1 right.1).isLE
    deliver (String.join (all.map fun item => shownAlias rich item ++ "\n"))
  else
    let (text, status) ← arguments.foldlM (fun (text, status) argument => do
      match assignmentIn argument with
      | (name, some value) =>
        modify fun shell => { shell with aliases := (name, value) :: shell.aliases.filter (·.1 ≠ name) }
        return (text, status)
      | (name, none) =>
        match (← get).aliases.lookup name with
        | some value => return (text ++ shownAlias rich (name, value) ++ "\n", status)
        | none =>
          if rich then Work.warn (name ++ ": not found") else Work.put 2 ("alias: " ++ name ++ " not found\n")
          return (text, 1)) ("", 0)
    deliver text status

def unalias (arguments : List String) : Work Nat := do
  let (found, names) ← options "a" arguments
  if !found.isEmpty then
    modify fun shell => { shell with aliases := [] }
    return 0
  else
    names.foldlM (fun status name => do
      let shell ← get
      if (shell.aliases.lookup name).isSome then
        set { shell with aliases := shell.aliases.filter (·.1 ≠ name) }
        return status
      else
        if shell.isRich then Work.warn (name ++ ": not found")
        else Work.put 2 ("unalias: " ++ name ++ " not found\n")
        return 1) 0

end Assay.Script.Builtin
