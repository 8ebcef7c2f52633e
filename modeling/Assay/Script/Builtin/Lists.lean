import Assay.Script.Builtin.Variables

/-!
Builtin commands of the rich dialect: lists, tables and sums.
-/

namespace Assay.Script.Builtin

open Work (deliver)

def reform (isTable : Bool) : Value → Value
  | .single text => if isTable then .table [("0", text)] else .list [(0, text)]
  | .list members => if isTable then .table (members.map fun (place, text) => (toString place, text))
    else .list members
  | .table members => .table members
  | .missing => if isTable then .table [] else .list []

def withoutLetters (arguments : List String) : List Char :=
  (arguments.filter fun text => text.toList.head? = some '+').flatMap fun text => text.toList.drop 1

def declare (arguments : List String) : Work Nat := do
  let (found, names) ← options "aAirxlugpfFntI" (arguments.filter fun text => text.toList.head? ≠ some '+')
  let has := fun letter : Char => found.any (·.1 = letter)
  let loses := (withoutLetters arguments).contains
  let shell ← get
  if has 'p' && !(has 'f' || has 'F') then
    let shown := fun binding : Binding => Quoting.declared shell.isWide binding ++ "\n"
    if names.isEmpty then deliver (String.join ((sorted shell.bindings).map shown))
    else
      let (text, status) ← names.foldlM (fun (text, status) name => do
        match shell.ownBinding? name with
        | some binding => return (text ++ shown binding, status)
        | none =>
          Work.put 1 text
          Work.warn (name ++ ": not found")
          return ("", 1)) ("", 0)
      deliver text status
  else if has 'f' && has 't' && !names.isEmpty then
    modify fun after =>
      { after with
        functions := after.functions.map fun (name, routine) =>
          if names.contains name then (name, { routine with traced := !loses 't' }) else (name, routine) }
    return 0
  else if has 'f' || has 'F' then
    let known := if names.isEmpty then (shell.functions.map Prod.fst).mergeSort fun left right => (compare left right).isLE
      else names.filter fun name => (shell.functions.lookup name).isSome
    let shown := if !has 'F' then functionText shell
      else if names.isEmpty then fun name => "declare -f " ++ name ++ "\n"
      else (· ++ "\n")
    deliver (String.join (known.map shown)) (if known.length < names.length then 1 else 0)
  else
    for argument in names do
      let (written, value) := assignmentIn argument
      let name := String.ofList (written.toList.takeWhile fun c => c ≠ '[' && c ≠ '+')
      requireName name argument
      if !shell.calls.isEmpty && !has 'g' then
        if !(((← get).locals.headD []).lookup name).isSome then
          Work.keep name
          modify fun after => after.setBinding { name }
          if name = "OPTIND" then
            modify fun after => { after with optionIndex := 1, optionPlace := none }
      let current ← get
      let meant := if has 'n' then name else current.target name
      let before := (((← get).ownBinding? meant).getD { name := meant })
      let shaped := if has 'A' then reform true before.value else if has 'a' then reform false before.value
        else before.value
      let marked : Binding :=
        { before with
          value := shaped, whole := (before.whole || has 'i') && !loses 'i'
          refers := before.refers && !loses 'n'
          casing := if has 'u' then some true else if has 'l' then some false
            else if loses 'u' || loses 'l' then none else before.casing }
      modify fun after => after.setBinding marked
      match value with
      | some text =>
        let adds := written.toList.getLast? = some '+'
        let old := if adds then (marked.value.text?).getD "" else ""
        let shown ← if marked.whole then do
            let added := if old = "" then text else old ++ "+(" ++ text ++ ")"
            pure (toString (← Expansion.reckon added.toList).toInt)
          else pure (old ++ text)
        Work.assign meant shown
      | none => pure ()
      modify fun after =>
        let binding := (after.ownBinding? meant).getD { name := meant }
        after.setBinding
          { binding with
            fixed := binding.fixed || has 'r', exported := (binding.exported || has 'x') && !loses 'x'
            refers := binding.refers || has 'n' }
    return 0

def «let» (arguments : List String) : Work Nat := do
  if arguments.isEmpty then
    Work.warn "expression expected"
    return 1
  let mut last := 0
  for argument in arguments do
    last := (← Expansion.reckon argument.toList).toInt
  return if last = 0 then 1 else 0

def settings : List String :=
  ["autocd", "assoc_expand_once", "cdable_vars", "cdspell", "checkhash", "checkjobs", "checkwinsize", "cmdhist",
   "compat31", "compat32", "compat40", "compat41", "compat42", "compat43", "compat44", "complete_fullquote",
   "direxpand", "dirspell", "dotglob", "execfail", "expand_aliases", "extdebug", "extglob", "extquote", "failglob",
   "force_fignore", "globasciiranges", "globskipdots", "globstar", "gnu_errfmt", "histappend", "histreedit",
   "histverify", "hostcomplete", "huponexit", "inherit_errexit", "interactive_comments", "lastpipe", "lithist",
   "localvar_inherit", "localvar_unset", "login_shell", "mailwarn", "no_empty_cmd_completion", "nocaseglob",
   "nocasematch", "noexpand_translation", "nullglob", "patsub_replacement", "progcomp", "progcomp_alias",
   "promptvars", "restricted_shell", "shift_verbose", "sourcepath", "syslog_history", "varredir_close", "xpg_echo"]

def settingLine (readable : Bool) (shell : Shell) (name : String) : String :=
  let on := shell.options.contains name
  if readable then "shopt " ++ (if on then "-s " else "-u ") ++ name ++ "\n"
  else
    name ++ String.ofList (List.replicate (15 - name.length) ' ') ++ "\t" ++ (if on then "on" else "off") ++ "\n"

def shopt (arguments : List String) : Work Nat := do
  let (found, names) ← options "suqpo" arguments
  let has := fun letter : Char => found.any (·.1 = letter)
  if has 'o' then
    for name in names do
      if has 's' then setNamed name true else if has 'u' then setNamed name false
    let shell ← get
    return if names.all fun name => (richOptionNames ++ optionNames).any fun option =>
        option.1 = name && isOn shell option then 0 else 1
  else
    let (known, unknown) := names.partition settings.contains
    for name in unknown do Work.warn (name ++ ": invalid shell option name")
    let failed := if unknown.isEmpty then 0 else 1
    if (has 's' || has 'u') && !names.isEmpty then
      modify fun shell =>
        let others := shell.options.filter fun option => !known.contains option
        { shell with options := if has 's' then known ++ others else others }
      return failed
    else
      let shell ← get
      let chosen := if names.isEmpty then
          settings.filter fun name => (!has 's' || shell.options.contains name)
            && (!has 'u' || !shell.options.contains name)
        else known
      let status := if names.isEmpty || known.all shell.options.contains then failed else 1
      if has 'q' then return status
      else deliver (String.join (chosen.map (settingLine (has 'p') shell))) status

def allLines (mark : Char) (text : List Char) : List (List Char) :=
  let pieces := text.splitOn mark
  (pieces.dropLast.map fun piece => piece ++ [mark]) ++ (pieces.getLast?.filter (· ≠ [])).toList

def someLines (channel : Nat) (mark : Char) : Nat → Nat → List Char → Work (List (List Char))
  | 0, _, _ => return []
  | _, 0, _ => return []
  | count + 1, steps + 1, taken => do
    match ← Work.ask (.read channel 1) with
    | .error _ => return if taken = [] then [] else [taken.reverse]
    | .ok piece =>
      match Octets.chars piece with
      | [] => return if taken = [] then [] else [taken.reverse]
      | c :: _ =>
        if c = mark then return (c :: taken).reverse :: (← someLines channel mark count steps [])
        else someLines channel mark (count + 1) steps (c :: taken)

structure LinesWish where
  channel : Nat := 0
  mark : Char := '\n'
  skipped : Nat := 0
  count : Nat := 0
  origin : Nat := 0
  bare : Bool := false
  callback : Option (String × Nat) := none

def putLine (name : String) (place : Nat) (line : List Char) : Work Unit :=
  modify fun shell =>
    let binding := (shell.binding? name).getD { name }
    let members := match binding.value with
      | .list members => members
      | _ => []
    shell.setBinding { binding with value := .list (members.filter (·.1 ≠ place) ++ [(place, String.ofList line)]) }

/-- Lines become members of a list one after the other, and a command is called now and then. -/
def putLines (carryOut : String → Work Unit) (name : String) (wish : LinesWish) : Nat → List (List Char) → Work Unit
  | _, [] => return
  | number, line :: rest => do
    let place := wish.origin + number - 1
    let kept := if wish.bare && line.getLast? = some wish.mark then line.dropLast else line
    match wish.callback with
    | some (text, every) =>
      if number % every = 0 then
        carryOut (text ++ " " ++ toString place ++ " " ++ Quoting.wrapped (String.ofList kept))
    | none => pure ()
    putLine name place kept
    putLines carryOut name wish (number + 1) rest

def mapfile (carryOut : String → Work Unit) (arguments : List String) : Work Nat := do
  let (found, names) ← options "td:n:O:s:u:C:c:" arguments
  let amount := fun (letter : Char) (fault : String) (least : Nat) => do
    match found.lookup letter with
    | none => return 0
    | some text =>
      let scanned := Text.scanInteger true text.toList
      if scanned.found && scanned.rest = [] && (least : Int) ≤ scanned.value then return scanned.value.toNat
      else Work.refuse (text ++ ": invalid " ++ fault) 1
  let channel ← amount 'u' "file descriptor specification" 0
  let count ← amount 'n' "line count" 0
  let origin ← amount 'O' "array origin" 0
  let skipped ← amount 's' "line count" 0
  let every ← amount 'c' "callback quantum" 1
  let mark := match found.lookup 'd' with
    | some delimiter => (delimiter.toList.head?).getD '\x00'
    | none => '\n'
  let name := names.headD "MAPFILE"
  if name = "" then Work.refuse "empty array variable name" 1
  requireName name
  if ((← Work.ask .channels).lookup channel).isNone && channel ≠ 0 then
    Work.refuse (toString channel ++ ": invalid file descriptor: Bad file descriptor") 1
  let shell ← get
  match shell.binding? name with
  | some { fixed := true, .. } => Work.naming none (Work.refuse (name ++ ": readonly variable") 1)
  | some { value := .table _, .. } => Work.refuse (name ++ ": not an indexed array") 1
  | _ => pure ()
  let lines ← if count = 0 then do
      pure (allLines mark (Octets.chars ((← (Process.readAll channel : Process _)).toOption.getD .empty)))
    else someLines channel mark (skipped + count) Process.manySteps []
  let fresh : Bool := (found.lookup 'O').isNone
  modify fun after =>
    let binding := (after.binding? name).getD { name }
    after.setBinding { binding with value := if fresh then .list [] else reform false binding.value }
  let callback := (found.lookup 'C').map fun text => (text, if every = 0 then 5000 else every)
  putLines carryOut name { channel, mark, skipped, count, origin, bare := found.any (·.1 = 't'), callback } 1
    (lines.drop skipped)
  return 0

end Assay.Script.Builtin
