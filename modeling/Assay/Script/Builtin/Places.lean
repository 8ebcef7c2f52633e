import Assay.Calendar.Form
import Assay.Script.Builtin.Arguments
import Assay.Script.Lookup
import Assay.Utility.Escape
import Assay.Utility.Printf
import Assay.Utility.Test

/-!
Builtin commands that look at files and names, or write texts.
-/

namespace Assay.Script.Builtin

open Work (deliver ask)

def logical (base path : String) : String :=
  let start := if "/".isPrefixOf path then [] else (base.toList.splitOn '/').filter (· ≠ [])
  let names := (path.toList.splitOn '/').foldl (fun above name =>
    if name = [] ∨ name = ['.'] then above
    else if name = ['.', '.'] then above.dropLast
    else above ++ [name]) start
  "/" ++ "/".intercalate (names.map String.ofList)

/-- The path of a folder by its names; a folder that is gone has none. -/
def physical (location : Location) : Work String := do
  if FileTree.isLost location then
    if (← get).isRich then
      Work.put 2 (((← get).builtin.getD "chdir") ++ ": error retrieving current directory: getcwd: cannot access parent "
        ++ "directories: No such file or directory\n")
    else Work.warn "getcwd() failed: No such file or directory"
    return ""
  else return Octets.ofText location.path.text

/-- Goes to a folder; the result tells whether it is one. Names alone do not lead on from a folder whose path is not
known. -/
def enter (byNames : Bool) (target : String) : Work Bool := do
  let shell ← get
  let byNames := byNames && (shell.directory ≠ "" || "/".isPrefixOf target)
  let tree ← ask .tree
  let folder ← ask .folder
  let path := if byNames then logical shell.directory target else target
  match tree.target? folder (Work.path path) with
  | some (location, .folder) =>
    ask (.enter location)
    let directory ← if byNames then pure path else physical location
    Work.assign "OLDPWD" shell.directory
    modify fun after => { after with directory }
    Work.assign "PWD" directory
    modify fun after => ["OLDPWD", "PWD"].foldl (fun left name =>
      match left.binding? name with
      | some binding => left.setBinding { binding with exported := true }
      | none => left) after
    return true
  | _ => return false

def enterFault (target : String) : Work FileFault := do
  let tree ← ask .tree
  match tree.locate (← ask .folder) true (Work.path target) with
  | .ok (.present _ .folder) | .ok (.vacant ..) => return .notFound
  | .ok (.present ..) => return .notAFolder
  | .error fault => return fault

/-- Tries folders below which a target may stand. The flag of the result tells that the place is
written. -/
def enterBelow (byNames : Bool) (target : String) : List String → Work (Option Bool)
  | [] => do return if ← enter byNames target then some false else none
  | above :: rest => do
    let place := if above = "" then target else above ++ "/" ++ target
    if ← enter byNames place then return some (above ≠ "") else enterBelow byNames target rest

def changeFolder (arguments : List String) : Work Nat := do
  let (found, operands) ← options (if (← get).isRich then "LPe@" else "LP") arguments
  let byNames : Bool := (found.getLast?.map Prod.fst) ≠ some 'P'
  let rich := (← get).isRich
  if rich && operands.length > 1 then Work.refuse "too many arguments" 1
  else
    let given := operands.head?
    let (target, tells) : String × Bool ←
      match given with
      | none => do pure ((← Work.value? "HOME").getD "", false)
      | some "-" => do pure ((← Work.value? "OLDPWD").getD "", true)
      | some path => pure (path, false)
    if rich && given = none && target = "" then Work.refuse "HOME not set" 1
    else if rich && given = some "-" && target = "" then Work.refuse "OLDPWD not set" 1
    else
      let direct := "/".isPrefixOf target || target = "." || target = ".." || "./".isPrefixOf target
        || "../".isPrefixOf target
      let sought := if target = "" then "." else target
      let below ← if direct then pure [] else do
        pure (match ← Work.value? "CDPATH" with
          | some text => if text = "" then [] else Program.foldersOf text
          | none => [])
      match ← enterBelow byNames sought below with
      | some moved =>
        if moved || tells then deliver ((← get).directory ++ "\n") else return 0
      | none =>
        if rich then
          Work.refuse (target ++ ": " ++ (← enterFault sought).message) 1
        else Work.refuse ("can't cd to " ++ target)

def printFolder (arguments : List String) : Work Nat := do
  let (found, _) ← options "LP" arguments
  if (found.getLast?.map Prod.fst) = some 'P' then deliver ((← physical (← ask .folder)) ++ "\n")
  else deliver ((← get).directory ++ "\n")

def octalText (mask : Nat) : String :=
  let digits := Nat.toDigits 8 mask
  String.ofList (List.replicate (4 - digits.length) '0' ++ digits)

def symbolic (mask : Nat) : String :=
  let group := fun (name : Char) (shift : Nat) =>
    let bits := (511 - mask) / shift % 8
    String.ofList [name, '='] ++ (if bits / 4 % 2 = 1 then "r" else "")
      ++ (if bits / 2 % 2 = 1 then "w" else "") ++ (if bits % 2 = 1 then "x" else "")
  group 'u' 64 ++ "," ++ group 'g' 8 ++ "," ++ group 'o' 1

def maskAfter? (mask : Nat) (clause : List Char) : Option Nat :=
  let who := clause.takeWhile fun c => "ugoa".toList.contains c
  match clause.drop who.length with
  | sign :: letters =>
    if !("+-=".toList.contains sign) || letters.any (fun c => !"rwxX".toList.contains c) then none
    else
      let bits := (if letters.contains 'r' then 4 else 0) + (if letters.contains 'w' then 2 else 0)
        + (if letters.contains 'x' ∨ letters.contains 'X' then 1 else 0)
      let meant := fun c => who = [] || who.contains c || who.contains 'a'
      let part := fun (c : Char) (shift : Nat) =>
        let old := 7 - mask / shift % 8
        let new := if meant c then
            if sign = '+' then old ||| bits else if sign = '-' then old - (old &&& bits) else bits
          else old
        (7 - new) * shift
      some (part 'u' 64 + part 'g' 8 + part 'o' 1)
  | [] => none

def maskFault (clauses : List (List Char)) : String :=
  let bad := (clauses.find? fun clause => (maskAfter? 0 clause).isNone).getD []
  let rest := bad.dropWhile fun c => "ugoa".toList.contains c
  match rest with
  | sign :: letters =>
    if "+-=".toList.contains sign then
      let wrong := (letters.dropWhile fun c => "rwx".toList.contains c).take 1
      "\x60" ++ String.ofList wrong ++ "': invalid symbolic mode character"
    else "\x60" ++ String.ofList [sign] ++ "': invalid symbolic mode operator"
  | [] => "\x60\x00': invalid symbolic mode operator"

def umask (arguments : List String) : Work Nat := do
  let (found, operands) ← options (if (← get).isRich then "Sp" else "S") arguments
  let mask ← ask .mask
  let rich := (← get).isRich
  let become := fun (after : Nat) => do
    ask (.setMask after)
    if rich && found.any (·.1 = 'S') then deliver (symbolic after ++ "\n") else return 0
  let has := fun letter : Char => found.any (·.1 = letter)
  match operands with
  | [] =>
    let front := if has 'p' then "umask " ++ (if has 'S' then "-S " else "") else ""
    deliver (front ++ (if has 'S' then symbolic mask else octalText mask) ++ "\n")
  | text :: _ =>
    if (text.toList.head?.map Char.isDigit).getD false then
      if text.toList.all fun c => '0' ≤ c && c ≤ '7' then
        let asked := Text.valueIn 8 text.toList
        if rich && 511 < asked then Work.refuse (text ++ ": octal number out of range") 1
        else become (asked % 512)
      else if (← get).isRich then Work.refuse (text ++ ": octal number out of range") 1
      else Work.refuse ("Illegal number: " ++ text)
    else
      let clauses := text.toList.splitOn ','
      match clauses.foldlM maskAfter? mask with
      | some after => become after
      | none => if rich then Work.refuse (maskFault clauses) 1 else Work.refuse ("Illegal mode: " ++ text)

def mannerOf (shell : Shell) : Utility.Manner := if shell.isRich then .rich else .plain

def habitOf (shell : Shell) : Utility.Escape.Habit :=
  { manner := mannerOf shell, wide := shell.isWide, always := shell.options.contains "xpg_echo" }

def echo (arguments : List String) : Work Nat := do
  deliver (String.ofList (Utility.Echo.written (habitOf (← get)) arguments))

def printf (arguments : List String) : Work Nat := do
  let shell ← get
  let (found, operands) ← options (if shell.isRich then "v:" else "") arguments
  match operands with
  | [] =>
    if shell.isRich then
      Work.put 2 "printf: usage: printf [-v var] format [arguments]\n"
      return 2
    else Work.refuse "usage: printf format [arg ...]"
  | format :: values =>
    let passed ← ask .clock
    let zone := Calendar.Zone.ofSetting ((← Work.environment).lookup "TZ")
    let dated := fun (form : String) (told : Int) =>
      let seconds : Int := if told = -1 then Host.firstSecond + passed / 1000000
        else if told = -2 then Host.firstSecond + shell.began / 1000000 else told
      (Calendar.Local.ofMoment zone { seconds }).written form
    let printed := Utility.Printf.printed { habit := habitOf shell, dated, arguments := values } format
    for message in printed.complaints do Work.warn message
    let text := String.ofList printed.output.reverse
    match found.lookup 'v' with
    | some name =>
      requireName name
      Work.assign name text
      return printed.status
    | none => deliver text printed.status

def test (name : String) (arguments : List String) : Work Nat := do
  let shell ← get
  let isSet := fun name => (((shell.binding? name).bind fun binding => binding.value.text?)).isSome
  let view : Utility.Test.View := { tree := ← ask .tree, folder := ← ask .folder, ends := ← ask .ends, isSet, isOn := isOnNamed shell }
  let (status, message) := Utility.Test.result (mannerOf (← get)) view name arguments
  match message with
  | some text =>
    Work.warn text
    return status
  | none => return status

def type (arguments : List String) : Work Nat := do
  let (text, status) ← arguments.foldlM (fun (text, status) name => do
    match ← Lookup.meaning name with
    | .nothing => return (text ++ Lookup.described name .nothing, 127)
    | found => return (text ++ Lookup.described name found, status)) ("", 0)
  deliver text status

def richSentence (name : String) : Lookup.Meaning → String
  | .keyword => name ++ " is a shell keyword\n"
  | .function => name ++ " is a function\n"
  | .standsFor text => name ++ " is aliased to \x60" ++ text ++ "'\n"
  | .program path true => name ++ " is hashed (" ++ path ++ ")\n"
  | .program path false => name ++ " is " ++ path ++ "\n"
  | .builtin _ => name ++ " is a shell builtin\n"
  | .nothing => ""

def bodyOf (shell : Shell) (name : String) : Lookup.Meaning → String
  | .function => functionText shell name
  | _ => ""

def kindWord : Lookup.Meaning → String
  | .keyword => "keyword"
  | .function => "function"
  | .standsFor _ => "alias"
  | .program .. => "file"
  | .builtin _ => "builtin"
  | .nothing => ""

def programsNamed (name : String) : Work (List Lookup.Meaning) := do
  let tree ← ask .tree
  let folder ← ask .folder
  let places := Program.candidates ((← Lookup.searchPath).getD "") name
  return (places.filter fun path => (Lookup.runnable? tree folder path).toBool).map (.program · false)

def richType (arguments : List String) : Work Nat := do
  let (found, names) ← options "tapPf" arguments
  let has := fun letter : Char => found.any (·.1 = letter)
  let shell ← get
  let (text, status) ← names.foldlM (fun (text, status) name => do
    let meaning ← Lookup.meaning name
    let first := match meaning with
      | .nothing => []
      | other => [other]
    let programs ← if has 'a' || has 'P' then programsNamed name else pure []
    let meanings :=
      if has 'P' then (match meaning with
        | .program .. => if has 'a' then programs else first
        | _ => if has 'a' then programs else programs.take 1)
      else if has 'a' then (match meaning with
        | .program .. => programs
        | _ => first ++ programs)
      else first
    if meanings.isEmpty then
      if has 't' || has 'p' || has 'P' then return (text, 1)
      else
        Work.put 1 text
        Work.warn (name ++ ": not found")
        return ("", 1)
    else
      let shown := meanings.map fun meant =>
        if has 't' then kindWord meant ++ "\n"
        else if has 'p' || has 'P' then (match meant with
          | .program path _ => path ++ "\n"
          | _ => "")
        else richSentence name meant ++ bodyOf shell name meant
      return (text ++ String.join shown, status)) ("", 0)
  deliver text status

def describe (verbose : Bool) (names : List String) : Work Nat := do
  let rich := (← get).isRich
  let (text, status) ← (if rich then names else names.take 1).foldlM (fun (text, status) name => do
    let meaning ← Lookup.meaning name
    let failed := match meaning with
      | .nothing => if rich then status else 127
      | _ => if rich then 0 else status
    if rich && verbose then
      if kindWord meaning = "" then
        Work.put 1 text
        Work.warn (name ++ ": not found")
        return ("", failed)
      else return (text ++ richSentence name meaning ++ bodyOf (← get) name meaning, failed)
    else
      let shown := if verbose then Lookup.described name meaning else Lookup.shortly singleQuoted name meaning
      return (text ++ shown, failed)) ("", if rich && !names.isEmpty then 1 else 0)
  deliver text status

def hash (arguments : List String) : Work Nat := do
  let rich := (← get).isRich
  let (found, names) ← options (if rich then "dlp:rt" else "r") arguments
  let has := fun letter : Char => found.any (·.1 = letter)
  if has 'r' then
    modify fun shell => { shell with finds := {} }
  if has 'r' && (names.isEmpty || !rich) then return 0
  else if names.isEmpty then
    let entries ← Lookup.finds
    if !rich then deliver (String.join (entries.map fun (_, path, _) => path ++ "\n"))
    else if entries.isEmpty then deliver (if has 'l' then "" else "hash: hash table empty\n")
    else
      let line := fun ((name, path, calls) : String × String × Nat) =>
        if has 'l' then "builtin hash -p " ++ path ++ " " ++ name ++ "\n"
        else
          let count := toString calls
          String.ofList (List.replicate (4 - count.length) ' ') ++ count ++ "\t" ++ path ++ "\n"
      deliver ((if has 'l' then "" else "hits\tcommand\n") ++ String.join (entries.map line))
  else
    let folders := ((← Lookup.searchPath).getD "")
    names.foldlM (fun status name => do
      let shell ← get
      let known := (shell.finds.within folders).lookup name
      let others := { folders, entries := (shell.finds.within folders).filter (·.1 ≠ name) : Finds }
      let missing : Work Nat := do
        Work.warn (name ++ ": not found")
        return 1
      if has 't' then
        match known with
        | some (path, _) =>
          set { shell with finds := shell.finds.noting folders name path 1 }
          deliver ((if names.length > 1 then name ++ "\t" else "") ++ path ++ "\n") status
        | none => missing
      else if has 'd' then
        if known.isNone then missing
        else
          set { shell with finds := others }
          return status
      else if name.toList.contains '/' then return status
      else
        match found.lookup 'p' with
        | some path =>
          set { shell with finds := others.noting folders name path 0 }
          return status
        | none =>
          let meaning ← Lookup.meaning name
          match meaning with
          | .program .. =>
            set { shell with finds := others }
            let _ ← Lookup.remembered name 0
            return status
          | .nothing => missing
          | _ => return status) 0

end Assay.Script.Builtin
