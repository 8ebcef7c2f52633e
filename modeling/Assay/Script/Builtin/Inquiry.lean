import Assay.Script.Builtin.Arguments
import Assay.Script.Builtin.Lists
import Assay.Script.Builtin.Signals
import Assay.Script.Engine
import Assay.Script.Expansion
import Assay.Script.Lookup

/-!
Builtin commands that tell about the script and its commands, about what a word may become, or that are of use at a
terminal alone.
-/

namespace Assay.Script.Builtin

open Work (ask deliver)

def usage (name : String) : Work Nat := do
  Work.put 2 (name ++ ": usage: " ++ name ++ " " ++ (usages.lookup name).getD "" ++ "\n")
  return 2

def caller (arguments : List String) : Work Nat := do
  let (_, operands) ← options "" arguments
  let shell ← get
  let lines := (Expansion.ownList? shell "BASH_LINENO").getD []
  let files := (Expansion.ownList? shell "BASH_SOURCE").getD []
  let names := Expansion.frameNames shell
  match operands with
  | [] =>
    if lines.isEmpty then return 1
    else deliver (lines.headD "NULL" ++ " " ++ files.getD 1 "NULL" ++ "\n")
  | text :: _ =>
    if names.isEmpty && (Text.scanInteger true text.toList).found then return 1
    else
      let scanned := Text.scanInteger true text.toList
      if !scanned.found || scanned.rest ≠ [] then
        Work.warn (text ++ ": invalid number")
        usage "caller"
      else
        let place := scanned.value.toNat
        match lines[place]?, names[place + 1]?, files[place + 1]? with
        | some line, some name, some file => deliver (line ++ " " ++ name ++ " " ++ file ++ "\n")
        | _, _, _ => return 1

def enable (arguments : List String) : Work Nat := do
  let (found, names) ← options "adnpsf:" arguments
  let has := fun letter : Char => found.any (·.1 = letter)
  let shell ← get
  if names.isEmpty || has 'p' then
    let listed := Lookup.richBuiltins.filter fun name => !has 's' || Lookup.specialNames.contains name
    let isOff := shell.disabled.contains
    let chosen := listed.filter fun name => has 'a' || isOff name = has 'n'
    deliver (String.join (chosen.map fun name => "enable " ++ (if isOff name then "-n " else "") ++ name ++ "\n"))
  else
    names.foldlM (fun status name => do
      if Lookup.isBuiltinIn .rich name then
        modify fun after =>
          let others := after.disabled.filter (· ≠ name)
          { after with disabled := if has 'n' then name :: others else others }
        return status
      else
        Work.warn (name ++ ": not a shell builtin")
        return 1) 0

def help (arguments : List String) : Work Nat := do
  let (_, topics) ← options "dms" arguments
  let known := fun topic : String => Lookup.richBuiltins.any fun name => topic.isPrefixOf name
  match topics.filter fun topic => !known topic with
  | [] => return 0
  | missing =>
    let last := missing.getLast?.getD ""
    Work.warn ("no help topics match \x60" ++ last ++ "'.  Try \x60help help' or \x60man -k " ++ last
      ++ "' or \x60info " ++ last ++ "'.")
    return if missing.length = topics.length then 1 else 0

def logout : Work Nat := Work.refuse "not login shell: use \x60exit'" 1

def suspend (arguments : List String) : Work Nat := do
  let _ ← options "f" arguments
  Work.refuse "cannot suspend: no job control" 1

def bind : Work Nat := do
  Work.warn "warning: line editing not enabled"
  return 0

namespace Offers

def kinds : List (Char × String) :=
  [('a', "alias"), ('b', "builtin"), ('c', "command"), ('d', "directory"), ('e', "export"), ('f', "file"),
   ('g', "group"), ('j', "job"), ('k', "keyword"), ('s', "service"), ('u', "user"), ('v', "variable")]

def order : List String :=
  ["alias", "arrayvar", "binding", "builtin", "command", "directory", "disabled", "enabled", "export", "file",
   "function", "group", "helptopic", "hostname", "job", "keyword", "running", "service", "setopt", "shopt",
   "signal", "stopped", "user", "variable"]

def keywords : List String :=
  ["if", "then", "else", "elif", "fi", "case", "esac", "for", "select", "while", "until", "do", "done", "in",
   "function", "time", "\x7b", "\x7d", "!", "[[", "]]", "coproc"]

def sortedNames (names : List String) : List String :=
  names.mergeSort fun left right => (compare left right).isLE

def paths (foldersOnly : Bool) (front : String) : Work (List String) := do
  let tree ← ask .tree
  let folder ← ask .folder
  let above := String.ofList ((front.toList.reverse.dropWhile (· ≠ '/')).reverse)
  let place := if above = "" then some folder else (tree.resolve folder (Work.path above)).toOption
  let names := match place with
    | some location => (tree.children location).map fun item : String × Entry => Octets.ofText item.1
    | none => []
  let hides := fun name : String =>
    name.toList.head? = some '.' && ((front.toList.drop above.length).head? ≠ some '.')
  return sortedNames ((names.filter fun name => !hides name).map (above ++ ·)
    |>.filter fun path => !foldersOnly || tree.isFolder folder (Work.path path))

def programs : Work (List String) := do
  let tree ← ask .tree
  let folder ← ask .folder
  let folders := (((← Lookup.searchPath).getD "").toList.splitOn ':').map String.ofList
  let found := folders.flatMap fun name =>
    match (tree.resolve folder (Work.path name)).toOption with
    | some location => (tree.children location).filterMap fun (entry, _) =>
        let path := name ++ "/" ++ Octets.ofText entry
        if (Lookup.runnable? tree folder path).toBool then some (Octets.ofText entry) else none
    | none => []
  return found

def ofKind (kind front : String) : Work (List String) := do
  let shell ← get
  let bound := fun (holds : Binding → Bool) => sortedNames ((shell.bindings.filter holds).map Binding.name)
  match kind with
  | "alias" => return sortedNames (shell.aliases.map Prod.fst)
  | "arrayvar" => return bound fun binding => match binding.value with
      | .list _ | .table _ => true
      | _ => false
  | "builtin" | "helptopic" => return Lookup.richBuiltins
  | "enabled" => return Lookup.richBuiltins.filter fun name => !shell.disabled.contains name
  | "disabled" => return Lookup.richBuiltins.filter shell.disabled.contains
  | "command" =>
    return sortedNames (shell.aliases.map Prod.fst) ++ keywords ++ sortedNames (shell.functions.map Prod.fst)
      ++ Lookup.richBuiltins ++ (← programs)
  | "directory" => paths true front
  | "file" => paths false front
  | "export" => return bound Binding.exported
  | "function" => return sortedNames (shell.functions.map Prod.fst)
  | "keyword" => return keywords
  | "setopt" => return listedOptions
  | "shopt" => return settings
  | "signal" =>
    return ((List.range Signal.highest).map (· + 1)).filter (fun number => number ≠ 32 && number ≠ 33)
      |>.map fun number => "SIG" ++ Signal.listedName number
  | "user" => return ["root", "daemon", "bin", "sys", "nobody"]
  | "group" => return ["root", "daemon", "bin", "sys", "nogroup"]
  | "variable" => return bound fun _ => true
  | _ => return []

section

variable (engine : Engine)

def wordsIn (list : String) : Work (List String) := do
  let separators ← Work.separators
  let pieces := (list.toList.splitBy fun left right => separators.contains left = separators.contains right).filter
    fun piece => !((piece.head?.map separators.contains).getD true)
  let inner : Inner := Parser.inner (Parser.read Reading.limit)
  let mut found := []
  for piece in pieces do
    match StateT.run (Words.read inner .bare) { text := piece, dialect := .rich } with
    | .ok (word, _) => found := found ++ (← Expansion.allFields engine.commands [word])
    | .error _ => found := found ++ [String.ofList piece]
  return found

def offered (found : List (Char × String)) (front : String) : Work (List String) := do
  let wanted := found.filterMap fun (letter, value) =>
    if letter = 'A' then some value else kinds.lookup letter
  let mut all := []
  for kind in order do
    if wanted.contains kind then all := all ++ (← ofKind kind front)
  match found.lookup 'W' with
  | some list => all := all ++ (← wordsIn engine list)
  | none => pure ()
  let fitting := all.filter front.isPrefixOf
  let shell ← get
  let kept := match found.lookup 'X' with
    | none => fitting
    | some filter =>
      let turned := filter.toList.head? = some '!'
      let text := if turned then filter.toList.drop 1 else filter.toList
      let pattern := Pattern.ofGlyphs shell.patternStyle (shell.readsPattern (text.map fun c => (c, false)))
      fitting.filter fun item => Pattern.fitsAll pattern (shell.reads item.toList) = turned
  return kept.map fun item => (found.lookup 'P').getD "" ++ item ++ (found.lookup 'S').getD ""

def compgen (arguments : List String) : Work Nat := do
  let (found, operands) ← options "abcdefgjksuvo:A:G:W:F:C:X:P:S:" arguments
  match found.find? fun item => item.1 = 'A' && !order.contains item.2 with
  | some (_, name) =>
    Work.warn (name ++ ": invalid action name")
    return 2
  | none =>
    let texts ← offered engine found (operands.headD "")
    if texts.isEmpty then return if found.isEmpty && operands.isEmpty then 0 else 1
    else deliver (String.join (texts.map (· ++ "\n")))

end

end Offers

def compopt : Work Nat := Work.refuse "not currently executing completion function" 1

end Assay.Script.Builtin
