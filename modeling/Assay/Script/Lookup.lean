import Assay.Host.Programs
import Assay.Script.Work

/-!
What the name of a command means: a function, a builtin command, or a program.
-/

namespace Assay.Script.Lookup

def specialNames : List String :=
  [".", ":", "break", "continue", "eval", "exec", "exit", "export", "readonly", "return", "set",
   "shift", "times", "trap", "unset"]

def plainNames : List String :=
  ["[", "alias", "bg", "cd", "chdir", "command", "echo", "false", "fg", "getopts", "hash", "jobs", "kill",
   "local", "printf", "pwd", "read", "test", "true", "type", "ulimit", "umask", "unalias", "wait"]

def richNames : List String :=
  ["source", "declare", "typeset", "let", "shopt", "mapfile", "readarray", "builtin", "disown", "enable",
   "help", "dirs", "pushd", "popd", "caller", "compgen", "complete", "compopt", "suspend", "logout", "history", "fc",
   "bind"]

def isSpecial (name : String) : Bool := specialNames.contains name || name = "local"

def isBuiltinIn (dialect : Dialect) (name : String) : Bool :=
  if dialect = .rich then
    (specialNames.contains name || plainNames.contains name || richNames.contains name) && name ≠ "chdir"
  else specialNames.contains name || plainNames.contains name

def isBuiltin (shell : Shell) (name : String) : Bool :=
  isBuiltinIn shell.dialect name && !shell.disabled.contains name

def richBuiltins : List String :=
  ((specialNames ++ plainNames ++ richNames).filter fun name => name ≠ "chdir").mergeSort
    fun left right => (compare left right).isLE

def runnable? (tree : FileTree) (folder : Location) (path : String) : Except FileFault Unit :=
  match tree.locate folder true ⟨Octets.toText path⟩ with
  | .ok (.present _ (.file _ _ true)) => .ok ()
  | .ok (.present ..) => .error .denied
  | .ok (.vacant ..) => .error .notFound
  | .error fault => .error fault

/-- The first of some paths where a program stands. Of the faults the last one counts that is more than
an absence. -/
def firstOf (tree : FileTree) (folder : Location) (fault : FileFault) : List String → Except FileFault String
  | [] => .error fault
  | path :: rest =>
    match runnable? tree folder path with
    | .ok () => .ok path
    | .error .notFound | .error .notAFolder => firstOf tree folder fault rest
    | .error other => firstOf tree folder other rest

def searchPath : Work (Option String) := Work.value? "PATH"

def search (path : Option String) (name : String) : Work (Except FileFault String) := do
  match path with
  | none => return .error .notFound
  | some folders =>
    return firstOf (← Work.ask .tree) (← Work.ask .folder) .notFound (Program.candidates folders name)

/-- The path of the program that a name means. What was found once counts until the search path changes;
`calls` tells how often it is called this time. -/
def remembered (name : String) (calls : Nat) : Work (Except FileFault String) := do
  let folders ← searchPath
  let known := ((← get).finds.within (folders.getD "")).lookup name
  let found ← match known with
    | some (path, _) => pure (.ok path)
    | none => search folders name
  match found with
  | .ok path =>
    modify fun shell => { shell with finds := shell.finds.noting (folders.getD "") name path calls }
    return .ok path
  | .error fault => return .error fault

/-- The programs that were found, in the order in which they are told: by a sum over the name, and of one
sum in the order found, or the last one first. -/
def finds : Work (List (String × String × Nat)) := do
  let shell ← get
  let entries := shell.finds.within ((← searchPath).getD "")
  let place := Work.rank shell.isRich (if shell.isRich then 256 else 31)
  return (if shell.isRich then entries.reverse else entries).mergeSort
    fun left right => place left.1 ≤ place right.1

inductive Meaning
  | keyword
  | standsFor (text : String)
  | function
  | builtin (special : Bool)
  | program (path : String) (known : Bool)
  | nothing

def keywords : List String :=
  ["!", "case", "do", "done", "elif", "else", "esac", "fi", "for", "if", "in", "then", "until", "while",
   "\x7b", "\x7d"]

def meaning (name : String) : Work Meaning := do
  let shell ← get
  if keywords.contains name || (shell.isRich && ["[[", "]]", "coproc", "function", "select", "time"].contains name) then
    return .keyword
  else
    let aliases := if shell.isRich && !shell.options.contains "expand_aliases" then [] else shell.aliases
    match aliases.lookup name with
    | some text => return .standsFor text
    | none =>
      if (shell.functions.lookup name).isSome then return .function
      else if isBuiltin shell name then
        return .builtin (specialNames.contains name && !shell.isRich)
      else if name.toList.contains '/' then
        let tree ← Work.ask .tree
        let folder ← Work.ask .folder
        return if tree.pathExists folder (Work.path name) then .program name false else .nothing
      else
        let known := (shell.finds.within ((← searchPath).getD "")).lookup name
        let found ← if shell.isRich && known.isNone then search (← searchPath) name else remembered name 0
        match found with
        | .ok path => return .program path known.isSome
        | .error _ => return .nothing

def described (name : String) : Meaning → String
  | .keyword => name ++ " is a shell keyword\n"
  | .standsFor text => name ++ " is an alias for " ++ text ++ "\n"
  | .function => name ++ " is a shell function\n"
  | .builtin special => name ++ (if special then " is a special shell builtin\n" else " is a shell builtin\n")
  | .program path known => name ++ (if known then " is a tracked alias for " else " is ") ++ path ++ "\n"
  | .nothing => name ++ ": not found\n"

def shortly (quoted : String → String) (name : String) : Meaning → String
  | .keyword | .function | .builtin _ => name ++ "\n"
  | .standsFor text => "alias " ++ name ++ "=" ++ quoted text ++ "\n"
  | .program path _ => path ++ "\n"
  | .nothing => ""

end Assay.Script.Lookup
