import Assay.Script.Evaluation

/-!
The shell as a program: its options, where its script comes from, and its first variables.
-/

namespace Assay.Script.Start

open Work (ask)

structure Wanted where
  given : Bool := false
  rest : List String

def options : Nat → Bool → List String → Work Wanted
  | 0, given, arguments => return { given, rest := arguments }
  | _, given, [] => return { given, rest := [] }
  | size + 1, given, first :: rest => do
    let rich := (← get).isRich
    match first.toList with
    | ['-'] | ['-', '-'] => return { given, rest }
    | '-' :: '-' :: name =>
      if rich then
        if ["posix", "norc", "noprofile", "login", "noediting", "restricted"].contains (String.ofList name) then
          options size given rest
        else
          Work.put 2 ((← get).name ++ ": --" ++ String.ofList name ++ ": invalid option\n")
          Work.setStatus 2
          throw .leaves
      else Work.refuse "Illegal option --"
    | '-' :: letters =>
      let others := letters.filter fun c => c ≠ 'c' && c ≠ 'l' && c ≠ 'i'
      let asked := given || letters.contains 'c'
      options size asked (← Builtin.setLetters true others rest)
    | '+' :: letters => options size given (← Builtin.setLetters false letters rest)
    | _ => return { given, rest := first :: rest }

def bindings (dialect : Dialect) (environment : List (String × String)) (parent : Nat) (directory : String) :
    List Binding :=
  let inherited := (environment.filter fun item => isName item.1.toList).map fun (name, value) =>
    ({ name, value := .single value, exported := true } : Binding)
  let fresh := fun (name value : String) => ({ name, value := .single value } : Binding)
  let path := if (environment.lookup "PATH").isSome then [] else [fresh "PATH" Program.standardPath]
  let own := [fresh "IFS" " \t\n", fresh "OPTIND" "1", fresh "PS4" "+ ", fresh "PPID" (toString parent),
    { fresh "PWD" directory with exported := true }]
  let prompts := if dialect = .rich then
      [fresh "BASH" "/usr/bin/bash", fresh "BASH_VERSION" "5.2.15(1)-release", fresh "HOSTTYPE" "x86_64",
       fresh "OSTYPE" "linux-gnu", fresh "MACHTYPE" "x86_64-pc-linux-gnu", fresh "UID" "0", fresh "EUID" "0", fresh "HOSTNAME" "localhost",
       { fresh "SHLVL" "1" with exported := true }]
    else [fresh "PS1" "# ", fresh "PS2" "> "]
  let mine := own ++ prompts ++ path
  mine ++ inherited.filter fun binding => mine.all fun other => other.name ≠ binding.name

def usualOptions : List String :=
  ["checkwinsize", "cmdhist", "complete_fullquote", "extquote", "force_fignore", "globasciiranges",
   "globskipdots", "hostcomplete", "interactive_comments", "patsub_replacement", "progcomp", "promptvars",
   "sourcepath", "interactive-comments"]

/-- The path by which the working folder is known: the one that was handed over if it still leads there.
A folder that is gone has none. -/
def directoryOf (tree : FileTree) (folder : Location) (handed : Option String) : String :=
  let here := if FileTree.isLost folder then "" else Octets.ofText folder.path.text
  match handed with
  | some path =>
    if "/".isPrefixOf path ∧ (tree.resolve folder ⟨Octets.toText path⟩).toOption = some folder then path
    else here
  | none => here

def tellLost : Work Unit := do
  let shell ← get
  if shell.directory = "" then
    if shell.isRich then
      Work.put 2 ("shell-init: error retrieving current directory: getcwd: cannot access parent directories: "
        ++ "No such file or directory\n")
    else Work.put 2 ("sh: 0: getcwd() failed: No such file or directory\n")

def refuseFile (name : String) (fault : FileFault) : Work Unit := do
  if (← get).isRich then
    Work.put 2 ((← get).name ++ ": " ++ name ++ ": " ++ fault.message ++ "\n")
    Work.setStatus (if fault = .isAFolder then 126 else 127)
    throw .leaves
  else Work.refuse ("cannot open " ++ name ++ ": " ++ Redirection.reason fault false)

/-- Carries out the script of a shell, from its first argument on. -/
def script (engine : Engine) (arguments : List String) : Work Unit := do
  let wanted ← options (arguments.length + 1) false arguments
  let text := fun content : ByteArray => (Octets.ofBytes content).toList.filter (· ≠ '\x00')
  match wanted.given, wanted.rest with
  | true, [] =>
    if (← get).isRich then
      Work.put 2 ((← get).name ++ ": -c: option requires an argument\n")
      Work.setStatus 2
      throw .leaves
    else Work.refuse "-c requires an argument"
  | true, source :: others =>
    modify fun shell =>
      { shell with name := others.headD shell.name, arguments := others.drop 1, given := true }
    modify fun shell => { shell with reading := if shell.isRich then some "-c" else none }
    engine.runText { last := true } source
  | false, others =>
    if others.isEmpty || (← get).hasFlag 's' then
      modify fun shell => { shell with arguments := others }
      Builtin.setLetter 's' true
      let content ← (Process.readAll 0 : Process _)
      engine.runText {} (String.ofList (text (content.toOption.getD .empty))) true
    else
      let file := others.headD ""
      let tree ← ask .tree
      let folder ← ask .folder
      match tree.read folder (Work.path file) with
      | .error fault => refuseFile file fault
      | .ok content =>
        modify fun shell => { shell with name := file, arguments := others.drop 1 }
        engine.runText {} (String.ofList (text content)) true

def shell (dialect : Dialect) : Program := fun become call => do
  let number ← Process.ask .number
  let parent ← Process.ask .parent
  let folder ← Process.folder
  let tree ← Process.tree
  let began ← Process.ask .clock
  let directory := directoryOf tree folder (call.environment.lookup "PWD")
  let engine := Evaluation.engine become
  let start : Shell :=
    { dialect, name := call.name, number, directory, began, chance := number * 7919 + began + 1,
      flags := if dialect = .rich then ['h', 'B'] else [],
      options := if dialect = .rich then usualOptions else [],
      bindings := bindings dialect call.environment parent directory }
  let work : Work Unit := do
    tellLost
    let _ ← Work.outcome (script engine call.arguments)
    engine.conclude
  fun next => work start fun _ after => next after.status

end Assay.Script.Start
