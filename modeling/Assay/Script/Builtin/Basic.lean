import Assay.Script.Builtin.Lists
import Assay.Script.Builtin.Inquiry
import Assay.Script.Builtin.Places
import Assay.Script.Builtin.Processes
import Assay.Script.Builtin.Stack
import Assay.Script.Engine

/-!
All builtin commands by their names, with those that carry out other commands.
-/

namespace Assay.Script.Builtin

open Work (ask)

section

variable (engine : Engine)

def isBinary (rich : Bool) (content : ByteArray) : Bool :=
  let line := (Octets.chars (content.extract 0 (if rich then 80 else 128))).takeWhile (· ≠ '\n')
  if rich then line.contains '\x00' || Program.mark.isPrefixOf line
  else line.any fun c =>
    let code := c.toNat
    (code < 32 && !(9 ≤ code && code ≤ 15) && code ≠ 27) || code = 127

/-- Becomes the first program of some paths that a name means. If that cannot be done, the fault is told and
its status is set. -/
def become (name : String) (places arguments : List String) : Work Unit := do
  let environment ← Work.environment
  let rich := (← get).isRich
  if !(← get).partners.isEmpty then Jobs.leavePartners
  let call := fun (path : String) =>
    { name, arguments, environment := if rich then environment ++ [("_", path)] else environment : Call }
  let rec tryEach (fault : FileFault) : List String → Work FileFault
    | [] => return fault
    | candidate :: rest => do
      match ← (engine.become candidate (call candidate) : Process _) with
      | .notAProgram =>
        let content := ((← ask .tree).read (← ask .folder) (Work.path candidate)).toOption.getD .empty
        if isBinary rich content then return .notAProgram
        else if rich then
          let asBash ← (engine.become "/bin/bash"
            { call candidate with name := "bash", arguments := candidate :: arguments } : Process _)
          return asBash
        else
          let asShell ← (engine.become "/bin/sh"
            { call candidate with name := "/bin/sh", arguments := candidate :: arguments } : Process _)
          return asShell
      | .notFound => tryEach fault rest
      | .notAFolder => tryEach (if rich && name.toList.contains '/' then .notAFolder else fault) rest
      | other => tryEach other rest
  let fault ← tryEach .notFound places
  let absent : Bool := fault = .notFound || (fault = .notAFolder && !rich)
  if rich then
    let direct : Bool := name.toList.contains '/'
    let shell ← get
    let replaces := shell.builtin.isSome
    let shown := match places with
      | [place] => if place = name && replaces then logical shell.directory name else place
      | _ => name
    let reason := if fault = .denied && (← isFolder name) then "Is a directory"
      else if fault = .notAProgram then "cannot execute binary file: " ++ fault.message
      else fault.message
    if absent && !direct && (replaces || shown = name) then
      Work.warn (name ++ (if replaces then ": not found" else ": command not found"))
    else
      modify fun shell => { shell with builtin := none }
      Work.warn (shown ++ ": " ++ reason)
      if replaces && fault = .notAProgram then Work.warn (shown ++ ": Success")
      modify fun after => { after with builtin := shell.builtin }
      if replaces && !absent && fault ≠ .notAProgram then
        Work.warn (shown ++ ": cannot execute: " ++ reason)
  else Work.warn (name ++ ": " ++ (if absent then "not found" else fault.message))
  Work.setStatus (if absent || fault = .tooManyLinks || fault = .nameTooLong then 127 else 126)
where
  isFolder (name : String) : Work Bool := do
    return (← ask .tree).isFolder (← ask .folder) (Work.path name)

def dotFile (name : String) : Work String := do
  if name.toList.contains '/' then return name
  else
    let tree ← ask .tree
    let folder ← ask .folder
    let shell ← get
    let places := Program.candidates ((← Lookup.searchPath).getD "") name
    match places.find? fun place => tree.isFile folder (Work.path place) with
    | some place => return place
    | none =>
      if shell.isRich then return name else Work.refuse (name ++ ": not found")

def dot (arguments : List String) : Work Nat := do
  let (_, operands) ← options "" arguments
  let shell ← get
  match operands with
  | [] =>
    if shell.isRich then
      Work.warn "filename argument required"
      Work.put 2 (shell.builtin.getD "." ++ ": usage: " ++ shell.builtin.getD "."
        ++ " filename [arguments]\n")
      return 2
    else return 0
  | name :: given =>
    let file ← dotFile name
    match (← ask .tree).read (← ask .folder) (Work.path file) with
    | .error fault =>
      if shell.isRich then
        modify fun after => { after with builtin := none }
        Work.refuse (name ++ ": " ++ fault.message) 1
      else Work.refuse ("cannot open " ++ file ++ ": " ++ Redirection.reason fault false)
    | .ok content =>
      if shell.isRich then
        if !given.isEmpty then modify fun after => { after with arguments := given }
      else modify fun after => { after with builtin := some file }
      let calls := (← get).calls
      if shell.isRich then
        let frame : Frame := { name := "source", origin := file, line := shell.line, isFile := true }
        modify fun after => { after with builtin := none, calls := frame :: calls }
      let hidden := shell.traps.filter fun trap =>
        shell.isRich && trap.1 = Happening.command && !shell.traces trap.1
      modify fun after => { after with traps := after.traps.filter fun trap => !hidden.contains trap }
      let result ← Work.outcome (engine.runInside {} none 1 (Octets.ofBytes content) true)
      if shell.isRich then
        modify fun after =>
          { after with
            arguments := if given.isEmpty then after.arguments else shell.arguments, calls, line := shell.line
            traps := (hidden.filter fun trap => (after.traps.lookup trap.1).isNone) ++ after.traps }
        if ((← get).traps.lookup Happening.ending).isSome then
          let ended ← get
          let seen : Nat := match result with
            | .error .returns => ended.statusBefore
            | _ => ended.status
          Work.setStatus seen
          let _ ← engine.happen Happening.ending
          Work.setStatus ended.status
      match result with
      | .ok () | .error .returns => return (← get).status
      | .error jump => throw jump

def eval (manner : Manner) (arguments : List String) : Work Nat := do
  let shell ← get
  let text := " ".intercalate
    (if shell.isRich && arguments.head? = some "--" then arguments.drop 1 else arguments)
  if shell.isRich then
    set { shell with builtin := none }
    engine.runInside { tested := manner.tested } (some "eval") shell.line text false
  else engine.runText { tested := manner.tested } text
  return (← get).status

def calledBack (text : String) : Work Unit := do
  let shell ← get
  set { shell with builtin := none }
  engine.runInside {} none shell.line text false
  modify fun after => { after with builtin := shell.builtin }

/-- Becomes another program; without one, only the redirections stay. -/
def exec (arguments : List String) : Work Nat := do
  let operands ← if (← get).isRich then do pure (← options "cla:" arguments).2 else pure arguments
  match operands with
  | [] => return 0
  | name :: rest =>
    become engine name (Program.candidates ((← Lookup.searchPath).getD "") name) rest
    throw .leaves

def endStatus (usual : Nat) (arguments : List String) : Work Nat := do
  let rich := (← get).isRich
  match if rich && arguments.head? = some "--" then arguments.drop 1 else arguments with
  | [] => return usual
  | text :: _ =>
    if rich then
      let scanned := Text.scanInteger true text.toList
      if scanned.found && scanned.rest.all Text.isSpaceByte then return (scanned.value % 256).toNat
      else
        Work.warn (text ++ ": numeric argument required")
        Work.setStatus 2
        throw .leaves
    else return (← number text)

/-- In the rich dialect no more than one status can be given; else the present lines are left out. -/
def refuseMore (arguments : List String) : Work Unit := do
  let shell ← get
  let operands := if arguments.head? = some "--" then arguments.drop 1 else arguments
  match operands with
  | first :: _ :: _ =>
    let scanned := Text.scanInteger true first.toList
    if shell.isRich && scanned.found && scanned.rest.all Text.isSpaceByte then
      Work.warn "too many arguments"
      Work.setStatus (max 1 shell.status)
      throw .abandons
  | _ => return

def leave (arguments : List String) : Work Nat := do
  let shell ← get
  refuseMore arguments
  Work.setStatus (← endStatus (shell.held.getD shell.status) arguments)
  throw .leaves

def giveBack (arguments : List String) : Work Nat := do
  let shell ← get
  refuseMore arguments
  let status ← endStatus shell.status arguments
  if shell.isRich && shell.calls.isEmpty then
    Work.refuse "can only \x60return' from a function or sourced script" 2
  else
    modify fun after =>
      { after with statusBefore := shell.status, status := if shell.isRich then status % 256 else status }
    throw .returns

def jump (jumpOf : Nat → Jump) (arguments : List String) : Work Nat := do
  let shell ← get
  let levels ← match arguments with
    | [] => pure 1
    | text :: _ => number text
  if levels = 0 then
    if shell.isRich then Work.refuse (arguments.headD "" ++ ": loop count out of range") 1
    else Work.refuse ("Illegal number: " ++ arguments.headD "")
  else if shell.loops = 0 then
    if shell.isRich then
      Work.warn "only meaningful in a \x60for', \x60while', or \x60until' loop"
    return 0
  else
    Work.setStatus 0
    throw (jumpOf (min levels shell.loops))

/-- Variables that keep their values, and variables of a function, in the dialect of the script. -/
def attributed (name : String) (arguments : List String) : Work Nat := do
  let shell ← get
  if name = "readonly" then
    if shell.isRich then
      markAll "readonly" Binding.fixed (fun binding => { binding with fixed := true })
        (arguments.filter (· ≠ "-a"))
    else protect arguments
  else if shell.isRich then
    if shell.calls.isEmpty then Work.refuse "can only be used in a function" 1 else declare arguments
  else localize arguments

def command (arguments : List String) : Work Nat := do
  let (found, names) ← options "pvV" arguments
  match found.getLast? with
  | some ('v', _) => describe false names
  | some ('V', _) => describe true names
  | _ => return 0

def onCourse? (manner : Manner) (name : String) (arguments : List String) : Option (Work Nat) :=
  match name with
  | "." | "source" => some (dot engine arguments)
  | "eval" => some (eval engine manner arguments)
  | "exec" => some (exec engine arguments)
  | "exit" => some (leave arguments)
  | "logout" => some logout
  | "return" => some (giveBack arguments)
  | "break" => some (jump .breaks arguments)
  | "continue" => some (jump .continues arguments)
  | "command" => some (command arguments)
  | "mapfile" | "readarray" => some (mapfile (calledBack engine) arguments)
  | "compgen" => some (Offers.compgen engine arguments)
  | _ => none

def onVariables? (name : String) (arguments : List String) : Option (Work Nat) :=
  match name with
  | "export" => some (publish arguments)
  | "readonly" | "local" => some (attributed name arguments)
  | "set" => some (configure arguments)
  | "shift" => some (shift arguments)
  | "unset" => some (unset arguments)
  | "alias" => some (nameTexts arguments)
  | "unalias" => some (unalias arguments)
  | "getopts" => some (getopts arguments)
  | "read" => some (read arguments)
  | "declare" | "typeset" => some (declare arguments)
  | "let" => some («let» arguments)
  | "shopt" => some (shopt arguments)
  | _ => none

def onProcesses? (name : String) (arguments : List String) : Option (Work Nat) :=
  match name with
  | "times" => some times
  | "trap" => some (trap arguments)
  | "ulimit" => some (ulimit arguments)
  | "jobs" => some (jobs arguments)
  | "fg" | "bg" => some (moveJob arguments)
  | "disown" => some (disown arguments)
  | "caller" => some (caller arguments)
  | "enable" => some (enable arguments)
  | "help" => some (help arguments)
  | "suspend" => some (suspend arguments)
  | "bind" => some bind
  | "compopt" => some compopt
  | "kill" => some (kill arguments)
  | "wait" => some (wait arguments)
  | _ => none

def onPlaces (name : String) (arguments : List String) : Work Nat := do
  match name with
  | "false" => return 1
  | "cd" | "chdir" => changeFolder arguments
  | "pwd" => printFolder arguments
  | "dirs" => dirs arguments
  | "pushd" => pushFolder arguments
  | "popd" => popFolder arguments
  | "umask" => umask arguments
  | "echo" => echo arguments
  | "printf" => printf arguments
  | "test" | "[" => test name arguments
  | "type" => if (← get).isRich then richType arguments else type arguments
  | "hash" => hash arguments
  | _ => return 0

def run (manner : Manner) (name : String) (arguments : List String) : Work Nat :=
  (onCourse? engine manner name arguments).getD <|
    (onVariables? name arguments).getD <|
      (onProcesses? name arguments).getD (onPlaces name arguments)

end

end Assay.Script.Builtin
