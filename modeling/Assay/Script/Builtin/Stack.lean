import Assay.Script.Builtin.Places

/-!
Builtin commands on the stack of folders: the working folder stands on top of those that were put aside.
-/

namespace Assay.Script.Builtin

open Work (deliver)

def politely (home path : String) : String :=
  if home = "" || home = "/" then path
  else if path = home then "~"
  else if (home ++ "/").isPrefixOf path then "~" ++ String.ofList (path.toList.drop home.length)
  else path

/-- The places in a stack that a word such as `+2` or `-0` means, counted from its top or its bottom. -/
inductive Depth
  | none
  | at (place : Int)
  | bad

def Depth.of (below : Nat) (word : String) : Depth :=
  match word.toList with
  | sign :: rest =>
    if sign = '+' ∨ sign = '-' then
      let scanned := Text.scanInteger true rest
      if scanned.found && scanned.rest = [] then
        .at (if sign = '+' then scanned.value else below - scanned.value)
      else .bad
    else .none
  | [] => .none

def usageOf (name : String) : String :=
  ([("pushd", "[-n] [+N | -N | dir]"), ("popd", "[-n] [+N | -N]"), ("dirs", "[-clpv] [+N] [-N]")].lookup name).getD ""

def misplacedWord (name complaint : String) : Work Nat := do
  Work.warn complaint
  Work.put 2 (name ++ ": usage: " ++ name ++ " " ++ usageOf name ++ "\n")
  return 2

def beyondStack (word : String) : Work Nat := do
  Work.warn (if (← get).stack.isEmpty then "directory stack empty" else word ++ ": directory stack index out of range")
  return 1

structure StackView where
  long : Bool := false
  lines : Bool := false
  numbered : Bool := false
  only : Option (Int × String) := none

def showStack (view : StackView) : Work Nat := do
  let shell ← get
  let home := (← Work.value? "HOME").getD ""
  let all := shell.directory :: shell.stack
  let shown := ((List.range all.length).zip all).map fun (place, path) =>
    let text := if view.long then path else politely home path
    if view.numbered then
      let number := toString place
      String.ofList (List.replicate (2 - number.length) ' ') ++ number ++ "  " ++ text
    else text
  match view.only with
  | none => deliver ((if view.lines || view.numbered then "\n" else " ").intercalate shown ++ "\n")
  | some (place, word) =>
    match if place < 0 then none else shown[place.toNat]? with
    | some text => deliver (text ++ "\n")
    | none => beyondStack (String.ofList (word.toList.drop 1))

def dirs (arguments : List String) : Work Nat := view {} false (arguments.takeWhile (· ≠ "--"))
where view (found : StackView) (clears : Bool) : List String → Work Nat
  | [] => do
    if clears then
      modify fun shell => { shell with stack := [] }
      return 0
    else showStack found
  | "-l" :: rest => view { found with long := true } clears rest
  | "-c" :: rest => view found true rest
  | "-v" :: rest => view { found with numbered := true } clears rest
  | "-p" :: rest => view { found with lines := true } clears rest
  | word :: rest => do
    match Depth.of (← get).stack.length word with
    | .at place => view { found with only := some (place, word) } clears rest
    | .bad => misplacedWord "dirs" (word ++ ": invalid number")
    | .none => misplacedWord "dirs" (word ++ ": invalid option")

def goTo (path : String) : Work Nat := changeFolder ["--", path]

def pushFolder (arguments : List String) : Work Nat := do
  let stays := arguments.head? = some "-n"
  let given := if stays then arguments.drop 1 else arguments
  let words := if given.head? = some "--" then given.drop 1 else given
  let shell ← get
  let turned := fun (order : List String) => do
    let moved ← if stays then pure 0 else goTo (order.headD "")
    modify fun after => { after with stack := order.drop 1 }
    if stays || moved ≠ 0 then return moved else showStack {}
  match words with
  | [] =>
    if stays then return 0
    else
      match shell.stack with
      | [] => Work.refuse "no other directory" 1
      | next :: others => turned (next :: shell.directory :: others)
  | word :: rest =>
    match if word = "-" then .none else Depth.of shell.stack.length word with
    | .bad => misplacedWord "pushd" (word ++ ": invalid number")
    | .at place =>
      let all := shell.directory :: shell.stack
      if place < 0 || shell.stack.length < place then beyondStack word
      else turned (all.drop place.toNat ++ all.take place.toNat)
    | .none =>
      if !rest.isEmpty then Work.refuse "too many arguments" 1
      else if stays then
        modify fun after => { after with stack := word :: after.stack }
        showStack {}
      else
        let moved ← changeFolder words
        if moved ≠ 0 then return moved
        else
          modify fun after => { after with stack := shell.directory :: after.stack }
          showStack {}

/-- Takes a folder from the stack; without the one on top, the next one becomes the working folder. -/
def popFolder (arguments : List String) : Work Nat := do
  let stays := arguments.head? = some "-n"
  let given := if stays then arguments.drop 1 else arguments
  let words := if given.head? = some "--" then given.drop 1 else given
  let shell ← get
  let word := words.headD "+0"
  match Depth.of shell.stack.length word with
  | .bad => misplacedWord "popd" (word ++ ": invalid number")
  | .none => misplacedWord "popd" (word ++ ": invalid argument")
  | .at place =>
    if place < 0 || shell.stack.length < place || shell.stack.isEmpty then beyondStack word
    else if place = 0 then
      let moved ← if stays then pure 0 else goTo (shell.stack.headD "")
      if moved ≠ 0 then return moved
      else
        modify fun after => { after with stack := shell.stack.drop 1 }
        showStack {}
    else
      modify fun after => { after with stack := shell.stack.eraseIdx (place.toNat - 1) }
      showStack {}

end Assay.Script.Builtin
