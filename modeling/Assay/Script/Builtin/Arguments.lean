import Assay.Script.Expansion
import Assay.Script.Written
import Assay.Text.Numeral

/-!
The arguments of builtin commands: options, numbers, and texts that can be read again.
-/

namespace Assay.Script.Builtin

/-- Letters after a dash, one by one. A letter with a colon behind it takes an argument. -/
def letters (known : List Char) : List Char → List String → Except String (List (Char × String) × List String)
  | [], rest => .ok ([], rest)
  | c :: more, rest =>
    let behind := (known.dropWhile (· ≠ c)).drop 1
    if c = ':' ∨ !known.contains c then .error ("Illegal option -" ++ String.ofList [c])
    else if behind.head? = some ':' then
      match more, rest with
      | [], [] => .error ("No arg for -" ++ String.ofList [c] ++ " option")
      | [], value :: others => .ok ([(c, value)], others)
      | _, _ => .ok ([(c, String.ofList more)], rest)
    else (letters known more rest).map fun (found, left) => ((c, "") :: found, left)

/-- The options in front of other arguments; the first number bounds their number. -/
def scan (known : List Char) : Nat → List String → Except String (List (Char × String) × List String)
  | 0, arguments => .ok ([], arguments)
  | _, [] => .ok ([], [])
  | size + 1, first :: rest =>
    match first.toList with
    | ['-', '-'] => .ok ([], rest)
    | '-' :: c :: more => do
      let (found, left) ← letters known (c :: more) rest
      let (others, final) ← scan known size left
      return (found ++ others, final)
    | _ => .ok ([], first :: rest)

def usages : List (String × String) :=
  [("alias", "[-p] [name[=value] ... ]"), ("unalias", "[-a] name [name ...]"), ("cd", "[-L|[-P [-e]] [-@]] [dir]"),
   ("pwd", "[-LP]"), ("export", "[-fn] [name[=value] ...] or export -p"),
   ("readonly", "[-aAf] [name[=value] ...] or readonly -p"),
   ("declare", "[-aAfFgiIlnrtux] [name[=value] ...] or declare -p [-aAfFilnrtux] [name ...]"),
   ("typeset", "[-aAfFgiIlnrtux] name[=value] ... or typeset -p [-aAfFilnrtux] [name ...]"),
   ("local", "[option] name[=value] ..."), ("unset", "[-f] [-v] [-n] [name ...]"),
   ("read", "[-ers] [-a array] [-d delim] [-i text] [-n nchars] [-N nchars] [-p prompt] [-t timeout] [-u fd] [name ...]"),
   ("exec", "[-cl] [-a name] [command [argument ...]] [redirection ...]"),
   ("hash", "[-lr] [-p pathname] [-dt] [name ...]"), ("type", "[-afptP] name [name ...]"),
   ("command", "[-pVv] command [arg ...]"), ("shopt", "[-pqsu] [-o] [optname ...]"),
   ("trap", "[-lp] [[arg] signal_spec ...]"), ("umask", "[-p] [-S] [mode]"),
   ("wait", "[-fn] [-p var] [id ...]"), ("jobs", "[-lnprs] [jobspec ...] or jobs -x command [args]"),
   ("mapfile", "[-d delim] [-n count] [-O origin] [-s count] [-t] [-u fd] [-C callback] [-c quantum] [array]"),
   ("readarray", "[-d delim] [-n count] [-O origin] [-s count] [-t] [-u fd] [-C callback] [-c quantum] [array]"),
   ("printf", "[-v var] format [arguments]"), ("getopts", "optstring name [arg ...]"),
   ("source", "filename [arguments]"), (".", "filename [arguments]"), ("eval", "[arg ...]"),
   ("caller", "[expr]"), ("disown", "[-h] [-ar] [jobspec ... | pid ...]"), ("exit", "[n]"), ("logout", "[n]"),
   ("enable", "[-a] [-dnps] [-f filename] [name ...]"), ("builtin", "[shell-builtin [arg ...]]"),
   ("compgen", "[-abcdefgjksuv] [-o option] [-A action] [-G globpat] [-W wordlist] [-F function] [-C command] "
     ++ "[-X filterpat] [-P prefix] [-S suffix] [word]"),
   ("complete", "[-abcdefgjksuv] [-pr] [-DEI] [-o option] [-A action] [-G globpat] [-W wordlist] [-F function] "
     ++ "[-C command] [-X filterpat] [-P prefix] [-S suffix] [name ...]"),
   ("compopt", "[-o|+o option] [-DEI] [name ...]"), ("suspend", "[-f]"), ("fc", "[-e ename] [-lnr] [first] [last] or "
     ++ "fc -s [pat=rep] [command]"), ("history", "[-c] [-d offset] [n] or history -anrw [filename] or history -ps "
     ++ "arg [arg...]"), ("help", "[-dms] [pattern ...]"), ("let", "arg [arg ...]"), ("times", ""),
   ("ulimit", "[-SHabcdefiklmnpqrstuvxPRT] [limit]"), ("bg", "[job_spec ...]"), ("fg", "[job_spec]"),
   ("bind", "[-lpsvPSVX] [-m keymap] [-f filename] [-q name] [-u name] [-r keyseq] [-x keyseq:shell-command] "
     ++ "[keyseq:readline-function or readline-command]")]

def options (known : String) (arguments : List String) : Work (List (Char × String) × List String) := do
  match scan known.toList (arguments.length + 1) arguments with
  | .ok found => return found
  | .error message =>
    let shell ← get
    if shell.isRich then
      let name := shell.builtin.getD ""
      let letter := ((message.toList.dropWhile (· ≠ '-')).drop 1).head?.getD ' '
      let shown := "-" ++ String.ofList [letter]
      Work.warn (shown ++ if "No".isPrefixOf message then ": option requires an argument" else ": invalid option")
      match usages.lookup name with
      | some usage => Work.put 2 (name ++ ": usage: " ++ name ++ " " ++ usage ++ "\n")
      | none => pure ()
      Work.setStatus 2
      throw .fails
    else Work.refuse message

def number? (text : String) : Option Nat :=
  let scanned := Text.scanInteger true text.toList
  if scanned.found && scanned.rest.all Text.isSpaceByte && 0 ≤ scanned.value && scanned.value ≤ 2147483647 then
    some scanned.value.toNat
  else none

def number (text : String) : Work Nat := do
  match number? text with
  | some n => return n
  | none =>
    if (← get).isRich then Work.refuse (text ++ ": numeric argument required")
    else Work.refuse ("Illegal number: " ++ text)

def singleQuoted (text : String) : String :=
  let rec go : Nat → List Char → List Char
    | 0, _ => []
    | fuel + 1, rest =>
      let plain := rest.takeWhile (· ≠ '\'')
      let after := rest.drop plain.length
      let quotes := after.takeWhile (· = '\'')
      let here := '\'' :: plain ++ ['\'']
      if quotes = [] then here
      else
        let left := after.drop quotes.length
        here ++ '"' :: quotes ++ ['"'] ++ (if left = [] then [] else go fuel left)
  String.ofList (go (text.length + 1) text.toList)

def assignmentIn (argument : String) : String × Option String :=
  let text := argument.toList
  let name := text.takeWhile (· ≠ '=')
  match text.drop name.length with
  | _ :: value => (String.ofList name, some (String.ofList value))
  | [] => (argument, none)

def requireName (name : String) (argument : String := name) : Work Unit := do
  if !isName name.toList then
    if (← get).isRich then Work.refuse ("\x60" ++ argument ++ "': not a valid identifier") 1
    else Work.refuse (name ++ ": bad variable name")

/-- A function as it is shown; nothing if there is none of this name. -/
def functionText (shell : Shell) (name : String) : String :=
  match shell.functions.lookup name with
  | some routine => Writing.function shell.documentOf name routine.body ++ "\n"
  | none => ""

end Assay.Script.Builtin
