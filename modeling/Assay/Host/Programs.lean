import Assay.Host.Activity
import Assay.Text.Octets

/-!
Which program a file is: one that belongs to the system, or a script whose first line names another
program that reads it.
-/

namespace Assay

structure Call where
  name : String
  arguments : List String := []
  environment : List (String × String) := []

abbrev Become := String → Call → Process FileFault

/-- A program, which may become another one; its result is its exit code. -/
abbrev Program := Become → Call → Process Nat

structure Programs where
  named : String → Option Program
  become : Become

namespace Program

def mark : List Char := '\x7f' :: "ELF".toList

def content (name : String) : ByteArray := Octets.bytes (mark ++ name.toList)

def frontSize : Nat := 255

def isBlank (c : Char) : Bool := c = ' ' || c = '\t'

/-- The program that the first line of a script names, and the one argument that may follow it. -/
def asked? (front : List Char) : Option (String × Option String) :=
  match front with
  | '#' :: '!' :: rest =>
    let line := (rest.takeWhile (· ≠ '\n')).dropWhile isBlank
    let name := line.takeWhile fun c => !isBlank c
    let after := ((line.drop name.length).dropWhile isBlank).reverse.dropWhile isBlank
    if name = [] then none
    else some (String.ofList name, if after = [] then none else some (String.ofList after.reverse))
  | _ => none

def nesting : Nat := 6

/-- The name of the program at a path, and how it is called in the end. The number bounds the scripts
on the way. -/
def resolve (tree : FileTree) (folder : Location) : Nat → String → Call → Except FileFault (String × Call)
  | 0, _, _ => .error .tooManyLinks
  | depth + 1, path, call => do
    match ← tree.locate folder true ⟨Octets.toText path⟩ with
    | .present _ (.file _ content executable) =>
      if !executable then throw .denied
      let front := Octets.chars (content.extract 0 frontSize)
      if mark.isPrefixOf front then return (String.ofList (front.drop mark.length), call)
      else
        match asked? front with
        | none => throw .notAProgram
        | some (name, option) =>
          resolve tree folder depth name
            { call with name, arguments := option.toList ++ path :: call.arguments }
    | .present _ _ => throw .denied
    | .vacant .. => throw .notFound

def become (table : String → Option Program) : Nat → Become
  | 0, _, _ => pure .tooManyLinks
  | times + 1, path, call => do
    match resolve (← Process.tree) (← Process.folder) nesting path call with
    | .error fault => return fault
    | .ok (name, full) =>
      match table name with
      | none => return .notAProgram
      | some program =>
        Process.ask .replace
        Process.exit (← program (become table times) full)

def foldersOf (path : String) : List String :=
  (path.toList.splitOn ':').map fun folder => String.ofList folder

def standardPath : String := "/usr/local/sbin:/usr/local/bin:/usr/sbin:/usr/bin:/sbin:/bin"

def candidates (path name : String) : List String :=
  if name.toList.contains '/' then [name]
  else (foldersOf path).map fun folder => if folder = "" then name else folder ++ "/" ++ name

/-- Becomes the first program of some paths. A script without a first line that names a program is
read by the shell. -/
def becomeFirst (become : Become) (call : Call) (fault : FileFault) : List String → Process FileFault
  | [] => return fault
  | path :: rest => do
    match ← become path call with
    | .notAProgram =>
      become "/bin/sh" { call with name := "/bin/sh", arguments := path :: call.arguments }
    | .notFound | .notAFolder => becomeFirst become call fault rest
    | .denied => becomeFirst become call .denied rest
    | other => return other

def becomeNamed (become : Become) (environment : List (String × String)) (name : String)
    (arguments : List String) : Process FileFault :=
  if name = "" then return .notFound
  else
    becomeFirst become { name, arguments, environment } .notFound
      (candidates ((environment.lookup "PATH").getD standardPath) name)

end Program

end Assay

namespace Assay.FileTree

def systemFolders : List String :=
  ["usr", "usr/bin", "usr/sbin", "usr/lib", "usr/share", "usr/include", "usr/local", "usr/local/bin",
   "usr/local/sbin", "usr/local/lib", "dev", "dev/fd", "dev/shm", "etc", "tmp", "root", "home", "var", "var/tmp",
   "var/log", "var/lib", "opt", "mnt", "media", "srv", "run", "proc", "sys", "boot"]

def systemLinks : List (String × String) :=
  [("bin", "usr/bin"), ("sbin", "usr/sbin"), ("lib", "usr/lib"), ("lib64", "usr/lib"), ("usr/bin/sh", "dash")]

def systemDevices : List (String × Device) :=
  [("dev/null", .null), ("dev/zero", .zero), ("dev/full", .full), ("dev/random", .zero),
   ("dev/urandom", .zero), ("dev/tty", .terminal), ("dev/stdin", .channel 0), ("dev/stdout", .channel 1),
   ("dev/stderr", .channel 2)]
    ++ (List.range 100).map fun number => ("dev/fd/" ++ toString number, .channel number)

def systemFiles : List (String × String) :=
  [("etc/passwd", "root:x:0:0:root:/root:/bin/bash\nnobody:x:65534:65534:nobody:/nonexistent:/usr/sbin/nologin\n"),
   ("etc/group", "root:x:0:\nnogroup:x:65534:\n"), ("etc/hostname", "localhost\n"),
   ("etc/hosts", "127.0.0.1\tlocalhost\n"), ("etc/os-release", "ID=debian\n")]

def locationOf (text : String) : Location := Path.pieces ⟨text⟩

def standard (programs : List String) : FileTree :=
  let entries : Entries :=
    systemFolders.map (fun name => (locationOf name, .folder))
      ++ systemLinks.map (fun (name, target) => (locationOf name, .link ⟨target⟩))
      ++ systemDevices.map (fun (name, kind) => (locationOf name, .device kind))
  let files := systemFiles.map (fun (name, text) => (locationOf name, text.toUTF8, false))
    ++ programs.map fun name => (["usr", "bin", name], Program.content name, true)
  let numbered := (List.range files.length).zip files |>.map fun (serial, location, content, executable) =>
    (location, Entry.file serial content executable)
  let bare := (entries ++ numbered).foldl (fun (tree : FileTree) item => tree.place item.1 item.2) .empty
  { bare with nextSerial := files.length }

end Assay.FileTree
