import Assay.Session

/-!
The program. It takes in the files below the working folder, carries out its command line on them, and
puts what was written back in its place.
-/

namespace Assay

def depthLimit : Nat := 64

def takeIn (place : Location) (entry : IO.FS.DirEntry) : Nat → FileTree → IO FileTree
  | 0, tree => return tree
  | depth + 1, tree => do
    let location := place ++ [entry.fileName]
    if ← entry.path.isDir then
      let mut inner := tree.put location .folder
      for item in ← entry.path.readDir do
        inner ← takeIn location item depth inner
      return inner
    else
      let data ← entry.path.metadata
      if data.type matches .file then
        return tree.putFile location (← IO.FS.readBinFile entry.path) true
      else return tree

def putBack (before : FileTree) (location : Location) (entry : Entry) : IO Unit := do
  let name := location.path.text
  match entry, before.entry? location with
  | .folder, none => IO.FS.createDirAll name
  | .file serial content _, some (.file same old _) =>
    unless serial == same && content.data == old.data do IO.FS.writeBinFile name content
  | .file _ content _, _ => IO.FS.writeBinFile name content
  | _, _ => return ()

def launchHere (launcher : Launcher) (line : CommandLine) : Action Host Output :=
  launcher.launch line

end Assay

open Assay in
def main (words : List String) : IO UInt32 := do
  let subject ← IO.getEnv "ANALYZER_BENCH_SUBJECT"
  let here := (← IO.currentDir).toString
  let working := Site.ofPath ⟨here⟩
  let wording : Wording := {}
  let exit ← match Invocation.read subject words with
    | .error halt => pure (Exit.ofHalt subject halt)
    | .ok invocation => do
      let mut tree := FileTree.empty
      for size in List.range working.location.length do
        tree := tree.put (working.location.take (size + 1)) .folder
      for item in ← (IO.FS.DirEntry.mk here ".").path.readDir do
        tree ← takeIn working item depthLimit tree
      let session : Session Host := { world := { tree, working, written := working.written } }
      let (result, after) := (Session.perform launchHere invocation).run.run session
      for (location, entry) in after.world.tree.entries do
        putBack tree location entry
      pure (Exit.ofResult wording after.printed result)
  IO.print exit.stdout
  IO.eprint exit.stderr
  return exit.code.toUInt32
