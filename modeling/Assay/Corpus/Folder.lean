import Assay.Corpus.Case

/-!
Folders of a corpus: finding one, and the names of the files in it.
-/

namespace Assay.Corpus

def resolveFolder (tree : FileTree) (working : Site) (folder : Path) : Except Failure Site :=
  if tree.isFolder working folder then
    (tree.resolveSite working folder).mapError fun fault => .file ("resolving " ++ folder.text) fault
  else .error (.missingInput folder.text folder)

/-- A folder for include files. It need not exist; only its path has to be absolute, since
analyzers run in folders of their own. -/
def includeFolder (working : Location) (folder : Path) : Except Failure Path :=
  (working.absolute folder).mapError fun fault => .file ("resolving " ++ folder.text) fault

/-- The entry is not itself a folder. A link counts as a file, whatever it leads to. -/
def isListed : Entry → Bool
  | .folder => false
  | _ => true

def fileNames (tree : FileTree) (folder : Site) : List String :=
  let listed := (tree.listing folder).filter fun child => isListed child.2
  (listed.filterMap fun child => String.fromUTF8? child.1).mergeSort
    fun left right => (compare left right).isLE

def includeOptions (folders : List Path) : List String :=
  folders.flatMap fun folder => ["-I", folder.text]

end Assay.Corpus
