import Assay.Corpus.Folder

/-!
Define-flag groups. A group is a folder with a makefile; each case is one file, whose good and bad
paths are chosen by a preprocessor define.
-/

namespace Assay.Corpus.Defines

def afterFirst? (pattern : List Char) : List Char → Option (List Char)
  | [] => if pattern = [] then some [] else none
  | c :: rest =>
    if pattern.isPrefixOf (c :: rest) then some ((c :: rest).drop pattern.length)
    else afterFirst? pattern rest

def isCaseName (name : List Char) : Bool :=
  match afterFirst? "cwe".toList (name.map Char.toLower) with
  | some rest => (afterFirst? ".c".toList rest).isSome
  | none => false

def caseOf (folder : Site) (options : List String) (name : String) : Case :=
  let file := folder.location.path / ⟨name⟩
  { id := name,
    variants := [
      { label := "correct", file, options := options ++ ["-DOMITBAD"], expectation := .clean },
      { label := "incorrect", file, options := options ++ ["-DOMITGOOD"], expectation := .flagged }] }

/-- The cases of a group. A folder without a makefile is for other systems only. -/
def discover (tree : FileTree) (working : Site) (group support : Path) :
    Except Failure (List Case) := do
  let folder ← resolveFolder tree working group
  let makefile := folder.location.path / ⟨"Makefile"⟩
  if !tree.isFile working makefile then throw (.missingInput group.text makefile)
  let shared ← includeFolder working support
  let options := includeOptions [shared] ++ ["-DINCLUDEMAIN"]
  let names := (fileNames tree folder).filter fun name => isCaseName name.toList
  return names.map (caseOf folder options)

end Assay.Corpus.Defines
