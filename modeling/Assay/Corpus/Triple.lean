import Assay.Corpus.Folder

/-!
Triple-file groups. A group is a folder with one entry for each case and three folders beside
them, where the variants of a case stand under its name.
-/

namespace Assay.Corpus.Triple

def layout : List (String × String × Expectation) :=
  [("correct", "test_correct", .clean), ("catch_bad", "test_correct_catch_bad", .clean),
   ("incorrect", "test_incorrect", .flagged)]

def isCaseName : List Char → Bool
  | first :: second :: third :: rest =>
    (first.isDigit && second.isDigit && third = '_') || isCaseName (second :: third :: rest)
  | _ => false

def groupName (folder : Site) : String :=
  let names := folder.location.path.components
  "/".intercalate (names.drop (names.length - 2))

def caseOf (folder : Site) (options : List String) (name : String) : Case :=
  { id := groupName folder ++ "/" ++ name,
    variants := layout.map fun (label, inner, expectation) =>
      { label, file := folder.location.path / ⟨inner⟩ / ⟨name⟩, options, expectation } }

def discover (tree : FileTree) (working : Site) (group common : Path) :
    Except Failure (List Case) := do
  let folder ← resolveFolder tree working group
  let shared ← includeFolder working common
  let options := includeOptions [folder.location.path, shared]
  let names := (fileNames tree folder).filter fun name => isCaseName name.toList
  names.mapM fun name => do
    let case := caseOf folder options name
    case.checkInputs (tree.isFile working)
    return case

end Assay.Corpus.Triple
