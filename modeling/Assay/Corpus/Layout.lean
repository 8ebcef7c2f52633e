import Assay.Corpus.Triple
import Assay.Corpus.Defines

/-!
The layouts of a corpus, and the cases of a list of groups.
-/

namespace Assay

inductive Layout
  | tripleFile (commonInclude : Path)
  | defineFlags (supportInclude : Path)
deriving DecidableEq, Repr

namespace Layout

def describe (layout : Layout) (group : Path) : String :=
  match layout with
  | tripleFile _ => "triple-file group " ++ group.text
  | defineFlags _ => "define-flag group " ++ group.text

def discoverGroup (layout : Layout) (tree : FileTree) (working : Site) (group : Path) :
    Except Failure (List Case) :=
  match layout with
  | tripleFile commonInclude => Corpus.Triple.discover tree working group commonInclude
  | defineFlags supportInclude => Corpus.Defines.discover tree working group supportInclude

def discover (layout : Layout) (tree : FileTree) (working : Site) (groups : List Path) :
    Except Failure (List Case) := do
  let found ← groups.mapM (layout.discoverGroup tree working)
  return found.flatten

end Layout

end Assay
