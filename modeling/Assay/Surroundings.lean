import Assay.Files.Tree
import Assay.Failure

/-!
What a campaign needs of the world around it: the files it sees, and two operations on them that
may fail in any way.
-/

namespace Assay

class Surroundings (σ : Type) where
  tree : σ → FileTree
  working : σ → Site
  createFolder : Path → σ → Except FileFault Unit × σ
  writeText : Path → String → σ → Except FileFault Unit × σ

/-- A computation that acts on the surroundings and may end in a failure. What it did before a
failure stays done. -/
abbrev Action (σ : Type) := ExceptT Failure (StateM σ)

namespace Action

variable {σ : Type}

def ofExcept {α : Type} (result : Except Failure α) : Action σ α := ExceptT.mk (pure result)

def look {α : Type} (view : σ → Except Failure α) : Action σ α :=
  ExceptT.mk fun state => (view state, state)

def onFiles (context : String) (operation : σ → Except FileFault Unit × σ) : Action σ Unit :=
  ExceptT.mk fun state =>
    let (result, after) := operation state
    (result.mapError fun fault => .file context fault, after)

end Action

end Assay
