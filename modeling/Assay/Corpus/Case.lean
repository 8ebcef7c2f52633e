import Assay.Verdict
import Assay.Files.Tree

/-!
Labelled cases. A case has variants, each a file with the options to read it under and what an
analyzer is expected to say about it.
-/

namespace Assay

structure Variant where
  label : String
  file : Path
  options : List String
  expectation : Expectation
deriving DecidableEq

structure Case where
  id : String
  variants : List Variant
deriving DecidableEq

def Case.checkInputs (isFile : Path → Bool) (case : Case) : Except Failure Unit :=
  match case.variants.find? fun variant => !isFile variant.file with
  | some missing => .error (.missingInput case.id missing.file)
  | none => .ok ()

end Assay
