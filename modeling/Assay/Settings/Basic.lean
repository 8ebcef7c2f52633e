import Assay.Corpus.Layout

/-!
Settings of a campaign: the analyzers to run, the folders to work in, limits, and the suites. Every
setting has a default.
-/

namespace Assay

structure Suite where
  name : String
  layout : Layout
  groups : List Path
deriving DecidableEq, Repr

structure ToolSettings where
  enabled : List String := Kind.all.map Kind.name
  referenceCommand : Path := ⟨"clang"⟩
  subjectPath : Path := ⟨"build/src/smacpp"⟩
  abstractCommand : Path := ⟨"frama-c"⟩
  keepAbstractOutput : Bool := true
deriving DecidableEq, Repr

namespace Suite

def memoryRoot : Path := ⟨"test/data/JM2018TS"⟩

def julietRoot : Path := ⟨"test/data/Juliet_Test_Suite_v1.3_for_C_Cpp/C"⟩

def memory : Suite where
  name := "jm"
  layout := .tripleFile (memoryRoot / ⟨"common"⟩)
  groups := [⟨"strings/unbounded_copy"⟩, ⟨"strings/overflow"⟩, ⟨"memory/double_free"⟩,
    ⟨"memory/access_uninit"⟩, ⟨"memory/leak"⟩, ⟨"memory/refer_free"⟩,
    ⟨"memory/zero_alloc"⟩].map (memoryRoot / ·)

def juliet : Suite where
  name := "juliet"
  layout := .defineFlags (julietRoot / ⟨"testcasesupport"⟩)
  groups := [⟨"s01"⟩, ⟨"s02"⟩].map (julietRoot / ⟨"testcases/CWE126_Buffer_Overread"⟩ / ·)

end Suite

structure Settings where
  tools : ToolSettings := {}
  scratchFolder : Path := ⟨"temp"⟩
  outputFolder : Path := ⟨"."⟩
  /-- The time limit of one command; zero means none. -/
  timeoutSeconds : UInt64 := 300
  /-- How many analyses may run at once; without a number, as many as there are processors. -/
  jobs : Option UInt64 := none
  suites : List Suite := [.memory, .juliet]
deriving DecidableEq, Repr

namespace ToolSettings

def addKind (kinds : List Kind) (name : String) : Except Failure (List Kind) :=
  match Kind.named? name with
  | none => .error (.unknownTool name)
  | some kind => if kind ∈ kinds then .error (.settings (.toolTwice kind)) else .ok (kinds ++ [kind])

def kinds (tools : ToolSettings) : Except Failure (List Kind) :=
  if tools.enabled = [] then .error (.settings .noTools) else tools.enabled.foldlM addKind []

end ToolSettings

namespace Settings

def timeout (settings : Settings) : Option Duration :=
  if settings.timeoutSeconds = 0 then none else some (.ofSeconds settings.timeoutSeconds)

def suite? (settings : Settings) (name : String) : Option Suite :=
  settings.suites.find? (·.name = name)

def addSuiteName (names : List String) (suite : Suite) : Except Failure (List String) :=
  if suite.name = "" then .error (.settings .unnamedSuite)
  else if suite.name ∈ names then .error (.settings (.duplicateSuite suite.name))
  else .ok (names ++ [suite.name])

/-- Checks the analyzers, then the number of jobs, then the names of the suites. -/
def check (settings : Settings) : Except Failure Unit := do
  let _ ← settings.tools.kinds
  if settings.jobs = some 0 then throw (.settings .noJobs)
  let _ ← settings.suites.foldlM addSuiteName []

end Settings

end Assay
