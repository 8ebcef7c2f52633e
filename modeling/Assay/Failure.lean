import Assay.Analyzer.Kind
import Assay.Files.Fault

/-!
What ends a run. An analyzer that reports nothing or exceeds its time limit is no failure.
-/

namespace Assay

inductive SettingsProblem
  | unreadable (path : Path) (fault : FileFault)
  | notDecoded (path : Path) (fault : Json.Fault)
  | noTools
  | toolTwice (kind : Kind)
  | noJobs
  | unnamedSuite
  | duplicateSuite (name : String)
  | unknownSuite (name : String)
  | refused (reason : String)
deriving DecidableEq, Repr

inductive Failure
  | missingInput (case : String) (path : Path)
  | missingTool (path : Path)
  | unknownTool (name : String)
  | spawn (command : String) (fault : FileFault)
  | file (context : String) (fault : FileFault)
  | settings (problem : SettingsProblem)
  | duplicateReport (name : String)
  | timeOverflow
deriving DecidableEq, Repr

/-- The texts for causes that lie outside: a fault of the file system, a text that is no JSON. -/
structure Wording where
  fault : FileFault → String := FileFault.message
  malformedJson : String := "the text is not valid JSON"

def SettingsProblem.message (wording : Wording) : SettingsProblem → String
  | unreadable path fault => s!"cannot read {path.text}: " ++ wording.fault fault
  | notDecoded path fault => s!"{path.text}: " ++ fault.message wording.malformedJson
  | noTools => "no tools enabled"
  | toolTwice kind => s!"tool '{kind.name}' enabled twice"
  | noJobs => "jobs must be at least 1"
  | unnamedSuite => "suite with empty name"
  | duplicateSuite name => s!"duplicate suite '{name}'"
  | unknownSuite name => s!"unknown suite '{name}'"
  | refused reason => reason

namespace Failure

def message (wording : Wording) : Failure → String
  | missingInput case path => s!"missing input for case '{case}': {path.text}"
  | missingTool path => s!"subject analyzer missing at {path.text}"
  | unknownTool name =>
    s!"unknown tool '{name}'. Valid options: " ++ ", ".intercalate (Kind.all.map Kind.name)
  | spawn command fault => s!"failed to start '{command}': " ++ wording.fault fault
  | file context fault => context ++ ": " ++ wording.fault fault
  | settings problem => "invalid configuration: " ++ problem.message wording
  | duplicateReport name => s!"report '{name}' was already written in this run"
  | timeOverflow => "the total time is too large"

end Failure

end Assay
