import Assay.Surroundings
import Assay.Analyzer.CommandLine
import Assay.Analyzer.Run
import Assay.Settings.Basic

/-!
Analyzers. Each kind has its command line and the stream in which its summary is found; beyond that
all are used alike.
-/

namespace Assay

structure Analyzer (σ : Type) where
  kind : Kind
  validate : σ → Except Failure Unit
  analyze : List String → Path → Action σ Run

/-- Warnings about return types are noise in the corpora. -/
def suppressReturnType : String := "-Wno-return-type"

def checkOnly : String := "-fsyntax-only"

namespace Kind

def commandLine (kind : Kind) (program : Path) (options : List String) (file : Path) : CommandLine :=
  match kind with
  | reference =>
    { program, arguments := ["--analyze"] ++ withFlags options [suppressReturnType] ++ [file.text] }
  | subject =>
    { program, arguments := withFlags options [suppressReturnType, checkOnly] ++ [file.text] }
  | abstractInterpreter =>
    { program,
      arguments := ["-eva", "-cpp-extra-args=" ++ " ".intercalate options, file.text] }

def diagnose (kind : Kind) (output : Output) : Diagnostics :=
  match kind with
  | reference | subject => .ofCompilerText output.stderr
  | abstractInterpreter => .ofKernelText output.stdout

def removedOutput : String := "removed"

def readRun (kind : Kind) (keepOutput : Bool) (output : Output) : Run :=
  let run := Run.ofOutput output (kind.diagnose output)
  if kind = .abstractInterpreter ∧ keepOutput = false then
    { run with output := { run.output with stdout := removedOutput, stderr := removedOutput } }
  else run

end Kind

namespace Analyzer

variable {σ : Type} [Surroundings σ]

def checkProgram (kind : Kind) (program : Path) (state : σ) : Except Failure Unit :=
  if kind = .subject ∧
      ¬ (Surroundings.tree state).pathExists (Surroundings.working state) program then
    .error (.missingTool program)
  else .ok ()

def ofProgram (launch : CommandLine → Action σ Output) (kind : Kind) (program : Path)
    (keepOutput : Bool) : Analyzer σ where
  kind
  validate := checkProgram kind program
  analyze options file := do
    Action.look (checkProgram kind program)
    let output ← launch (kind.commandLine program options file)
    return kind.readRun keepOutput output

/-- The program of a kind. The subject has to exist; its path is made absolute, because analyzers
run in folders of their own. -/
def program (tools : ToolSettings) (kind : Kind) (state : σ) : Except Failure Path :=
  match kind with
  | .reference => .ok tools.referenceCommand
  | .abstractInterpreter => .ok tools.abstractCommand
  | .subject => do
    checkProgram .subject tools.subjectPath state
    match (Surroundings.tree state).resolve (Surroundings.working state) tools.subjectPath with
    | .ok location => .ok location.path
    | .error fault => .error (.file ("resolving " ++ tools.subjectPath.text) fault)

def create (launch : CommandLine → Action σ Output) (tools : ToolSettings) (state : σ)
    (kind : Kind) : Except Failure (Analyzer σ) := do
  let path ← program tools kind state
  return ofProgram launch kind path tools.keepAbstractOutput

def createAll (launch : CommandLine → Action σ Output) (tools : ToolSettings) (state : σ) :
    Except Failure (List (Analyzer σ)) := do
  (← tools.kinds).mapM (create launch tools state)

end Analyzer

end Assay
