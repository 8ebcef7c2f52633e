import Assay.Invocation
import Assay.Launcher
import Assay.Manual
import Assay.Settings.Json
import Assay.SuiteRun

/-!
Sessions: carrying out what a command line asks for, with the text it prints. What was printed before
a failure stays printed.
-/

namespace Assay

namespace Settings

def override (settings : Settings) (overrides : Overrides) : Settings :=
  { settings with
    tools := { settings.tools with subjectPath := overrides.subject.getD settings.tools.subjectPath }
    jobs := overrides.jobs <|> settings.jobs
    timeoutSeconds := overrides.timeout.getD settings.timeoutSeconds
    outputFolder := overrides.outputFolder.getD settings.outputFolder }

/-- The settings in the file or the default ones, overridden. They are checked before and after. -/
def loadOverridden (overrides : Overrides) (tree : FileTree) (working : Location) :
    Except Failure Settings := do
  let base ← match overrides.settingsFile with
    | some file => load tree working file
    | none => .ok {}
  let settings := base.override overrides
  settings.check
  return settings

def select (settings : Settings) (chosen : List Suite) (name : String) : Except Failure (List Suite) :=
  match settings.suite? name with
  | none => .error (.settings (.unknownSuite name))
  | some suite => .ok (if chosen.any (·.name = suite.name) then chosen else chosen ++ [suite])

/-- The named suites in the order of first mention; without names, all of them. -/
def selectAll (settings : Settings) (names : List String) : Except Failure (List Suite) :=
  if names = [] then .ok settings.suites else names.foldlM settings.select []

def launcher (settings : Settings) : Launcher where
  scratchRoot := settings.scratchFolder
  limit := settings.timeout

end Settings

structure Session (σ : Type) where
  world : σ
  printed : String := ""

namespace Session

variable {σ : Type} [Surroundings σ]

instance : Surroundings (Session σ) where
  tree session := Surroundings.tree session.world
  working session := Surroundings.working session.world
  createFolder path session :=
    let (result, world) := Surroundings.createFolder path session.world
    (result, { session with world })
  writeText path text session :=
    let (result, world) := Surroundings.writeText path text session.world
    (result, { session with world })

def print (text : String) : Action (Session σ) Unit :=
  modify fun session => { session with printed := session.printed ++ text }

def within {α : Type} (action : Action σ α) : Action (Session σ) α :=
  ExceptT.mk fun session =>
    let (result, world) := action.run.run session.world
    (result, { session with world })

def listSuite (suite : Suite) : Action (Session σ) Unit := do
  let cases ← Action.look suite.discover
  cases.forM fun case => print (suite.name ++ "\t" ++ case.id ++ "\n")

def publishAll (analyzers : List (Analyzer (Session σ))) (suites : List Suite) :
    Action (Report.Desk (Session σ)) Unit :=
  suites.forM fun suite => do
    let outcome ← suite.publish analyzers
    Report.Desk.outside (print outcome.shown)

def runSuites (launch : Launcher → CommandLine → Action σ Output) (settings : Settings)
    (names : List String) : Action (Session σ) Unit := do
  let suites ← Action.ofExcept (settings.selectAll names)
  let start := fun line => within (launch settings.launcher line)
  let analyzers ← Action.look (Analyzer.createAll start settings.tools)
  let _ ← Report.Desk.lend { folder := settings.outputFolder } (publishAll analyzers suites)

def perform (launch : Launcher → CommandLine → Action σ Output) (invocation : Invocation) :
    Action (Session σ) Unit :=
  let settled := Action.look fun session : Session σ =>
    Settings.loadOverridden invocation.overrides (Surroundings.tree session.world)
      (Surroundings.working session.world)
  match invocation.request with
  | .showDefaults => print (({} : Settings).toJson.long ++ "\n")
  | .list names => do
    let settings ← settled
    let suites ← Action.ofExcept (settings.selectAll names)
    suites.forM listSuite
  | .run names => do
    let settings ← settled
    runSuites launch settings names

end Session

structure Exit where
  code : UInt8
  stdout : String := ""
  stderr : String := ""
deriving DecidableEq, Repr

namespace Exit

def versionText : String := "analyzer-bench 0.1.0\n"

/-- The exit after reading a command line that asks for nothing more. The subject is what the environment names. -/
def ofHalt (subject : Option String) : Halt → Exit
  | .misuse => { code := 2, stderr := Manual.usage }
  | .version => { code := 0, stdout := versionText }
  | .help topic => { code := 0, stdout := Manual.text subject topic }

def ofResult (wording : Wording) (printed : String) : Except Failure Unit → Exit
  | .ok () => { code := 0, stdout := printed }
  | .error failure =>
    { code := 1, stdout := printed, stderr := "error: " ++ failure.message wording ++ "\n" }

end Exit

end Assay
