import Assay.Analyzer.CommandLine
import Assay.Analyzer.Run
import Assay.Host.Programs
import Assay.Host.Schedule
import Assay.Utility.Table
import Assay.Watch

/-!
Launching commands. Each one gets a scratch folder of its own, which is its working folder, holds the
files that its output goes to, and is taken away when the command is done with, whatever came of it.
-/

namespace Assay

structure Launcher where
  scratchRoot : Path
  limit : Option Duration := none

namespace Launcher

/-- A launcher with a time limit; zero means none. -/
def withTimeout (scratchRoot : Path) (timeout : Duration) : Launcher where
  scratchRoot
  limit := if timeout = .zero then none else some timeout

/-- Microseconds between two looks at a command that has a limit. -/
def pollInterval : Nat := 10000

/-- The looks that a limit leaves room for: one at the start, and one after each pause. -/
def looksWithin (limit : Option Duration) : Nat :=
  (limit.map fun span => span.nanos / (1000 * pollInterval) + 2).getD 0

def alphabet : List Char :=
  "abcdefghijklmnopqrstuvwxyzABCDEFGHIJKLMNOPQRSTUVWXYZ0123456789".toList

def letters : Nat → Nat → List Char
  | 0, _ => []
  | size + 1, number =>
    letters size (number / alphabet.length) ++ [alphabet.getD (number % alphabet.length) 'a']

def scratchName (number : Nat) : String := "run-" ++ String.ofList (letters 6 number)

def running (number started : Nat) : Running Host where
  look host :=
    let current := host.pass 0
    match current.endingOf? number with
    | some ending => (.ended ending, current)
    | none => (.running, current)
  elapsed host := (host.clock - started) * 1000
  pause host := host.pass pollInterval
  stop host := host.endTasks Signal.kill fun task => task.group = number
  reap host :=
    let after := Host.runToEnd number Host.stepBudget host
    match after.endingOf? number with
    | some ending => (.ok ending, after)
    | none => (.error .interrupted, after)

structure Captures where
  folder : Path
  stdout : Path
  stderr : Path

def Captures.within (folder : Path) : Captures where
  folder
  stdout := folder / ⟨"stdout.log"⟩
  stderr := folder / ⟨"stderr.log"⟩

def createScratch (launcher : Launcher) : Action Host Captures := do
  Action.onFiles ("creating scratch root " ++ launcher.scratchRoot.text)
    (Surroundings.createFolder launcher.scratchRoot)
  let host ← get
  let (number, numbered) := host.fresh
  set numbered
  let captures := Captures.within
    (host.working.path / launcher.scratchRoot / ⟨scratchName number⟩)
  Action.onFiles "creating scratch directory" fun host =>
    match host.tree.createFolder host.working captures.folder with
    | .ok tree => (.ok (), host.withTree tree)
    | .error fault => (.error fault, host)
  return captures

def openCapture (context : String) (file : Path) : Action Host Channel := do
  let host ← get
  match Host.openPath { number := 0, group := 0, activity := .ended (.code 0) } host file .write with
  | .ok (channel, after) =>
    set after
    return channel
  | .error fault => throw (.file context fault)

def environment : List (String × String) :=
  [("PATH", Program.standardPath), ("HOME", "/root"), ("LC_CTYPE", "C.UTF-8"), ("OLDPWD", "/")]

def programOf (programs : Programs) (tree : FileTree) (folder : Location) (line : CommandLine) :
    Except FileFault (Program × Call) := do
  let octets := Octets.ofText line.program.text
  if (line.program.text :: line.arguments).any fun text => text.toList.contains '\x00' then throw .invalidName
  if octets = "" then throw .notFound
  let call : Call := { name := octets, arguments := line.arguments.map Octets.ofText, environment }
  let rec firstOf (fault : FileFault) : List String → Except FileFault (String × Call)
    | [] => .error fault
    | place :: rest =>
      match Program.resolve tree folder Program.nesting place call with
      | .ok found => .ok found
      | .error .notFound | .error .notAFolder => firstOf fault rest
      | .error .denied => firstOf .denied rest
      | .error other => .error other
  let (name, called) ← firstOf .notFound (Program.candidates Program.standardPath octets)
  match programs.named name with
  | some program => return (program, called)
  | none => throw .notAProgram

def spawn (programs : Programs) (line : CommandLine) (captures : Captures) (stdout stderr : Channel) :
    Action Host Nat := do
  let host ← get
  let (number, numbered) := host.fresh
  let folder := ((host.tree.resolve host.working captures.folder).toOption).getD []
  match programOf programs host.tree folder line with
  | .error fault => throw (.spawn line.program.text fault)
  | .ok (program, call) =>
    let (empty, opened) := numbered.openStream (.device .null)
    let task : Task :=
      { number, group := number, folder,
        channels := [(0, { stream := empty, readable := true }), (1, stdout), (2, stderr)],
        activity := (program programs.become call).activity, wake := host.clock + 1 }
    set { opened with tasks := opened.tasks ++ [task] }
    return number

def readCapture (file : Path) : Action Host String :=
  Action.look fun host =>
    match host.tree.read host.working file with
    | .ok content => .ok (Text.ofBytesLossy content)
    | .error fault => .error (.file ("reading " ++ file.text) fault)

def watchFailure (program : Path) : WatchFault → Failure
  | .waiting fault => .file s!"waiting for '{program.text}'" fault
  | .reaping fault => .file s!"reaping '{program.text}' after kill" fault

def runWithin (programs : Programs) (launcher : Launcher) (line : CommandLine)
    (captures : Captures) : Action Host Output := do
  let stdout ← openCapture "creating stdout capture" captures.stdout
  let stderr ← openCapture "creating stderr capture" captures.stderr
  let started := (← get).clock
  let number ← spawn programs line captures stdout stderr
  let (result, after) :=
    (running number started).await launcher.limit (looksWithin launcher.limit) (← get)
  set after
  let watched ← Action.ofExcept <|
    (result.getD (.error (.waiting .interrupted))).mapError (watchFailure line.program)
  let stdoutText ← readCapture captures.stdout
  let stderrText ← readCapture captures.stderr
  return { stdout := stdoutText
           stderr := stderrText
           exitCode := match watched.ending with
             | .code status => some (Int32.ofNat status)
             | .signal _ => none
           elapsed := (Duration.ofNanos? ((after.clock - started) * 1000)).getD .zero
           timedOut := watched.timedOut }

/-- Takes a scratch folder away with all that is in it, or the link that stands in its place. -/
def removeScratch (captures : Captures) (host : Host) : Host :=
  match host.tree.locate host.working false captures.folder with
  | .ok (.present location .folder) | .ok (.present location (.link _)) =>
    host.withTree (host.tree.removeBelow location)
  | _ => host

/-- Runs a command to its end, or to its time limit. Only a command that cannot be set up, started or
read back is a failure. -/
def launchWith (programs : Programs) (launcher : Launcher) (line : CommandLine) :
    Action Host Output := do
  let captures ← launcher.createScratch
  ExceptT.mk fun host =>
    let (result, after) := (runWithin programs launcher line captures).run.run host
    (result, removeScratch captures after)

def launch (launcher : Launcher) : CommandLine → Action Host Output :=
  launcher.launchWith Utility.programs

end Launcher

end Assay
