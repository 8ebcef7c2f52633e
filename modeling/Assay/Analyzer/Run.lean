import Assay.Diagnostics
import Assay.Json.Reader

/-!
One run of an analyzer: what it wrote, how it ended, and the diagnostics read from that.
-/

namespace Assay

/-- What a command left behind. A command ended by a signal has no exit code. -/
structure Output where
  stdout : String := ""
  stderr : String := ""
  exitCode : Option Int32 := none
  elapsed : Duration := .zero
  timedOut : Bool := false
deriving DecidableEq

def Output.succeeded (output : Output) : Bool :=
  !output.timedOut && output.exitCode = some 0

structure Run where
  output : Output := {}
  diagnostics : Diagnostics := {}
deriving DecidableEq, Inhabited

/-- Seconds as a number: whole seconds and the rest are rounded apart, then their sum. -/
def Duration.toBinary (span : Duration) : Binary64 :=
  (Binary64.ofNat span.seconds).add (Binary64.ofRatio false span.subsecond nanosPerSecond)

def Duration.toJson (span : Duration) : Json := .ofBinary span.toBinary

namespace Run

/-- A run that exceeded its limit keeps what it wrote, but reports nothing. -/
def ofOutput (output : Output) (diagnostics : Diagnostics) : Run :=
  { output, diagnostics := if output.timedOut then {} else diagnostics }

def reported (run : Run) : Bool := run.diagnostics.reported

def toJson (run : Run) : Json :=
  .object [("stdout", .text run.output.stdout), ("stderr", .text run.output.stderr),
    ("exit_code", match run.output.exitCode with | some code => .ofInt code.toInt | none => .null),
    ("error_count", .ofNat run.diagnostics.errors.toNat),
    ("warning_count", .ofNat run.diagnostics.warnings.toNat),
    ("elapsed_time", run.output.elapsed.toJson), ("timed_out", .bool run.output.timedOut),
    ("summary_found", .bool run.diagnostics.found)]

structure Draft where
  stdout : Option String := none
  stderr : Option String := none
  exitCode : Option Int32 := none
  errors : Option UInt32 := none
  warnings : Option UInt32 := none
  elapsed : Option Duration := none
  timedOut : Option Bool := none
  found : Option Bool := none

open Json.Reader in
def record : Json.Reader.Record Draft Run where
  name := "ToolRunResult"
  fields := [
    ⟨"stdout", fun draft depth item => do return { draft with stdout := ← text depth item }⟩,
    ⟨"stderr", fun draft depth item => do return { draft with stderr := ← text depth item }⟩,
    ⟨"exit_code", fun draft depth item => do
      return { draft with exitCode := ← optional int32 depth item }⟩,
    ⟨"error_count", fun draft depth item => do return { draft with errors := ← uint32 depth item }⟩,
    ⟨"warning_count", fun draft depth item => do
      return { draft with warnings := ← uint32 depth item }⟩,
    ⟨"elapsed_time", fun draft depth item => do
      return { draft with elapsed := ← seconds depth item }⟩,
    ⟨"timed_out", fun draft depth item => do return { draft with timedOut := ← bool depth item }⟩,
    ⟨"summary_found", fun draft depth item => do return { draft with found := ← bool depth item }⟩]
  start := {}
  make draft := do
    let stdout ← required "stdout" draft.stdout
    let stderr ← required "stderr" draft.stderr
    let errors ← required "error_count" draft.errors
    let warnings ← required "warning_count" draft.warnings
    let elapsed ← required "elapsed_time" draft.elapsed
    let timedOut ← required "timed_out" draft.timedOut
    let found ← required "summary_found" draft.found
    return { output := { stdout, stderr, exitCode := draft.exitCode, elapsed, timedOut },
             diagnostics := { errors, warnings, found } }

def reader : Json.Reader Run := record.reader

end Run

end Assay
