import Assay.Analyzer.Run
import Assay.Failure

/-!
The verdict on one analyzer and one case. Every variant of a case is labelled: an analyzer must be
silent on a clean one and must report something on a flagged one. A report on a clean variant
weighs more than silence on a flagged one.
-/

namespace Assay

inductive Expectation
  | clean
  | flagged
deriving DecidableEq, Repr, Inhabited

namespace Expectation

def known : List (String × Expectation) := [("clean", clean), ("flagged", flagged)]

def name : Expectation → String
  | clean => "clean"
  | flagged => "flagged"

def toJson (expectation : Expectation) : Json := .text expectation.name

def reader : Json.Reader Expectation := Json.Reader.oneOf known

end Expectation

inductive Reason
  | nothing
  | falsePositive
  | falseNegative
deriving DecidableEq, Repr, Inhabited

namespace Reason

def rank : Reason → Nat
  | nothing => 0
  | falsePositive => 1
  | falseNegative => 2

instance : Ord Reason := ⟨compareOn rank⟩

instance : Std.TransOrd Reason := inferInstanceAs (Std.TransCmp (compareOn rank))

instance : Std.LawfulEqOrd Reason where
  compare_self := by intro reason; cases reason <;> rfl
  eq_of_compare := by intro left right; cases left <;> cases right <;> decide

def name : Reason → String
  | nothing => "none"
  | falsePositive => "false_positive"
  | falseNegative => "false_negative"

def shown : Reason → String
  | nothing => ""
  | falsePositive => "false positive"
  | falseNegative => "false negative"

def known : List (String × Reason) :=
  [nothing, falsePositive, falseNegative].map fun reason => (reason.name, reason)

def toJson (reason : Reason) : Json := .text reason.name

def reader : Json.Reader Reason := Json.Reader.oneOf known

def ofFieldName (name : String) : Except Json.Fault Reason := Json.Reader.choose known name

end Reason

def judge (clean flagged : List Run) : Reason :=
  if clean.any Run.reported then .falsePositive
  else if flagged.any fun run => !run.reported then .falseNegative
  else .nothing

def totalTime (runs : List Run) : Except Failure Duration :=
  match Duration.sum? (runs.map fun run => run.output.elapsed) with
  | some total => .ok total
  | none => .error .timeOverflow

structure Judgement where
  success : Bool
  reason : Reason
  time : Duration
deriving DecidableEq

def Judgement.ofRuns (clean flagged : List Run) : Except Failure Judgement := do
  let time ← totalTime (clean ++ flagged)
  let reason := judge clean flagged
  return { success := reason = .nothing, reason, time }

structure VariantRun where
  label : String
  expectation : Expectation
  run : Run
deriving DecidableEq

structure Verdict where
  success : Bool
  reason : Reason
  time : Duration
  runs : List VariantRun
deriving DecidableEq

namespace VariantRun

def toJson (variant : VariantRun) : Json :=
  .object [("variant", .text variant.label), ("expectation", variant.expectation.toJson),
    ("result", variant.run.toJson)]

structure Draft where
  label : Option String := none
  expectation : Option Expectation := none
  run : Option Run := none

open Json.Reader in
def record : Json.Reader.Record Draft VariantRun where
  name := "VariantRun"
  fields := [
    ⟨"variant", fun draft depth item => do return { draft with label := ← text depth item }⟩,
    ⟨"expectation", fun draft depth item => do
      return { draft with expectation := ← Expectation.reader depth item }⟩,
    ⟨"result", fun draft depth item => do return { draft with run := ← Run.reader depth item }⟩]
  start := {}
  make draft := do
    let label ← required "variant" draft.label
    let expectation ← required "expectation" draft.expectation
    let run ← required "result" draft.run
    return { label, expectation, run }

def reader : Json.Reader VariantRun := record.reader

end VariantRun

namespace Verdict

def runsOn (expectation : Expectation) (runs : List VariantRun) : List Run :=
  (runs.filter fun variant => variant.expectation = expectation).map VariantRun.run

def ofRuns (runs : List VariantRun) : Except Failure Verdict := do
  let judgement ← Judgement.ofRuns (runsOn .clean runs) (runsOn .flagged runs)
  return { success := judgement.success, reason := judgement.reason, time := judgement.time, runs }

def toJson (verdict : Verdict) : Json :=
  .object [("success", .bool verdict.success), ("failure_reason", verdict.reason.toJson),
    ("total_time", verdict.time.toJson), ("raw_results", .list (verdict.runs.map VariantRun.toJson))]

structure Draft where
  success : Option Bool := none
  reason : Option Reason := none
  time : Option Duration := none
  runs : Option (List VariantRun) := none

open Json.Reader in
def record : Json.Reader.Record Draft Verdict where
  name := "ToolVerdict"
  fields := [
    ⟨"success", fun draft depth item => do return { draft with success := ← bool depth item }⟩,
    ⟨"failure_reason", fun draft depth item => do
      return { draft with reason := ← Reason.reader depth item }⟩,
    ⟨"total_time", fun draft depth item => do return { draft with time := ← seconds depth item }⟩,
    ⟨"raw_results", fun draft depth item => do
      return { draft with runs := ← listOf VariantRun.reader depth item }⟩]
  start := {}
  make draft := do
    let success ← required "success" draft.success
    let reason ← required "failure_reason" draft.reason
    let time ← required "total_time" draft.time
    let runs ← required "raw_results" draft.runs
    return { success, reason, time, runs }

def reader : Json.Reader Verdict := record.reader

end Verdict

end Assay
