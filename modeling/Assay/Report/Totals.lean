import Assay.Results
import Assay.Decimal.Binary64

/-!
Totals of a campaign: for each analyzer how many cases it ran on, how many it passed, why it
failed the others, and how long it took.
-/

namespace Assay

structure ToolTotals where
  runtime : Duration := .zero
  passed : Nat := 0
  total : Nat := 0
  failures : OrderedMap Reason Nat := .empty
deriving DecidableEq, Inhabited

structure Totals where
  cases : Nat := 0
  tools : OrderedMap Kind ToolTotals := .empty
deriving DecidableEq

namespace ToolTotals

def add (totals : ToolTotals) (verdict : Verdict) : Except Failure ToolTotals :=
  match totals.runtime.add? verdict.time with
  | none => .error .timeOverflow
  | some runtime =>
    let counted := { totals with runtime, total := totals.total + 1 }
    .ok <|
      if verdict.success then { counted with passed := counted.passed + 1 }
      else
        let before := (counted.failures.get? verdict.reason).getD 0
        { counted with failures := counted.failures.insert verdict.reason (before + 1) }

def passRate (totals : ToolTotals) : Binary64 :=
  if totals.total = 0 then Binary64.ofNat 0
  else (Binary64.ofNat totals.passed).div (Binary64.ofNat totals.total)

def toJson (totals : ToolTotals) : Json :=
  .object [("total_runtime", totals.runtime.toJson), ("passed", .ofNat totals.passed),
    ("total", .ofNat totals.total),
    ("failure_reasons",
      .object (totals.failures.entries.map fun (reason, count) => (reason.name, .ofNat count)))]

structure Draft where
  runtime : Option Duration := none
  passed : Option Nat := none
  total : Option Nat := none
  failures : Option (OrderedMap Reason Nat) := none

open Json.Reader in
def record : Json.Reader.Record Draft ToolTotals where
  name := "ToolSummary"
  fields := [
    ⟨"total_runtime", fun draft depth item => do
      return { draft with runtime := ← seconds depth item }⟩,
    ⟨"passed", fun draft depth item => do return { draft with passed := ← count depth item }⟩,
    ⟨"total", fun draft depth item => do return { draft with total := ← count depth item }⟩,
    ⟨"failure_reasons", fun draft depth item => do
      return { draft with failures := ← mapOf Reason.ofFieldName count depth item }⟩]
  start := {}
  make draft := do
    let runtime ← required "total_runtime" draft.runtime
    let passed ← required "passed" draft.passed
    let total ← required "total" draft.total
    let failures ← required "failure_reasons" draft.failures
    return { runtime, passed, total, failures }

def reader : Json.Reader ToolTotals := record.reader

def shown (kind : Kind) (totals : ToolTotals) : String :=
  let percent := Decimal.withPlaces 1 (totals.passRate.mul (Binary64.ofNat 100))
  let elapsed := Decimal.withPlaces 2 totals.runtime.toBinary
  let reasons := totals.failures.entries.map fun (reason, count) => s!", {count} {reason.shown}"
  s!"{kind.name}: {totals.passed}/{totals.total} passed ({percent}%) in {elapsed}s"
    ++ String.join reasons ++ "\n"

end ToolTotals

namespace Totals

def start (tools : List Kind) : OrderedMap Kind ToolTotals :=
  tools.foldl (fun map kind => map.insert kind {}) .empty

def addVerdict (map : OrderedMap Kind ToolTotals) (entry : Kind × Verdict) :
    Except Failure (OrderedMap Kind ToolTotals) := do
  let counted ← ((map.get? entry.1).getD {}).add entry.2
  return map.insert entry.1 counted

def addCase (map : OrderedMap Kind ToolTotals) (result : CaseResult) :
    Except Failure (OrderedMap Kind ToolTotals) :=
  result.entries.foldlM addVerdict map

def ofResults (results : Results) : Except Failure Totals := do
  let tools ← results.cases.values.foldlM addCase (start results.tools)
  return { cases := results.cases.size, tools }

def shown (totals : Totals) : String :=
  String.join (totals.tools.entries.map fun (kind, tool) => tool.shown kind)

def toJson (totals : Totals) : Json :=
  .object [("total_tests", .ofNat totals.cases),
    ("tools", .object (totals.tools.entries.map fun (kind, tool) => (kind.name, tool.toJson)))]

structure Draft where
  cases : Option Nat := none
  tools : Option (OrderedMap Kind ToolTotals) := none

open Json.Reader in
def record : Json.Reader.Record Draft Totals where
  name := "Summary"
  fields := [
    ⟨"total_tests", fun draft depth item => do return { draft with cases := ← count depth item }⟩,
    ⟨"tools", fun draft depth item => do
      return { draft with tools := ← mapOf Kind.ofFieldName ToolTotals.reader depth item }⟩]
  start := {}
  make draft := do
    let cases ← required "total_tests" draft.cases
    let tools ← required "tools" draft.tools
    return { cases, tools }

def reader : Json.Reader Totals := record.reader

end Totals

end Assay
