import Assay.Analyzer.Basic
import Assay.Corpus.Case
import Assay.Results

/-!
Campaigns: every analyzer on every case. A pair of a case and an analyzer is a unit; units do not
depend on each other, and the results do not depend on the order in which they run.
-/

namespace Assay

variable {σ : Type} [Surroundings σ]

def checkInputs (case : Case) (state : σ) : Except Failure Unit :=
  case.checkInputs ((Surroundings.tree state).isFile (Surroundings.working state))

def Analyzer.trial (analyzer : Analyzer σ) (case : Case) : Action σ Verdict := do
  let runs ← case.variants.mapM fun variant => do
    let run ← analyzer.analyze variant.options variant.file
    return { label := variant.label, expectation := variant.expectation, run }
  Action.ofExcept (Verdict.ofRuns runs)

def runCase (analyzers : List (Analyzer σ)) (case : Case) : Action σ CaseResult := do
  Action.look (checkInputs case)
  analyzers.foldlM (fun result analyzer => do
    return result.insert analyzer.kind (← analyzer.trial case)) OrderedMap.empty

namespace Campaign

structure Work (σ : Type) where
  case : Case
  analyzer : Analyzer σ

def units (analyzers : List (Analyzer σ)) (cases : List Case) : List (Work σ) :=
  cases.flatMap fun case => analyzers.map fun analyzer => { case, analyzer }

def runUnits (work : List (Work σ)) (order : List Nat) : Action σ (List (Nat × Verdict)) :=
  (order.filterMap fun position => work[position]?.map (position, ·)).mapM fun (position, unit) => do
    return (position, ← unit.analyzer.trial unit.case)

structure Finding where
  id : String
  kind : Kind
  verdict : Verdict

/-- The verdicts in the order of their units, in whatever order they were reached. -/
def findings (work : List (Work σ)) (verdicts : List (Nat × Verdict)) : List Finding :=
  work.zipIdx.filterMap fun (unit, position) =>
    (verdicts.lookup position).map fun verdict =>
      { id := unit.case.id, kind := unit.analyzer.kind, verdict }

/-- Enters a verdict; an earlier one for the same case and analyzer is replaced. -/
def enter (cases : OrderedMap String CaseResult) (finding : Finding) :
    OrderedMap String CaseResult :=
  cases.insert finding.id
    (((cases.get? finding.id).getD OrderedMap.empty).insert finding.kind finding.verdict)

def checkAll (analyzers : List (Analyzer σ)) (cases : List Case) (state : σ) :
    Except Failure Unit := do
  analyzers.forM fun analyzer => analyzer.validate state
  cases.forM fun case => checkInputs case state

def runIn (order : List Nat) (analyzers : List (Analyzer σ)) (cases : List Case) :
    Action σ Results := do
  Action.look (checkAll analyzers cases)
  let work := units analyzers cases
  let verdicts ← runUnits work order
  return { tools := analyzers.map Analyzer.kind,
           cases := (findings work verdicts).foldl enter OrderedMap.empty }

def run (analyzers : List (Analyzer σ)) (cases : List Case) : Action σ Results :=
  runIn (List.range (units analyzers cases).length) analyzers cases

def workers (processors : Nat) (jobs : Option UInt64) : Nat :=
  max 1 (min processors ((jobs.map UInt64.toNat).getD processors))

end Campaign

end Assay
