import Assay.Campaign
import Assay.Report.Writer

/-!
Suites from their folders to their reports.
-/

namespace Assay

structure SuiteOutcome where
  name : String
  results : Results
  totals : Totals
  files : Report.Files

def SuiteOutcome.shown (outcome : SuiteOutcome) : String :=
  s!"{outcome.name} ({outcome.totals.cases} cases)\n" ++ outcome.totals.shown

variable {σ : Type} [Surroundings σ]

def Suite.discover (suite : Suite) (state : σ) : Except Failure (List Case) :=
  suite.layout.discover (Surroundings.tree state) (Surroundings.working state) suite.groups

namespace Suite

def analyze (analyzers : List (Analyzer σ)) (suite : Suite) : Action σ Results := do
  Campaign.run analyzers (← Action.look suite.discover)

def publish (analyzers : List (Analyzer σ)) (suite : Suite) :
    Action (Report.Desk σ) SuiteOutcome := do
  let results ← Report.Desk.outside (suite.analyze analyzers)
  let { totals, files } ← Report.Desk.publish suite.name results
  return { name := suite.name, results, totals, files }

def run (analyzers : List (Analyzer σ)) (writer : Report.Writer) (suite : Suite) :
    Action σ (SuiteOutcome × Report.Writer) :=
  Report.Desk.lend writer (suite.publish analyzers)

end Suite

end Assay
