import Assay.Report.Totals
import Assay.Report.Table
import Assay.Surroundings

/-!
Writing reports. A report has three files, the details, the totals and the table, and is written
at most once under each name. A name counts as written only when all three files are.
-/

namespace Assay.Report

structure Files where
  details : Path
  totals : Path
  table : Path
deriving DecidableEq, Repr

def Files.named (folder : Path) (name : String) : Files where
  details := folder / ⟨name ++ "_results.json"⟩
  totals := folder / ⟨name ++ "_results_summary.json"⟩
  table := folder / ⟨name ++ "_results_table.tex"⟩

/-- The texts of a report, each with its file, in the order in which they are written. -/
def Files.contents (files : Files) (results : Results) (totals : Totals) : List (Path × String) :=
  [(files.details, (Results.casesToJson results.cases).long), (files.totals, totals.toJson.long),
    (files.table, Table.render results)]

structure Writer where
  folder : Path
  written : List String := []
deriving DecidableEq

structure Published where
  totals : Totals
  files : Files

variable {σ : Type} [Surroundings σ]

def writeFile (file : Path) (content : String) : Action σ Unit :=
  Action.onFiles ("writing " ++ file.text) (Surroundings.writeText file content)

def writeAll (contents : List (Path × String)) : Action σ Unit :=
  contents.forM fun (file, content) => writeFile file content

def Writer.enter (writer : Writer) (name : String) : Writer :=
  { writer with written := name :: writer.written }

structure Desk (σ : Type) where
  world : σ
  writer : Writer

namespace Desk

def outside {α : Type} (action : Action σ α) : Action (Desk σ) α :=
  ExceptT.mk fun desk =>
    let (result, world) := action.run.run desk.world
    (result, { desk with world })

def lend {α : Type} (writer : Writer) (action : Action (Desk σ) α) : Action σ (α × Writer) :=
  ExceptT.mk fun world =>
    let (result, desk) := action.run.run { world, writer }
    (result.map fun value => (value, desk.writer), desk.world)

/-- Writes the three files of a report. The name is entered once all of them are written. -/
def publishNew (name : String) (results : Results) : Action (Desk σ) Published := do
  let { writer := { folder, .. }, .. } ← get
  outside (Action.onFiles ("creating " ++ folder.text) (Surroundings.createFolder folder))
  let files := Files.named folder name
  let totals ← Action.ofExcept (Totals.ofResults results)
  outside (writeAll (files.contents results totals))
  modify fun desk => { desk with writer := desk.writer.enter name }
  return { totals, files }

def publish (name : String) (results : Results) : Action (Desk σ) Published := do
  if name ∈ (← get).writer.written then throw (.duplicateReport name)
  publishNew name results

end Desk

def Writer.write (writer : Writer) (name : String) (results : Results) :
    Action σ (Published × Writer) :=
  Desk.lend writer (Desk.publish name results)

end Assay.Report
