import Assay.Verdict

/-!
Results of a campaign: the verdict of every analyzer on every case.
-/

namespace Assay

abbrev CaseResult := OrderedMap Kind Verdict

namespace CaseResult

def passed (result : CaseResult) (kind : Kind) : Bool :=
  match result.get? kind with
  | some verdict => verdict.success
  | none => false

def toJson (result : CaseResult) : Json :=
  .object (result.entries.map fun (kind, verdict) => (kind.name, verdict.toJson))

def reader : Json.Reader CaseResult := Json.Reader.mapOf Kind.ofFieldName Verdict.reader

end CaseResult

structure Results where
  tools : List Kind := []
  cases : OrderedMap String CaseResult := .empty

namespace Results

def casesToJson (cases : OrderedMap String CaseResult) : Json :=
  .object (cases.entries.map fun (id, result) => (id, CaseResult.toJson result))

def casesReader : Json.Reader (OrderedMap String CaseResult) :=
  Json.Reader.mapOf (fun id => .ok id) CaseResult.reader

end Results

end Assay
