import Assay.Results

/-!
The comparison table: for each case which analyzers passed it, and why the subject failed. The
cases that the subject passed come first.
-/

namespace Assay.Table

structure Row where
  key : String
  reference : Bool
  abstractInterpreter : Bool
  subject : Bool
  reason : Reason
deriving DecidableEq, Repr

def keyChar (c : Char) : List Char :=
  if c = '_' then ['\\', '_'] else if c = '/' then [' '] else [c]

def escapeKey (id : String) : String := String.ofList (id.toList.flatMap keyChar)

/-- An analyzer that did not run on the case did not pass it. -/
def Row.ofCase (id : String) (result : CaseResult) : Row :=
  { key := escapeKey id, reference := CaseResult.passed result .reference,
    abstractInterpreter := CaseResult.passed result .abstractInterpreter,
    subject := CaseResult.passed result .subject,
    reason := ((result.get? .subject).map Verdict.reason).getD .nothing }

def Row.render (row : Row) : String :=
  s!"{row.key} & {row.reference} & {row.abstractInterpreter} & {row.subject} & "
    ++ row.reason.shown ++ " \\\\\n\\hline\n"

def rows (results : Results) : List Row :=
  let all := results.cases.entries.map fun (id, result) => Row.ofCase id result
  all.filter (·.subject) ++ all.filter fun row => !row.subject

def render (results : Results) : String := String.join ((rows results).map Row.render)

end Assay.Table
