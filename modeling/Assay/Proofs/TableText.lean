import Assay.Report.Table
import Assay.Proofs.OrderedMap
import Assay.Proofs.Text.Order

/-!
The comparison table as a text. No separator of the format stands in an id, so the lines fall apart where
they were put together: what the table says of each case can be read back from its text alone.
-/

namespace Assay.Table

structure Line where
  id : String
  reference : Bool
  abstractInterpreter : Bool
  subject : Bool
  reason : Reason
deriving DecidableEq

def Line.ofCase (id : String) (result : CaseResult) : Line where
  id
  reference := (result.get? .reference).any Verdict.success
  abstractInterpreter := (result.get? .abstractInterpreter).any Verdict.success
  subject := (result.get? .subject).any Verdict.success
  reason := ((result.get? .subject).map Verdict.reason).getD .nothing

def Plain (id : String) : Prop := ∀ c ∈ id.toList, c ≠ ' ' ∧ c ≠ '&' ∧ c ≠ '\n'

instance (id : String) : Decidable (Plain id) := List.decidableBAll _ id.toList

def unescape : List Char → List Char
  | '\\' :: '_' :: rest => '_' :: unescape rest
  | ' ' :: rest => '/' :: unescape rest
  | c :: rest => c :: unescape rest
  | [] => []

def flagCell (flag : Bool) : List Char := (" " ++ toString flag ++ " ").toList

def flagCells : List (List Char × Bool) := [true, false].map fun flag => (flagCell flag, flag)

def reasonCell (reason : Reason) : List Char := (" " ++ reason.shown ++ " \\\\").toList

def reasonCells : List (List Char × Reason) :=
  [.nothing, .falsePositive, .falseNegative].map fun reason => (reasonCell reason, reason)

def readLine (text : List Char) : Option Line :=
  match text.splitOn '&' with
  | [key, reference, abstractInterpreter, subject, reason] => do
    return {
      id := String.ofList (unescape key.dropLast)
      reference := ← flagCells.lookup reference
      abstractInterpreter := ← flagCells.lookup abstractInterpreter
      subject := ← flagCells.lookup subject
      reason := ← reasonCells.lookup reason }
  | _ => none

def readLines : List (List Char) → Option (List Line)
  | [[]] => some []
  | text :: rule :: rest =>
    if rule = "\\hline".toList then do return (← readLine text) :: (← readLines rest) else none
  | _ => none

def readBack (text : String) : Option (List Line) := readLines (text.toList.splitOn '\n')

theorem escaped_ne_low (id behind : List Char) : id.flatMap keyChar ≠ '_' :: behind := by
  intro starts
  cases id with
  | nil => simp at starts
  | cons c rest =>
      rw [List.flatMap_cons, keyChar] at starts
      by_cases low : c = '_'
      · simp [low] at starts
      by_cases slash : c = '/'
      · simp [slash] at starts
      rw [if_neg low, if_neg slash] at starts
      exact low (List.cons.inj starts).1

theorem unescape_escape {id : List Char} (spaceless : ' ' ∉ id) :
    unescape (id.flatMap keyChar) = id := by
  induction id with
  | nil => rfl
  | cons c rest ih =>
      rw [List.mem_cons, not_or] at spaceless
      have later := ih spaceless.2
      rw [List.flatMap_cons]
      by_cases low : c = '_'
      · subst low
        exact congrArg ('_' :: ·) later
      by_cases slash : c = '/'
      · subst slash
        exact congrArg ('/' :: ·) later
      rw [keyChar, if_neg low, if_neg slash, List.singleton_append, unescape, later]
      -- A backslash of the id itself is never followed by a bare underscore.
      · exact fun behind _ => escaped_ne_low rest behind
      · exact fun space => spaceless.1 space.symm

theorem notMem_escaped {separator : Char} (other : separator ∉ ['\\', '_', ' ']) {id : List Char}
    (absent : separator ∉ id) : separator ∉ id.flatMap keyChar := by
  intro member
  obtain ⟨c, inside, here⟩ := List.mem_flatMap.mp member
  simp only [List.mem_cons, List.not_mem_nil, or_false, not_or] at other
  unfold keyChar at here
  split at here
  · simp [other] at here
  · split at here
    · simp [other] at here
    · rw [List.mem_singleton] at here
      exact absent (here ▸ inside)

def Line.row (line : Line) : Row where
  key := escapeKey line.id
  reference := line.reference
  abstractInterpreter := line.abstractInterpreter
  subject := line.subject
  reason := line.reason

theorem row_ofCase (id : String) (result : CaseResult) :
    (Line.ofCase id result).row = Row.ofCase id result := by
  have passed (kind : Kind) :
      (result.get? kind).any Verdict.success = CaseResult.passed result kind := by
    unfold CaseResult.passed
    cases result.get? kind <;> rfl
  simp only [Line.row, Line.ofCase, Row.ofCase, passed]

def Line.cells (line : Line) : List (List Char) :=
  [(escapeKey line.id).toList ++ [' '], flagCell line.reference, flagCell line.abstractInterpreter,
    flagCell line.subject, reasonCell line.reason]

theorem render_row (line : Line) :
    line.row.render.toList =
      ['&'].intercalate line.cells ++ '\n' :: ("\\hline".toList ++ ['\n']) := by
  simp [Row.render, Line.row, Line.cells, flagCell, reasonCell, List.intercalate_cons_cons,
    toString]

theorem lookup_flagCell (flag : Bool) : flagCells.lookup (flagCell flag) = some flag := by
  cases flag <;> decide

theorem lookup_reasonCell (reason : Reason) :
    reasonCells.lookup (reasonCell reason) = some reason := by
  cases reason <;> decide

theorem notMem_cells {line : Line} (plain : Plain line.id) {separator : Char}
    (separates : separator = '&' ∨ separator = '\n') : ∀ cell ∈ line.cells, separator ∉ cell := by
  have key : separator ∉ (escapeKey line.id).toList ++ [' '] := by
    rw [escapeKey, String.toList_ofList, List.mem_append, not_or]
    constructor
    · refine notMem_escaped ?_ fun member => ?_
      · rcases separates with rfl | rfl <;> decide
      · rcases separates with rfl | rfl
        · exact (plain _ member).2.1 rfl
        · exact (plain _ member).2.2 rfl
    · rcases separates with rfl | rfl <;> decide
  have flags (flag : Bool) : separator ∉ flagCell flag := by
    rcases separates with rfl | rfl <;> cases flag <;> decide
  have last : separator ∉ reasonCell line.reason := by
    rcases separates with rfl | rfl <;> cases line.reason <;> decide
  simp only [Line.cells, List.forall_mem_cons]
  exact ⟨key, flags _, flags _, flags _, last, by simp⟩

theorem readLine_cells {line : Line} (plain : Plain line.id) :
    readLine (['&'].intercalate line.cells) = some line := by
  have spaceless : ' ' ∉ line.id.toList := fun member => (plain _ member).1 rfl
  have key : String.ofList (unescape ((escapeKey line.id).toList ++ [' ']).dropLast) = line.id := by
    rw [List.dropLast_concat, escapeKey, String.toList_ofList, unescape_escape spaceless,
      String.ofList_toList]
  unfold readLine
  rw [List.splitOn_intercalate '&' (notMem_cells plain (Or.inl rfl)) (by simp [Line.cells])]
  simp only [Line.cells, lookup_flagCell, lookup_reasonCell, key]
  rfl

theorem newLine_notMem_line {line : Line} (plain : Plain line.id) :
    '\n' ∉ ['&'].intercalate line.cells := by
  have cells := notMem_cells plain (Or.inr rfl)
  have between : '\n' ∉ ['&'] := by decide
  simp only [Line.cells, List.forall_mem_cons] at cells
  obtain ⟨key, reference, interpreter, subject, reason, -⟩ := cells
  simp only [Line.cells, List.intercalate_cons_cons, List.intercalate_singleton]
  have joined {front back : List Char} (first : '\n' ∉ front) (last : '\n' ∉ back) :
      '\n' ∉ front ++ ['&'] ++ back := List.not_mem_append (List.not_mem_append first between) last
  exact joined key (joined reference (joined interpreter (joined subject reason)))

theorem readBack_lines {lines : List Line} (plain : ∀ line ∈ lines, Plain line.id) :
    readBack (String.join ((lines.map Line.row).map Row.render)) = some lines := by
  unfold readBack
  induction lines with
  | nil => rfl
  | cons line rest ih =>
      rw [List.forall_mem_cons] at plain
      have rule : '\n' ∉ "\\hline".toList := by decide
      rw [List.map_cons, List.map_cons, String.join_cons, String.toList_append, render_row,
        List.append_assoc, List.cons_append, List.append_assoc, List.singleton_append,
        List.splitOn_append_cons_self_of_not_mem (newLine_notMem_line plain.1),
        List.splitOn_append_cons_self_of_not_mem rule, readLines, if_pos rfl, ih plain.2,
        readLine_cells plain.1]
      rfl

def linesOf (results : Results) : List Line :=
  results.cases.entries.map fun entry => Line.ofCase entry.1 entry.2

theorem rows_eq_lines (results : Results) :
    rows results =
      ((linesOf results).filter (·.subject) ++ (linesOf results).filter (!·.subject)).map
        Line.row := by
  have all : results.cases.entries.map (fun entry => Row.ofCase entry.1 entry.2) =
      (linesOf results).map Line.row := by
    rw [linesOf, List.map_map]
    exact List.map_congr_left fun entry _ => (row_ofCase entry.1 entry.2).symm
  rw [List.map_append]
  unfold rows
  simp only [all, List.filter_map]
  rfl

theorem linesOf_ordered (results : Results) :
    (linesOf results).Pairwise fun earlier later =>
      Text.bytes earlier.id < Text.bytes later.id := by
  refine List.pairwise_map.mpr (results.cases.ordered.imp fun {earlier later} before => ?_)
  exact Text.bytes_lt_of_lt (compareOfLessAndEq_eq_lt.mp before)

/-- The table gives back what it says of every case, each one once: first those that the subject passed
and then the others, both by increasing id. Keys give back their ids. -/
theorem readBack_render {results : Results} (plain : ∀ id ∈ results.cases.keys, Plain id) :
    ∃ passed others, readBack (render results) = some (passed ++ others) ∧
      (passed ++ others).Perm
        (results.cases.entries.map fun entry => Line.ofCase entry.1 entry.2) ∧
      (∀ line ∈ passed, line.subject = true) ∧ (∀ line ∈ others, line.subject = false) ∧
      passed.Pairwise (fun earlier later => Text.bytes earlier.id < Text.bytes later.id) ∧
      others.Pairwise (fun earlier later => Text.bytes earlier.id < Text.bytes later.id) ∧
      ∀ id ∈ results.cases.keys, unescape (escapeKey id).toList = id.toList := by
  have perm := List.filter_append_perm Line.subject (linesOf results)
  refine ⟨(linesOf results).filter (·.subject), (linesOf results).filter (!·.subject), ?_, perm,
    ?_, ?_, (linesOf_ordered results).filter _, (linesOf_ordered results).filter _, ?_⟩
  · rw [render, rows_eq_lines]
    apply readBack_lines
    intro line member
    obtain ⟨entry, inside, rfl⟩ := List.mem_map.mp (perm.subset member)
    exact plain entry.1 (List.mem_map_of_mem inside)
  · intro line member
    exact (List.mem_filter.mp member).2
  · intro line member
    simpa using (List.mem_filter.mp member).2
  · intro id member
    rw [escapeKey, String.toList_ofList]
    exact unescape_escape fun space => (plain id member _ space).1 rfl

/-- Ids with all that has to be escaped, one case without a run of the subject, and verdicts whose reasons
do not fit. -/
def oddTable : Results where
  cases := .ofList [
    ("m/x_\\_1.c", .ofList [(.reference, ⟨true, .falsePositive, .ofSeconds 2, []⟩)]),
    ("\\hline", .ofList [(.subject, ⟨false, .nothing, .ofSeconds 5, []⟩)]),
    ("", .ofList [(.abstractInterpreter, ⟨false, .falseNegative, .ofSeconds 1, []⟩),
      (.subject, ⟨true, .falseNegative, .ofSeconds 1, []⟩)])]

theorem readBack_render_odd :
    (∀ id ∈ oddTable.cases.keys, Plain id) ∧
      ∃ passed others, readBack (render oddTable) = some (passed ++ others) ∧
        passed ++ others = [⟨"", false, false, true, .falseNegative⟩,
          ⟨"\\hline", false, false, false, .nothing⟩,
          ⟨"m/x_\\_1.c", true, false, false, .nothing⟩] ∧
        (∀ line ∈ passed, line.subject = true) ∧ ∀ line ∈ others, line.subject = false := by
  have plain : ∀ id ∈ oddTable.cases.keys, Plain id := by decide
  have lines : (linesOf oddTable).filter (·.subject) ++ (linesOf oddTable).filter (!·.subject) =
      [⟨"", false, false, true, .falseNegative⟩, ⟨"\\hline", false, false, false, .nothing⟩,
        ⟨"m/x_\\_1.c", true, false, false, .nothing⟩] := rfl
  obtain ⟨passed, others, read, -, success, failure, -, -, -⟩ := readBack_render plain
  have same := read
  rw [render, rows_eq_lines, lines, readBack_lines] at same
  · exact ⟨plain, passed, others, read, (Option.some.inj same).symm, success, failure⟩
  · decide

end Assay.Table
