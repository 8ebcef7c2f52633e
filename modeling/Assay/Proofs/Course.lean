import Assay.Proofs.Batch
import Assay.Proofs.Trial

/-!
The course of a campaign whose analyzers may answer differently every time. Every verdict in the
results is that of one unit, judged from its own runs, and for an id and an analyzer it is the one
of the last case with that id.
-/

namespace Assay

variable {σ : Type}

namespace Verdict

def Judged (verdict : Verdict) : Prop := ofRuns verdict.runs = .ok verdict

theorem runs_of_ofRuns {runs : List VariantRun} {verdict : Verdict}
    (given : ofRuns runs = .ok verdict) : verdict.runs = runs := by
  rw [ofRuns_eq] at given
  split at given
  · obtain rfl := Except.ok.inj given
    rfl
  · simp at given

theorem judged_of_ofRuns {runs : List VariantRun} {verdict : Verdict}
    (given : ofRuns runs = .ok verdict) : verdict.Judged := by
  rw [Judged, runs_of_ofRuns given, given]

theorem Judged.eq_ofTimedRuns {verdict : Verdict} (judged : verdict.Judged) :
    verdict = ofTimedRuns verdict.runs verdict.time ∧
      verdict.time.nanos =
        Duration.totalNanos (verdict.runs.map fun variant => variant.run.output.elapsed) := by
  rw [Judged, ofRuns_eq] at judged
  split at judged
  · next time timed =>
      have whole := Except.ok.inj judged
      have sameTime : verdict.time = time := by rw [← whole]; rfl
      rw [sameTime]
      refine ⟨whole.symm, ?_⟩
      unfold Duration.ofNanos? at timed
      split at timed
      · rw [← Option.some.inj timed]
      · simp at timed
  · simp at judged

def succeeds (runs : List VariantRun) : Bool :=
  judge (runsOn .clean runs) (runsOn .flagged runs) = .nothing

theorem Judged.success_eq {verdict : Verdict} (judged : verdict.Judged) :
    verdict.success = succeeds verdict.runs :=
  congrArg Verdict.success judged.eq_ofTimedRuns.1

theorem Judged.failed_reason {verdict : Verdict} (judged : verdict.Judged)
    (failed : verdict.success = false) : verdict.reason ≠ .nothing := by
  rw [judged.eq_ofTimedRuns.1] at failed ⊢
  simpa [ofTimedRuns] using failed

end Verdict

theorem Analyzer.trial_judged {analyzer : Analyzer σ} {case : Case} {state after : σ}
    {verdict : Verdict} (given : (analyzer.trial case).outcome state = (.ok verdict, after)) :
    verdict.Judged := by
  obtain ⟨runs, middle, _, given⟩ := Action.outcome_bind_eq_ok given
  rw [Action.outcome_ofExcept, Prod.mk.injEq] at given
  exact Verdict.judged_of_ofRuns given.1

namespace Campaign

theorem runUnits_reached {work : List (Work σ)} {order : List Nat} {state after : σ}
    {verdicts : List (Nat × Verdict)}
    (given : (runUnits work order).outcome state = (.ok verdicts, after)) :
    ∀ entry ∈ verdicts, ∃ unit, work[entry.1]? = some unit ∧ ∃ before behind,
      (unit.analyzer.trial unit.case).outcome before = (.ok entry.2, behind) := by
  intro entry member
  obtain ⟨numbered, listed, before, behind, reached⟩ := Action.mapM_reached given entry member
  obtain ⟨verdict, middle, tried, ended⟩ := Action.outcome_bind_eq_ok reached
  obtain ⟨rfl, -⟩ := Action.outcome_pure_eq_ok ended
  exact ⟨numbered.2, (mem_picked.mp listed).2, before, middle, tried⟩

theorem runUnits_judged {work : List (Work σ)} {order : List Nat} {state after : σ}
    {verdicts : List (Nat × Verdict)}
    (given : (runUnits work order).outcome state = (.ok verdicts, after)) :
    ∀ entry ∈ verdicts, entry.2.Judged := by
  intro entry member
  obtain ⟨unit, -, before, behind, tried⟩ := runUnits_reached given entry member
  exact Analyzer.trial_judged tried

def stored? (cases : OrderedMap String CaseResult) (id : String) (kind : Kind) : Option Verdict :=
  (cases.get? id).bind fun result => result.get? kind

theorem stored?_enter (cases : OrderedMap String CaseResult) (finding : Finding) (id : String)
    (kind : Kind) :
    stored? (enter cases finding) id kind =
      if id = finding.id ∧ kind = finding.kind then some finding.verdict
      else stored? cases id kind := by
  unfold stored? enter
  by_cases sameId : id = finding.id
  · subst sameId
    rw [OrderedMap.get?_insert_self, Option.bind_some]
    by_cases sameKind : kind = finding.kind
    · subst sameKind
      simp
    · rw [OrderedMap.get?_insert_of_ne _ _ sameKind, if_neg fun both => sameKind both.2]
      cases cases.get? finding.id <;> rfl
  · rw [OrderedMap.get?_insert_of_ne _ _ sameId, if_neg fun both => sameId both.1]

theorem stored?_foldl_enter {found : List Finding} {start : OrderedMap String CaseResult}
    {id : String} {kind : Kind}
    (elsewhere : ∀ finding ∈ found, ¬ (id = finding.id ∧ kind = finding.kind)) :
    stored? (found.foldl enter start) id kind = stored? start id kind := by
  induction found generalizing start with
  | nil => rfl
  | cons finding rest ih =>
      rw [List.forall_mem_cons] at elsewhere
      rw [List.foldl_cons, ih elsewhere.2, stored?_enter, if_neg elsewhere.1]

theorem stored?_foldl_enter_last {before after : List Finding} {finding : Finding}
    (last : ∀ later ∈ after, ¬ (finding.id = later.id ∧ finding.kind = later.kind))
    (start : OrderedMap String CaseResult) :
    stored? ((before ++ finding :: after).foldl enter start) finding.id finding.kind =
      some finding.verdict := by
  rw [List.foldl_append, List.foldl_cons, stored?_foldl_enter last, stored?_enter,
    if_pos ⟨rfl, rfl⟩]

theorem mem_of_stored?_foldl_enter {found : List Finding} {start : OrderedMap String CaseResult}
    {id : String} {kind : Kind} {verdict : Verdict}
    (given : stored? (found.foldl enter start) id kind = some verdict) :
    stored? start id kind = some verdict ∨ { id, kind, verdict } ∈ found := by
  induction found generalizing start with
  | nil => exact Or.inl given
  | cons finding rest ih =>
      rcases ih given with entered | later
      · rw [stored?_enter] at entered
        split at entered
        · next same =>
            obtain ⟨rfl, rfl⟩ := same
            obtain rfl := Option.some.inj entered
            exact Or.inr List.mem_cons_self
        · exact Or.inl entered
      · exact Or.inr (List.mem_cons_of_mem _ later)

theorem mem_findings {work : List (Work σ)} {verdicts : List (Nat × Verdict)} {finding : Finding}
    (member : finding ∈ findings work verdicts) :
    (∃ unit ∈ work, finding.id = unit.case.id ∧ finding.kind = unit.analyzer.kind) ∧
      ∃ position, (position, finding.verdict) ∈ verdicts := by
  obtain ⟨⟨unit, position⟩, listed, found⟩ := List.mem_filterMap.mp member
  obtain ⟨verdict, reached, rfl⟩ := Option.map_eq_some_iff.mp found
  obtain ⟨front, back, rfl, -⟩ := List.lookup_eq_some_iff.mp reached
  exact ⟨⟨unit, List.fst_mem_of_mem_zipIdx listed, rfl, rfl⟩, position, by simp⟩

theorem findings_split {earlier later : List (Work σ)} {unit : Work σ}
    {verdicts : List (Nat × Verdict)} {verdict : Verdict}
    (reached : verdicts.lookup earlier.length = some verdict) :
    ∃ before after, findings (earlier ++ unit :: later) verdicts =
        before ++ { id := unit.case.id, kind := unit.analyzer.kind, verdict } :: after ∧
      ∀ finding ∈ after, ∃ other ∈ later,
        finding.id = other.case.id ∧ finding.kind = other.analyzer.kind := by
  unfold findings
  rw [List.zipIdx_append, List.zipIdx_cons, List.filterMap_append, List.filterMap_cons,
    Nat.zero_add]
  simp only [reached, Option.map_some]
  refine ⟨_, _, rfl, fun finding member => ?_⟩
  obtain ⟨⟨other, position⟩, listed, found⟩ := List.mem_filterMap.mp member
  obtain ⟨_, -, rfl⟩ := Option.map_eq_some_iff.mp found
  exact ⟨other, List.fst_mem_of_mem_zipIdx listed, rfl, rfl⟩

def lastPlace? (id : String) : List Case → Option Nat
  | [] => none
  | case :: rest =>
    match lastPlace? id rest with
    | some place => some (place + 1)
    | none => if case.id = id then some 0 else none

/-- The verdict that was reached on the last case with an id, in one column of the units. -/
def lastVerdict? (cases : List Case) (columns : Nat) (verdicts : List (Nat × Verdict))
    (column : Nat) (id : String) : Option Verdict :=
  (lastPlace? id cases).bind fun row => verdicts.lookup (row * columns + column)

theorem lastPlace?_eq_none {id : String} {cases : List Case}
    (absent : ∀ case ∈ cases, case.id ≠ id) : lastPlace? id cases = none := by
  induction cases with
  | nil => rfl
  | cons case rest ih =>
      rw [List.forall_mem_cons] at absent
      rw [lastPlace?, ih absent.2]
      exact if_neg absent.1

theorem lastPlace?_split {before after : List Case} {case : Case}
    (last : ∀ later ∈ after, later.id ≠ case.id) :
    lastPlace? case.id (before ++ case :: after) = some before.length := by
  induction before with
  | nil => simp [lastPlace?, lastPlace?_eq_none last]
  | cons earlier rest ih =>
      rw [List.cons_append, lastPlace?, ih]
      rfl

theorem exists_last {id : String} {cases : List Case} (listed : id ∈ cases.map Case.id) :
    ∃ before case after, cases = before ++ case :: after ∧ case.id = id ∧
      ∀ later ∈ after, later.id ≠ case.id := by
  induction cases with
  | nil => simp at listed
  | cons case rest ih =>
      by_cases again : id ∈ rest.map Case.id
      · obtain ⟨before, last, after, rfl, same, final⟩ := ih again
        exact ⟨case :: before, last, after, rfl, same, final⟩
      · have here : case.id = id := by
          rw [List.map_cons, List.mem_cons] at listed
          exact (listed.resolve_right again).symm
        refine ⟨[], case, rest, rfl, here, fun later member equal => again ?_⟩
        exact List.mem_map.mpr ⟨later, member, equal.trans here⟩

theorem length_units (analyzers : List (Analyzer σ)) (cases : List Case) :
    (units analyzers cases).length = cases.length * analyzers.length := by
  simp [units]

theorem lookup_verdicts {work : List (Work σ)} {order : List Nat} {state after : σ}
    {verdicts : List (Nat × Verdict)} (complete : Complete order work)
    (given : (runUnits work order).outcome state = (.ok verdicts, after)) {position : Nat}
    (inside : position < work.length) : ∃ verdict, verdicts.lookup position = some verdict := by
  have covered := runUnits_covers complete given position inside
  obtain ⟨entry, listed, rfl⟩ := List.mem_map.mp covered
  refine Option.ne_none_iff_exists'.mp fun none => ?_
  have absent := List.lookup_eq_none_iff.mp none entry listed
  simp at absent

theorem stored?_last {front back : List (Analyzer σ)} {analyzer : Analyzer σ}
    {before behind : List Case} {case : Case} {order : List Nat} {state after : σ}
    {verdicts : List (Nat × Verdict)}
    (different : ((front ++ analyzer :: back).map Analyzer.kind).Nodup)
    (last : ∀ later ∈ behind, later.id ≠ case.id)
    (complete : Complete order (units (front ++ analyzer :: back) (before ++ case :: behind)))
    (given : (runUnits (units (front ++ analyzer :: back) (before ++ case :: behind)) order).outcome
      state = (.ok verdicts, after)) :
    ∃ verdict,
      stored? (resultsOf (front ++ analyzer :: back) (before ++ case :: behind) verdicts).cases
        case.id analyzer.kind = some verdict ∧
      lastVerdict? (before ++ case :: behind) (front ++ analyzer :: back).length verdicts
        front.length case.id = some verdict ∧
      ∃ start stop, (analyzer.trial case).outcome start = (.ok verdict, stop) := by
  have split := @units_split σ before behind case front back analyzer
  generalize inFront : units (front ++ analyzer :: back) before ++
    front.map (fun other => ⟨case, other⟩) = earlier at split
  generalize behindIt : back.map (fun other => ⟨case, other⟩) ++
    units (front ++ analyzer :: back) behind = later at split
  have position : earlier.length =
      before.length * (front ++ analyzer :: back).length + front.length := by
    rw [← inFront, List.length_append, length_units, List.length_map]
  rw [split] at complete given
  obtain ⟨verdict, found⟩ : ∃ verdict, verdicts.lookup earlier.length = some verdict :=
    lookup_verdicts complete given (by simp)
  refine ⟨verdict, ?_, ?_, ?_⟩
  · obtain ⟨first, rest, whole, others⟩ :=
      @findings_split σ earlier later ⟨case, analyzer⟩ verdicts verdict found
    rw [resultsOf, split, whole]
    refine stored?_foldl_enter_last (fun finding member same => ?_) _
    obtain ⟨other, listed, sameId, sameKind⟩ := others finding member
    have kinds := same.2.trans sameKind
    rw [← behindIt] at listed
    rcases List.mem_append.mp listed with beside | below
    · obtain ⟨another, used, rfl⟩ := List.mem_map.mp beside
      rw [List.map_append, List.map_cons, List.nodup_append, List.nodup_cons] at different
      exact different.2.1.1 (List.mem_map.mpr ⟨another, used, kinds.symm⟩)
    · exact last other.case (mem_units.mp below).1 (sameId.symm.trans same.1.symm)
  · rw [lastVerdict?, lastPlace?_split last, Option.bind_some, ← position, found]
  · obtain ⟨some, none, listed, -⟩ := List.lookup_eq_some_iff.mp found
    obtain ⟨unit, here, start, stop, tried⟩ :=
      runUnits_reached given (earlier.length, verdict) (by simp [listed])
    obtain rfl : ⟨case, analyzer⟩ = unit := by simpa using here
    exact ⟨start, stop, tried⟩

end Campaign

end Assay
