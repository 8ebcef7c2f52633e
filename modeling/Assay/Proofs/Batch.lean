import Mathlib.Data.List.Nodup
import Mathlib.Data.List.ProdSigma
import Assay.Campaign
import Assay.Proofs.Action
import Assay.Proofs.OrderedMap
import Assay.Proofs.Trial

/-!
Campaigns against one case at a time. The units of a campaign may run in any order; the verdicts
that are entered are those of running every analyzer on every case, and of two cases with one id the
later one stays.
-/

namespace Assay

variable {σ : Type}

namespace Analyzer

def IsFunction (analyzer : Analyzer σ) : Prop :=
  ∃ answer : List String → Path → Except Failure Run, ∀ options file,
    Action.Steady (analyzer.analyze options file) (answer options file)

def trialResult (analyzer : Analyzer σ) (state : σ) (case : Case) : Except Failure Verdict :=
  ((analyzer.trial case).outcome state).1

def verdict (analyzer : Analyzer σ) (state : σ) (case : Case) : Verdict :=
  match analyzer.trialResult state case with
  | .ok verdict => verdict
  | .error _ => { success := false, reason := .nothing, time := .zero, runs := [] }

theorem trialResult_eq_verdict {analyzer : Analyzer σ} {state : σ} {case : Case}
    (reached : ∃ verdict, analyzer.trialResult state case = .ok verdict) :
    analyzer.trialResult state case = .ok (analyzer.verdict state case) := by
  obtain ⟨verdict, given⟩ := reached
  rw [Analyzer.verdict, given]

theorem IsFunction.trial {analyzer : Analyzer σ} (function : analyzer.IsFunction) (state : σ)
    (case : Case) : Action.Steady (analyzer.trial case) (analyzer.trialResult state case) := by
  have steady : ∃ result, Action.Steady (analyzer.trial case) result := by
    obtain ⟨answer, answered⟩ := function
    refine ⟨case.variants.mapM (fun variant => do
      let run ← answer variant.options variant.file
      return { label := variant.label, expectation := variant.expectation, run }) >>=
        Verdict.ofRuns, ?_⟩
    refine Action.Steady.bind (Action.Steady.mapM fun variant _ => ?_) fun runs =>
      Action.steady_ofExcept _
    exact (answered variant.options variant.file).bind fun run => Action.steady_pure _
  obtain ⟨result, always⟩ := steady
  intro other
  rw [trialResult, always, always]

end Analyzer

namespace Campaign

/-! Units in any order. -/

def Work.result (unit : Work σ) (state : σ) : Except Failure Verdict :=
  unit.analyzer.trialResult state unit.case

def Work.verdict (unit : Work σ) (state : σ) : Verdict := unit.analyzer.verdict state unit.case

def picked {α : Type} (work : List α) (order : List Nat) : List (Nat × α) :=
  order.filterMap fun position => work[position]?.map (position, ·)

theorem mem_picked {α : Type} {work : List α} {order : List Nat} {position : Nat} {unit : α} :
    (position, unit) ∈ picked work order ↔ position ∈ order ∧ work[position]? = some unit := by
  simp only [picked, List.mem_filterMap, Option.map_eq_some_iff, Prod.mk.injEq]
  constructor
  · rintro ⟨_, listed, _, found, rfl, rfl⟩
    exact ⟨listed, found⟩
  · rintro ⟨listed, found⟩
    exact ⟨position, listed, unit, found, rfl, rfl⟩

theorem mem_of_picked {α : Type} {work : List α} {order : List Nat} {numbered : Nat × α}
    (member : numbered ∈ picked work order) : numbered.2 ∈ work :=
  List.mem_of_getElem? (mem_picked.mp member).2

theorem picked_perm {α : Type} {work : List α} {order : List Nat}
    (complete : order.Perm (List.range work.length)) :
    ((picked work order).map Prod.snd).Perm work := by
  have each : (List.range work.length).map (work[·]?) = work.map some :=
    List.ext_getElem (by simp) (by simp)
  have whole : (picked work (List.range work.length)).map Prod.snd = work := by
    calc (picked work (List.range work.length)).map Prod.snd
        = ((List.range work.length).map (work[·]?)).filterMap id := by
          simp [picked, List.map_filterMap, List.filterMap_map, Function.comp_def]
      _ = work := by rw [each, List.filterMap_map]; simp
  have rearranged := (complete.filterMap fun position => work[position]?.map (position, ·)).map
    Prod.snd
  exact rearranged.trans (List.Perm.of_eq whole)

theorem picked_nodup {α : Type} {work : List α} {order : List Nat}
    (complete : order.Perm (List.range work.length)) :
    ((picked work order).map Prod.fst).Nodup := by
  rw [picked, List.map_filterMap]
  refine List.Nodup.filterMap (fun first second position here there => ?_)
    (complete.nodup_iff.mpr List.nodup_range)
  simp only [Option.map_map, Option.mem_def, Option.map_eq_some_iff] at here there
  obtain ⟨_, -, rfl⟩ := here
  obtain ⟨_, -, same⟩ := there
  exact same.symm

theorem mem_units {analyzers : List (Analyzer σ)} {cases : List Case} {unit : Work σ} :
    unit ∈ units analyzers cases ↔ unit.case ∈ cases ∧ unit.analyzer ∈ analyzers := by
  obtain ⟨case, analyzer⟩ := unit
  simp only [units, List.mem_flatMap, List.mem_map, Work.mk.injEq]
  constructor
  · rintro ⟨_, listed, _, enabled, rfl, rfl⟩
    exact ⟨listed, enabled⟩
  · rintro ⟨listed, enabled⟩
    exact ⟨case, listed, analyzer, enabled, rfl, rfl⟩

theorem units_map {ι : Type} (analyzer : ι → Analyzer σ) (items : List ι) (cases : List Case) :
    units (items.map analyzer) cases =
      (cases ×ˢ items).map fun pair => ⟨pair.1, analyzer pair.2⟩ := by
  simp [units, SProd.sprod, List.product, List.map_flatMap, Function.comp_def]

theorem runUnits_map {ι : Type} (items : List ι) (unit : ι → Work σ) (order : List Nat) :
    runUnits (items.map unit) order = (picked items order).mapM fun numbered => do
      return (numbered.1, ← (unit numbered.2).analyzer.trial (unit numbered.2).case) := by
  have split : (order.filterMap fun position => (items.map unit)[position]?.map (position, ·)) =
      (picked items order).map fun numbered => (numbered.1, unit numbered.2) := by
    simp [picked, List.map_filterMap, Function.comp_def]
  rw [runUnits, split, List.mapM_map]
  rfl

theorem units_split {before after : List Case} {case : Case} {front back : List (Analyzer σ)}
    {analyzer : Analyzer σ} :
    units (front ++ analyzer :: back) (before ++ case :: after) =
      (units (front ++ analyzer :: back) before ++ front.map (⟨case, ·⟩)) ++
        ⟨case, analyzer⟩ :: (back.map (⟨case, ·⟩) ++ units (front ++ analyzer :: back) after) := by
  simp [units]

def Complete (order : List Nat) (work : List (Work σ)) : Prop :=
  order.Perm (List.range work.length)

theorem Complete.mem_iff {order : List Nat} {work : List (Work σ)} (complete : Complete order work)
    {position : Nat} : position ∈ order ↔ position < work.length :=
  (List.Perm.mem_iff complete).trans List.mem_range

theorem Complete.exists_picked {order : List Nat} {work : List (Work σ)}
    (complete : Complete order work) {unit : Work σ} (member : unit ∈ work) :
    ∃ position, (position, unit) ∈ picked work order := by
  obtain ⟨position, found⟩ := List.mem_iff_getElem?.mp member
  have inside := (List.getElem?_eq_some_iff.mp found).1
  exact ⟨position, mem_picked.mpr ⟨complete.mem_iff.mpr inside, found⟩⟩

theorem picked_split (earlier later : List (Work σ)) (unit : Work σ) :
    ∃ first rest, picked (earlier ++ unit :: later)
        (List.range (earlier ++ unit :: later).length) =
          first ++ (earlier.length, unit) :: rest ∧
      ∀ numbered ∈ first, numbered.2 ∈ earlier := by
  have positions : List.range (earlier ++ unit :: later).length =
      List.range earlier.length ++ earlier.length ::
        (List.range later.length).map fun position => earlier.length + (position + 1) := by
    rw [List.length_append, List.length_cons, List.range_add, List.range_succ_eq_map]
    simp [Function.comp_def]
  refine ⟨picked (earlier ++ unit :: later) (List.range earlier.length),
    picked (earlier ++ unit :: later)
      ((List.range later.length).map fun position => earlier.length + (position + 1)), ?_, ?_⟩
  · rw [positions, picked, List.filterMap_append, List.filterMap_cons]
    simp only [List.getElem?_append_right (Nat.le_refl _), Nat.sub_self, List.getElem?_cons_zero,
      Option.map_some]
    rfl
  · rintro ⟨position, other⟩ member
    obtain ⟨listed, found⟩ := mem_picked.mp member
    rw [List.getElem?_append_left (List.mem_range.mp listed)] at found
    exact List.mem_of_getElem? found

theorem runUnits_steady {work : List (Work σ)} (order : List Nat) (state : σ)
    (functions : ∀ unit ∈ work, unit.analyzer.IsFunction) :
    Action.Steady (runUnits work order)
      ((picked work order).mapM fun numbered => do
        return (numbered.1, ← numbered.2.result state)) := by
  refine Action.Steady.mapM fun numbered member => ?_
  have function := functions numbered.2 (mem_of_picked member)
  exact (function.trial state numbered.2.case).bind fun verdict => Action.steady_pure _

theorem lookup_picked {α : Type} {work : List α} {order : List Nat} {verdict : Nat × α → Verdict}
    {position : Nat} {unit : α} (listed : position ∈ order)
    (found : work[position]? = some unit) :
    ((picked work order).map fun numbered => (numbered.1, verdict numbered)).lookup position =
      some (verdict (position, unit)) := by
  induction order with
  | nil => simp at listed
  | cons first rest ih =>
      by_cases here : position = first
      · subst here
        simp [picked, found]
      · have later := ih ((List.mem_cons.mp listed).resolve_left here)
        have passed : (position == first) = false := by simpa using here
        unfold picked at later ⊢
        rw [List.filterMap_cons]
        cases work[first]? with
        | none => exact later
        | some _ => simpa [List.lookup_cons, passed] using later

theorem findings_picked {ι : Type} {items : List ι} (unit : ι → Work σ) {order : List Nat}
    (verdict : Nat × ι → Verdict) (complete : order.Perm (List.range items.length)) :
    findings (items.map unit) ((picked items order).map fun numbered =>
        (numbered.1, verdict numbered)) =
      items.zipIdx.map fun numbered =>
        { id := (unit numbered.1).case.id, kind := (unit numbered.1).analyzer.kind,
          verdict := verdict (numbered.2, numbered.1) } := by
  have same : ∀ numbered ∈ items.zipIdx,
      (((picked items order).map fun picked => (picked.1, verdict picked)).lookup
        numbered.2).map (fun verdict =>
          ({ id := (unit numbered.1).case.id, kind := (unit numbered.1).analyzer.kind, verdict } :
            Finding)) =
        some { id := (unit numbered.1).case.id, kind := (unit numbered.1).analyzer.kind,
               verdict := verdict (numbered.2, numbered.1) } := by
    rintro ⟨item, position⟩ member
    have found := List.mem_zipIdx_iff_getElem?.mp member
    have inside := (List.getElem?_eq_some_iff.mp found).1
    rw [lookup_picked ((complete.mem_iff).mpr (List.mem_range.mpr inside)) found]
    rfl
  calc findings (items.map unit) ((picked items order).map fun numbered =>
          (numbered.1, verdict numbered))
      = items.zipIdx.filterMap (some ∘ fun numbered : ι × Nat =>
          ({ id := (unit numbered.1).case.id, kind := (unit numbered.1).analyzer.kind,
             verdict := verdict (numbered.2, numbered.1) } : Finding)) := by
        rw [findings, List.zipIdx_map, List.filterMap_map]
        exact List.filterMap_congr same
    _ = _ := by rw [List.filterMap_eq_map]

theorem runUnits_positions {work : List (Work σ)} {order : List Nat} {state after : σ}
    {verdicts : List (Nat × Verdict)}
    (given : (runUnits work order).outcome state = (.ok verdicts, after)) :
    verdicts.map Prod.fst = (picked work order).map Prod.fst := by
  refine Action.mapM_map_eq (fun numbered state value after reached => ?_) given
  obtain ⟨position, unit⟩ := numbered
  rw [Action.outcome_bind] at reached
  split at reached
  · simp only [Action.outcome_pure, Prod.mk.injEq, Except.ok.injEq] at reached
    rw [← reached.1]
  · simp at reached

theorem runUnits_covers {work : List (Work σ)} {order : List Nat} {state after : σ}
    {verdicts : List (Nat × Verdict)} (complete : Complete order work)
    (given : (runUnits work order).outcome state = (.ok verdicts, after)) :
    ∀ position < work.length, position ∈ verdicts.map Prod.fst := by
  intro position inside
  rw [runUnits_positions given]
  have found := List.getElem?_eq_getElem inside
  exact List.mem_map.mpr ⟨_, mem_picked.mpr ⟨complete.mem_iff.mpr inside, found⟩, rfl⟩

theorem findings_ids {work : List (Work σ)} {verdicts : List (Nat × Verdict)}
    (covered : ∀ position < work.length, position ∈ verdicts.map Prod.fst) :
    (findings work verdicts).map Finding.id = work.map fun unit => unit.case.id := by
  have same : ∀ numbered ∈ work.zipIdx,
      (((verdicts.lookup numbered.2).map fun verdict =>
        ({ id := numbered.1.case.id, kind := numbered.1.analyzer.kind, verdict } :
          Finding)).map Finding.id) = some numbered.1.case.id := by
    rintro ⟨unit, position⟩ member
    have found := List.mem_zipIdx_iff_getElem?.mp member
    have inside := covered position (List.getElem?_eq_some_iff.mp found).1
    obtain ⟨entry, listed, rfl⟩ := List.mem_map.mp inside
    cases reached : verdicts.lookup entry.1 with
    | none =>
        have absent := List.lookup_eq_none_iff.mp reached entry listed
        simp at absent
    | some verdict => rfl
  calc (findings work verdicts).map Finding.id
      = work.zipIdx.filterMap (some ∘ fun numbered => numbered.1.case.id) := by
        rw [findings, List.map_filterMap]
        exact List.filterMap_congr same
    _ = (work.zipIdx.map Prod.fst).map fun unit => unit.case.id := by
        rw [List.filterMap_eq_map, List.map_map]
        rfl
    _ = _ := by rw [List.zipIdx_map_fst]

/-! Entering the verdicts. -/

theorem mem_keys_foldl_enter {found : List Finding} {start : OrderedMap String CaseResult}
    {id : String} :
    id ∈ (found.foldl enter start).keys ↔ id ∈ start.keys ∨ id ∈ found.map Finding.id := by
  induction found generalizing start with
  | nil => simp
  | cons finding rest ih =>
      rw [List.foldl_cons, ih, enter, OrderedMap.mem_keys_insert, List.map_cons, List.mem_cons,
        or_assoc, or_left_comm]

def caseFindings (id : String) (entries : List (Kind × Verdict)) : List Finding :=
  entries.map fun entry => { id, kind := entry.1, verdict := entry.2 }

theorem foldl_enter_entered (start : OrderedMap String CaseResult) (id : String)
    (result : CaseResult) (entries : List (Kind × Verdict)) :
    (caseFindings id entries).foldl enter (start.insert id result) =
      start.insert id (result.insertAll entries) := by
  induction entries generalizing result with
  | nil => rfl
  | cons entry rest ih =>
      have entered : enter (start.insert id result) { id, kind := entry.1, verdict := entry.2 } =
          start.insert id (result.insert entry.1 entry.2) := by
        rw [enter, OrderedMap.get?_insert_self, OrderedMap.insert_insert]
        rfl
      rw [caseFindings, List.map_cons, List.foldl_cons, entered]
      exact ih (result.insert entry.1 entry.2)

theorem foldl_enter_case {entries : List (Kind × Verdict)} (nonempty : entries ≠ [])
    (start : OrderedMap String CaseResult) (id : String) :
    (caseFindings id entries).foldl enter start =
      start.insert id (((start.get? id).getD .empty).insertAll entries) := by
  cases entries with
  | nil => exact absurd rfl nonempty
  | cons entry rest => exact foldl_enter_entered start id _ rest

theorem foldl_enter_cases {kinds : List Kind} (nonempty : kinds ≠ [])
    {entries : Case → List (Kind × Verdict)}
    (allKinds : ∀ case, (entries case).map Prod.fst = kinds) (cases : List Case)
    {start : OrderedMap String CaseResult}
    (started : ∀ id result, start.get? id = some result → ∀ kind ∈ result.keys, kind ∈ kinds) :
    (cases.flatMap fun case => caseFindings case.id (entries case)).foldl enter start =
      start.insertAll (cases.map fun case => (case.id, OrderedMap.ofList (entries case))) := by
  induction cases generalizing start with
  | nil => rfl
  | cons case rest ih =>
      have filled : entries case ≠ [] := by
        intro none
        exact nonempty (by rw [← allKinds case, none]; rfl)
      have replaced : ((start.get? case.id).getD .empty).insertAll (entries case) =
          .ofList (entries case) := by
        refine OrderedMap.insertAll_eq_ofList fun kind known => ?_
        rw [allKinds]
        cases found : start.get? case.id with
        | none => simp [found, OrderedMap.keys, OrderedMap.empty] at known
        | some result => exact started case.id result found kind (by simpa [found] using known)
      rw [List.flatMap_cons, List.foldl_append, foldl_enter_case filled, replaced, List.map_cons,
        OrderedMap.insertAll_cons]
      refine ih fun id result found kind known => ?_
      by_cases same : id = case.id
      · subst same
        rw [OrderedMap.get?_insert_self, Option.some.injEq] at found
        subst found
        rw [← allKinds case]
        exact OrderedMap.mem_keys_ofList.mp known
      · rw [OrderedMap.get?_insert_of_ne _ _ same] at found
        exact started id result found kind known

end Campaign

variable [Surroundings σ]

theorem Analyzer.ofProgram_isFunction {launch : CommandLine → Action σ Output} {kind : Kind}
    {program : Path} (answer : CommandLine → Except Failure Output)
    (answered : ∀ line, Action.Steady (launch line) (answer line))
    (present : ∀ state : σ, checkProgram kind program state = .ok ()) (keepOutput : Bool) :
    (ofProgram launch kind program keepOutput).IsFunction := by
  refine ⟨fun options file => do
    let output ← answer (kind.commandLine program options file)
    return kind.readRun keepOutput output, fun options file state => ?_⟩
  rw [ofProgram, Action.outcome_look_ok (present state)]
  exact (answered _).bind (fun output => Action.steady_pure _) state

/-! One case. -/

def caseEntries (analyzers : List (Analyzer σ)) (state : σ) (case : Case) :
    List (Kind × Verdict) :=
  analyzers.map fun analyzer => (analyzer.kind, analyzer.verdict state case)

def caseResult (analyzers : List (Analyzer σ)) (state : σ) (case : Case) : CaseResult :=
  .ofList (caseEntries analyzers state case)

theorem runCase_missing {analyzers : List (Analyzer σ)} {case : Case} {state : σ}
    {failure : Failure} (missing : checkInputs case state = .error failure) :
    (runCase analyzers case).outcome state = (.error failure, state) :=
  Action.outcome_look_error missing _

theorem runCase_eq {analyzers : List (Analyzer σ)} {case : Case} {state : σ}
    (functions : ∀ analyzer ∈ analyzers, analyzer.IsFunction)
    (present : checkInputs case state = .ok ()) :
    ((runCase analyzers case).outcome state).1 =
      analyzers.foldlM (fun result analyzer => do
        return result.insert analyzer.kind (← analyzer.trialResult state case))
        OrderedMap.empty := by
  rw [runCase, Action.outcome_look_ok present]
  refine Action.Steady.foldlM (fun analyzer member result => ?_) _ state
  exact ((functions analyzer member).trial state case).bind fun verdict => Action.steady_pure _

theorem runCase_ok {analyzers : List (Analyzer σ)} {case : Case} {state : σ}
    (functions : ∀ analyzer ∈ analyzers, analyzer.IsFunction)
    (present : checkInputs case state = .ok ())
    (reached : ∀ analyzer ∈ analyzers, ∃ verdict,
      analyzer.trialResult state case = .ok verdict) :
    ((runCase analyzers case).outcome state).1 = .ok (caseResult analyzers state case) := by
  rw [runCase_eq functions present, caseResult, caseEntries, OrderedMap.ofList, List.foldl_map]
  refine Outcome.foldlM_ok (fun analyzer member result => ?_) _
  rw [Analyzer.trialResult_eq_verdict (reached analyzer member)]
  rfl

theorem runCase_first_error {before after : List (Analyzer σ)} {analyzer : Analyzer σ}
    {case : Case} {state : σ} {failure : Failure}
    (functions : ∀ other ∈ before ++ analyzer :: after, other.IsFunction)
    (present : checkInputs case state = .ok ())
    (reached : ∀ earlier ∈ before, ∃ verdict, earlier.trialResult state case = .ok verdict)
    (failed : analyzer.trialResult state case = .error failure) :
    ((runCase (before ++ analyzer :: after) case).outcome state).1 = .error failure := by
  rw [runCase_eq functions present]
  refine Outcome.foldlM_first_error (fun earlier member start => ?_) (fun start => ?_) _
  · obtain ⟨verdict, given⟩ := reached earlier member
    exact ⟨start.insert earlier.kind verdict, by rw [given]; rfl⟩
  · rw [failed]
    rfl

theorem runCase_ok_iff {analyzers : List (Analyzer σ)} {case : Case} {state : σ}
    (functions : ∀ analyzer ∈ analyzers, analyzer.IsFunction) :
    (∃ result, ((runCase analyzers case).outcome state).1 = .ok result) ↔
      checkInputs case state = .ok () ∧ ∀ analyzer ∈ analyzers, ∃ verdict,
        analyzer.trialResult state case = .ok verdict := by
  constructor
  · rintro ⟨result, given⟩
    have present : checkInputs case state = .ok () := by
      cases missing : checkInputs case state with
      | ok _ => rfl
      | error failure => simp [runCase_missing missing] at given
    refine ⟨present, ?_⟩
    rcases Outcome.all_ok_or_first_error analyzers (·.trialResult state case) with
      reached | ⟨before, analyzer, after, failure, rfl, reached, failed⟩
    · exact reached
    · simp [runCase_first_error functions present reached failed] at given
  · rintro ⟨present, reached⟩
    exact ⟨_, runCase_ok functions present reached⟩

/-! All cases. -/

namespace Campaign

theorem checkAll_ok_iff {analyzers : List (Analyzer σ)} {cases : List Case} {state : σ} :
    checkAll analyzers cases state = .ok () ↔
      (∀ analyzer ∈ analyzers, analyzer.validate state = .ok ()) ∧
        ∀ case ∈ cases, checkInputs case state = .ok () := by
  rw [← Outcome.forM_eq_ok_iff, ← Outcome.forM_eq_ok_iff]
  unfold checkAll
  cases analyzers.forM fun analyzer => analyzer.validate state with
  | error failure => simp [bind, Except.bind]
  | ok _ => simp [bind, Except.bind]

theorem runIn_refused {order : List Nat} {analyzers : List (Analyzer σ)} {cases : List Case}
    {state : σ} {failure : Failure} (refused : checkAll analyzers cases state = .error failure) :
    (runIn order analyzers cases).outcome state = (.error failure, state) :=
  Action.outcome_look_error refused _

def resultsOf (analyzers : List (Analyzer σ)) (cases : List Case)
    (verdicts : List (Nat × Verdict)) : Results where
  tools := analyzers.map Analyzer.kind
  cases := (findings (units analyzers cases) verdicts).foldl enter OrderedMap.empty

theorem runIn_checked {order : List Nat} {analyzers : List (Analyzer σ)} {cases : List Case}
    {state after : σ} {reached : Except Failure (List (Nat × Verdict))}
    (checked : checkAll analyzers cases state = .ok ())
    (ended : (runUnits (units analyzers cases) order).outcome state = (reached, after)) :
    (runIn order analyzers cases).outcome state =
      (reached.map (resultsOf analyzers cases), after) := by
  rw [runIn, Action.outcome_look_ok checked, Action.outcome_bind, ended]
  cases reached <;> rfl

theorem runIn_eq_ok {order : List Nat} {analyzers : List (Analyzer σ)} {cases : List Case}
    {state after : σ} {results : Results}
    (given : (runIn order analyzers cases).outcome state = (.ok results, after)) :
    checkAll analyzers cases state = .ok () ∧ ∃ verdicts,
      (runUnits (units analyzers cases) order).outcome state = (.ok verdicts, after) ∧
        results = resultsOf analyzers cases verdicts := by
  cases checked : checkAll analyzers cases state with
  | error failure => simp [runIn_refused checked] at given
  | ok _ =>
      rw [runIn, Action.outcome_look_ok checked] at given
      obtain ⟨verdicts, middle, reached, given⟩ := Action.outcome_bind_eq_ok given
      obtain ⟨rfl, rfl⟩ := Action.outcome_pure_eq_ok given
      exact ⟨rfl, verdicts, reached, rfl⟩

theorem runIn_keys {order : List Nat} {analyzers : List (Analyzer σ)} {cases : List Case}
    {state : σ} {results : Results} (enabled : analyzers ≠ [])
    (complete : Complete order (units analyzers cases))
    (given : ((runIn order analyzers cases).outcome state).1 = .ok results) (id : String) :
    id ∈ results.cases.keys ↔ id ∈ cases.map Case.id := by
  obtain ⟨-, verdicts, reached, rfl⟩ := runIn_eq_ok (Prod.ext given rfl)
  rw [resultsOf, mem_keys_foldl_enter, findings_ids (runUnits_covers complete reached)]
  simp only [OrderedMap.keys, OrderedMap.empty, List.map_nil, List.not_mem_nil, false_or,
    List.mem_map]
  obtain ⟨analyzer, used⟩ := List.exists_mem_of_ne_nil analyzers enabled
  constructor
  · rintro ⟨unit, member, rfl⟩
    exact ⟨unit.case, (mem_units.mp member).1, rfl⟩
  · rintro ⟨case, listed, rfl⟩
    exact ⟨⟨case, analyzer⟩, mem_units.mpr ⟨listed, used⟩, rfl⟩

theorem runIn_eq {order : List Nat} {analyzers : List (Analyzer σ)} {cases : List Case}
    {state : σ} (functions : ∀ analyzer ∈ analyzers, analyzer.IsFunction)
    (checked : checkAll analyzers cases state = .ok ()) :
    ((runIn order analyzers cases).outcome state).1 = do
      let verdicts ← (picked (units analyzers cases) order).mapM fun numbered => do
        return (numbered.1, ← numbered.2.result state)
      return resultsOf analyzers cases verdicts := by
  rw [runIn, Action.outcome_look_ok checked]
  refine Action.Steady.bind (runUnits_steady order state fun unit member => ?_)
    (fun verdicts => Action.steady_pure _) state
  exact functions unit.analyzer (mem_units.mp member).2

theorem runIn_ok_iff {order : List Nat} {analyzers : List (Analyzer σ)} {cases : List Case}
    {state : σ} (functions : ∀ analyzer ∈ analyzers, analyzer.IsFunction)
    (complete : Complete order (units analyzers cases)) :
    (∃ results, ((runIn order analyzers cases).outcome state).1 = .ok results) ↔
      checkAll analyzers cases state = .ok () ∧
        ∀ unit ∈ units analyzers cases, ∃ verdict, unit.result state = .ok verdict := by
  cases checked : checkAll analyzers cases state with
  | error failure => simp [runIn_refused checked]
  | ok _ =>
      have each (numbered : Nat × Work σ) :
          (∃ value, (do return (numbered.1, ← numbered.2.result state) :
            Except Failure (Nat × Verdict)) = .ok value) ↔
            ∃ verdict, numbered.2.result state = .ok verdict := by
        cases numbered.2.result state <;> simp [bind, Except.bind, pure, Except.pure]
      have units_ok : (∃ verdicts, ((picked (units analyzers cases) order).mapM fun numbered => do
            return (numbered.1, ← numbered.2.result state)) = .ok verdicts) ↔
          ∀ unit ∈ units analyzers cases, ∃ verdict, unit.result state = .ok verdict := by
        rw [Outcome.mapM_eq_ok_iff]
        constructor
        · intro fine unit member
          obtain ⟨position, inside⟩ := complete.exists_picked member
          exact (each (position, unit)).mp (fine _ inside)
        · intro fine numbered inside
          exact (each numbered).mpr (fine numbered.2 (mem_of_picked inside))
      rw [runIn_eq functions checked, ← units_ok]
      simp only [true_and]
      cases (picked (units analyzers cases) order).mapM fun numbered => do
        return (numbered.1, ← numbered.2.result state) with
      | error failure => simp [bind, Except.bind]
      | ok verdicts => simp [bind, Except.bind, pure, Except.pure]

theorem runIn_results {order : List Nat} {analyzers : List (Analyzer σ)} {cases : List Case}
    {state : σ} (enabled : analyzers ≠ [])
    (functions : ∀ analyzer ∈ analyzers, analyzer.IsFunction)
    (complete : Complete order (units analyzers cases))
    (checked : checkAll analyzers cases state = .ok ())
    (reached : ∀ unit ∈ units analyzers cases, ∃ verdict, unit.result state = .ok verdict) :
    ((runIn order analyzers cases).outcome state).1 =
      .ok { tools := analyzers.map Analyzer.kind
            cases := .ofList (cases.map fun case =>
              (case.id, caseResult analyzers state case)) } := by
  have verdicts : ((picked (units analyzers cases) order).mapM fun numbered => do
        return (numbered.1, ← numbered.2.result state)) =
      (.ok ((picked (units analyzers cases) order).map fun numbered =>
        (numbered.1, numbered.2.verdict state)) : Except Failure (List (Nat × Verdict))) := by
    refine Outcome.mapM_ok fun numbered member => ?_
    have given : numbered.2.result state = .ok (numbered.2.verdict state) :=
      Analyzer.trialResult_eq_verdict (reached numbered.2 (mem_of_picked member))
    rw [given]
    rfl
  have byCase : ((units analyzers cases).zipIdx.map fun numbered =>
        ({ id := numbered.1.case.id, kind := numbered.1.analyzer.kind,
           verdict := numbered.1.verdict state } : Finding)) =
      cases.flatMap fun case => caseFindings case.id (caseEntries analyzers state case) := by
    calc (units analyzers cases).zipIdx.map (fun numbered =>
          ({ id := numbered.1.case.id, kind := numbered.1.analyzer.kind,
             verdict := numbered.1.verdict state } : Finding))
        = ((units analyzers cases).zipIdx.map Prod.fst).map fun unit =>
            { id := unit.case.id, kind := unit.analyzer.kind, verdict := unit.verdict state } := by
          rw [List.map_map]
          rfl
      _ = _ := by
          rw [List.zipIdx_map_fst]
          simp only [units, List.map_flatMap, List.map_map, caseFindings, caseEntries]
          rfl
  have entered : (cases.flatMap fun case =>
        caseFindings case.id (caseEntries analyzers state case)).foldl enter .empty =
      OrderedMap.insertAll .empty (cases.map fun case =>
        (case.id, caseResult analyzers state case)) := by
    have someKind : analyzers.map Analyzer.kind ≠ [] := by simpa using enabled
    exact foldl_enter_cases someKind (fun case => by simp [caseEntries]) cases (by simp)
  rw [runIn_eq functions checked, verdicts]
  refine congrArg Except.ok ?_
  have found := findings_picked id (fun numbered => numbered.2.verdict state) complete
  rw [List.map_id] at found
  rw [resultsOf, found]
  exact congrArg (Results.mk _) (byCase ▸ entered)

theorem run_first_error {analyzers : List (Analyzer σ)} {cases : List Case} {state : σ}
    {earlier later : List (Work σ)} {unit : Work σ} {failure : Failure}
    (functions : ∀ analyzer ∈ analyzers, analyzer.IsFunction)
    (checked : checkAll analyzers cases state = .ok ())
    (split : units analyzers cases = earlier ++ unit :: later)
    (fine : ∀ other ∈ earlier, ∃ verdict, other.result state = .ok verdict)
    (failed : unit.result state = .error failure) :
    ((run analyzers cases).outcome state).1 = .error failure := by
  obtain ⟨first, rest, picks, inside⟩ := picked_split earlier later unit
  have stopped : ((first ++ (earlier.length, unit) :: rest).mapM fun numbered => do
        return (numbered.1, ← numbered.2.result state)) =
      (.error failure : Except Failure (List (Nat × Verdict))) := by
    refine Outcome.mapM_first_error ?_ (by rw [failed]; rfl)
    rintro ⟨position, other⟩ member
    obtain ⟨verdict, given⟩ := fine other (inside _ member)
    exact ⟨(position, verdict), by rw [given]; rfl⟩
  rw [run, runIn_eq functions checked, split, picks, stopped]
  rfl

theorem run_first_case_error {analyzers : List (Analyzer σ)} {cases before after : List Case}
    {case : Case} {state : σ} {failure : Failure}
    (functions : ∀ analyzer ∈ analyzers, analyzer.IsFunction)
    (checked : checkAll analyzers cases state = .ok ()) (split : cases = before ++ case :: after)
    (fine : ∀ earlier ∈ before, ∃ result,
      ((runCase analyzers earlier).outcome state).1 = .ok result)
    (stopped : ((runCase analyzers case).outcome state).1 = .error failure) :
    ((run analyzers cases).outcome state).1 = .error failure := by
  subst split
  have present := (checkAll_ok_iff.mp checked).2 case (by simp)
  rcases Outcome.all_ok_or_first_error analyzers (·.trialResult state case) with
    reached | ⟨front, analyzer, back, first, rfl, reached, failed⟩
  · simp [runCase_ok functions present reached] at stopped
  · have same : first = failure := by
      simpa [runCase_first_error functions present reached failed] using stopped
    subst same
    refine run_first_error functions checked units_split (fun other earlier => ?_) failed
    rcases List.mem_append.mp earlier with inBefore | inFront
    · obtain ⟨listed, member⟩ := mem_units.mp inBefore
      exact ((runCase_ok_iff functions).mp (fine other.case listed)).2 other.analyzer member
    · obtain ⟨another, member, rfl⟩ := List.mem_map.mp inFront
      exact reached another member

/-- A campaign and its cases one at a time agree: on success, on the results, and, with the units
one after the other, on the failure. -/
theorem runIn_agrees {order : List Nat} {analyzers : List (Analyzer σ)} {cases : List Case}
    {state : σ} (enabled : analyzers ≠ [])
    (functions : ∀ analyzer ∈ analyzers, analyzer.IsFunction)
    (complete : Complete order (units analyzers cases)) :
    ((∃ results, ((runIn order analyzers cases).outcome state).1 = .ok results) ↔
      (∀ analyzer ∈ analyzers, analyzer.validate state = .ok ()) ∧
        ∀ case ∈ cases, ∃ result, ((runCase analyzers case).outcome state).1 = .ok result) ∧
    (∀ results, ((runIn order analyzers cases).outcome state).1 = .ok results →
      (∀ id, id ∈ results.cases.keys ↔ ∃ case ∈ cases, case.id = id) ∧
        ∀ before case after, cases = before ++ case :: after →
          (∀ later ∈ after, later.id ≠ case.id) →
          ∃ result, ((runCase analyzers case).outcome state).1 = .ok result ∧
            results.cases.get? case.id = some result) ∧
    ((∀ analyzer ∈ analyzers, analyzer.validate state = .ok ()) →
      (∀ case ∈ cases, checkInputs case state = .ok ()) →
      (∃ case ∈ cases, ∃ analyzer ∈ analyzers, ∃ failure,
        ((analyzer.trial case).outcome state).1 = .error failure) →
      ∃ before case after failure, cases = before ++ case :: after ∧
        (∀ earlier ∈ before, ∃ result,
          ((runCase analyzers earlier).outcome state).1 = .ok result) ∧
        ((runCase analyzers case).outcome state).1 = .error failure ∧
        ((run analyzers cases).outcome state).1 = .error failure) := by
  refine ⟨?_, ?_, ?_⟩
  · rw [runIn_ok_iff functions complete, checkAll_ok_iff]
    simp only [runCase_ok_iff functions]
    constructor
    · rintro ⟨⟨valid, present⟩, reached⟩
      refine ⟨valid, fun case listed => ⟨present case listed, fun analyzer member => ?_⟩⟩
      exact reached ⟨case, analyzer⟩ (mem_units.mpr ⟨listed, member⟩)
    · rintro ⟨valid, each⟩
      refine ⟨⟨valid, fun case listed => (each case listed).1⟩, fun unit member => ?_⟩
      obtain ⟨listed, used⟩ := mem_units.mp member
      exact (each unit.case listed).2 unit.analyzer used
  · intro results given
    obtain ⟨checked, reached⟩ := (runIn_ok_iff functions complete).mp ⟨results, given⟩
    rw [runIn_results enabled functions complete checked reached, Except.ok.injEq] at given
    subst given
    constructor
    · intro id
      simp [OrderedMap.mem_keys_ofList]
    · rintro before case after rfl last
      have present := (checkAll_ok_iff.mp checked).2 case (by simp)
      refine ⟨caseResult analyzers state case, runCase_ok functions present ?_, ?_⟩
      · exact fun analyzer member => reached ⟨case, analyzer⟩ (mem_units.mpr ⟨by simp, member⟩)
      · simp only [List.map_append, List.map_cons]
        exact OrderedMap.get?_insertAll_last (by simpa using last) .empty
  · rintro valid present ⟨bad, listed, analyzer, member, failure, failed⟩
    have checked := checkAll_ok_iff.mpr ⟨valid, present⟩
    rcases Outcome.all_ok_or_first_error cases fun case =>
        ((runCase analyzers case).outcome state).1 with
      all | ⟨before, case, after, first, split, fine, stopped⟩
    · obtain ⟨verdict, given⟩ := ((runCase_ok_iff functions).mp (all bad listed)).2 analyzer member
      rw [Analyzer.trialResult, failed] at given
      simp at given
    · exact ⟨before, case, after, first, split, fine, stopped,
        run_first_case_error functions checked split fine stopped⟩

def warnsOnDefine (line : CommandLine) : Action Replay Output :=
  pure { stderr := if "-DBAD" ∈ line.arguments then "1 warning generated" else "" }

def twoReferences : List (Analyzer Replay) :=
  ["old", "new"].map fun command => .ofProgram warnsOnDefine .reference ⟨command⟩ true

/-- Two cases with one id and one file, of which an analyzer should say different things. -/
def sharedId : List Case := [
  { id := "CWE121.c", variants := [
      { label := "correct", file := ⟨"/CWE121.c"⟩, options := [], expectation := .clean }] },
  { id := "CWE121.c", variants := [
      { label := "incorrect", file := ⟨"/CWE121.c"⟩, options := ["-DBAD"],
        expectation := .flagged }] }]

def sharedFile : Replay := { tree := { entries := [(["CWE121.c"], .file 0 .empty false)] } }

theorem runIn_agrees_sharedId :
    twoReferences ≠ [] ∧ (∀ analyzer ∈ twoReferences, analyzer.IsFunction) ∧
      Complete [3, 1, 0, 2] (units twoReferences sharedId) ∧
      ∃ results result,
        ((runIn [3, 1, 0, 2] twoReferences sharedId).outcome sharedFile).1 = .ok results ∧
        ((runCase twoReferences sharedId[1]).outcome sharedFile).1 = .ok result ∧
        results.cases.get? "CWE121.c" = some result := by
  have functions : ∀ analyzer ∈ twoReferences, analyzer.IsFunction := by
    have each (program : Path) :
        (Analyzer.ofProgram warnsOnDefine .reference program true).IsFunction :=
      Analyzer.ofProgram_isFunction _ (fun line => Action.steady_pure _) (fun _ => rfl) true
    simp only [twoReferences, List.map_cons, List.map_nil, List.forall_mem_cons]
    exact ⟨each _, each _, by simp⟩
  have complete : Complete [3, 1, 0, 2] (units twoReferences sharedId) := by
    change List.Perm [3, 1, 0, 2] [0, 1, 2, 3]
    decide
  have enabled : twoReferences ≠ [] := by simp [twoReferences]
  obtain ⟨success, found, _⟩ :=
    @runIn_agrees _ _ _ _ _ sharedFile enabled functions complete
  have valid : ∀ analyzer ∈ twoReferences, analyzer.validate sharedFile = .ok () := by
    simp only [twoReferences, List.map_cons, List.map_nil, List.forall_mem_cons]
    exact ⟨rfl, rfl, by simp⟩
  have each : ∀ case ∈ sharedId, ∃ result,
      ((runCase twoReferences case).outcome sharedFile).1 = .ok result := by
    simp only [sharedId, List.forall_mem_cons]
    exact ⟨⟨_, rfl⟩, ⟨_, rfl⟩, by simp⟩
  obtain ⟨results, given⟩ := success.mpr ⟨valid, each⟩
  obtain ⟨result, alone, entered⟩ :=
    (found results given).2 [sharedId[0]] sharedId[1] [] rfl (by simp)
  exact ⟨enabled, functions, complete, results, result, given, alone, entered⟩

end Campaign

end Assay
