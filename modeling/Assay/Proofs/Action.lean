import Mathlib.Data.List.Forall2
import Assay.Surroundings

/-!
Actions by what they give: a result or a failure, and the surroundings that are left. An action is
steady when its result does not depend on the surroundings it is started in.
-/

namespace Assay

variable {α β : Type} {related : α → β → Prop} {items : List α} {values : List β}

theorem exists_of_mem_right (each : List.Forall₂ related items values) :
    ∀ value ∈ values, ∃ item ∈ items, related item value := by
  induction each with
  | nil => simp
  | cons first _ ih =>
      refine List.forall_mem_cons.mpr ⟨⟨_, List.mem_cons_self, first⟩, fun value member => ?_⟩
      obtain ⟨item, listed, later⟩ := ih value member
      exact ⟨item, List.mem_cons_of_mem _ listed, later⟩

end Assay

namespace Assay.Action

variable {σ α β : Type}

def outcome (action : Action σ α) (state : σ) : Except Failure α × σ := action.run.run state

@[simp] theorem outcome_pure (value : α) (state : σ) :
    (pure value : Action σ α).outcome state = (.ok value, state) := rfl

@[simp] theorem outcome_look (view : σ → Except Failure α) (state : σ) :
    (look view).outcome state = (view state, state) := rfl

@[simp] theorem outcome_ofExcept (result : Except Failure α) (state : σ) :
    (ofExcept result : Action σ α).outcome state = (result, state) := rfl

@[simp] theorem outcome_get (state : σ) : (get : Action σ σ).outcome state = (.ok state, state) :=
  rfl

theorem outcome_onFiles {context : String} {operation : σ → Except FileFault Unit × σ}
    {state after : σ} {result : Except FileFault Unit} (given : operation state = (result, after)) :
    (onFiles context operation).outcome state = (result.mapError (.file context), after) := by
  have done : (onFiles context operation).outcome state =
      ((operation state).1.mapError (.file context), (operation state).2) := rfl
  rw [done, given]

theorem outcome_bind (action : Action σ α) (next : α → Action σ β) (state : σ) :
    (action >>= next).outcome state =
      match action.outcome state with
      | (.ok value, after) => (next value).outcome after
      | (.error failure, after) => (.error failure, after) := by
  change ExceptT.bindCont next (action.outcome state).1 (action.outcome state).2 = _
  rcases action.outcome state with ⟨failure | value, after⟩ <;> rfl

theorem outcome_bind_ok {action : Action σ α} {state after : σ} {value : α}
    (given : action.outcome state = (.ok value, after)) (next : α → Action σ β) :
    (action >>= next).outcome state = (next value).outcome after := by
  rw [outcome_bind, given]

theorem outcome_bind_error {action : Action σ α} {state after : σ} {failure : Failure}
    (failed : action.outcome state = (.error failure, after)) (next : α → Action σ β) :
    (action >>= next).outcome state = (.error failure, after) := by
  rw [outcome_bind, failed]

theorem outcome_bind_eq_ok {action : Action σ α} {next : α → Action σ β} {state after : σ}
    {value : β} (given : (action >>= next).outcome state = (.ok value, after)) :
    ∃ first middle, action.outcome state = (.ok first, middle) ∧
      (next first).outcome middle = (.ok value, after) := by
  rw [outcome_bind] at given
  cases reached : action.outcome state with
  | mk result middle =>
      rw [reached] at given
      cases result with
      | error failure => simp at given
      | ok first => exact ⟨first, middle, rfl, given⟩

theorem outcome_pure_eq_ok {given value : α} {state after : σ}
    (ended : (pure given : Action σ α).outcome state = (.ok value, after)) :
    given = value ∧ state = after := by
  simpa using ended

theorem outcome_look_ok {view : σ → Except Failure α} {state : σ} {value : α}
    (seen : view state = .ok value) (next : α → Action σ β) :
    (look view >>= next).outcome state = (next value).outcome state :=
  outcome_bind_ok (by rw [outcome_look, seen]) next

theorem outcome_look_error {view : σ → Except Failure α} {state : σ} {failure : Failure}
    (seen : view state = .error failure) (next : α → Action σ β) :
    (look view >>= next).outcome state = (.error failure, state) :=
  outcome_bind_error (by rw [outcome_look, seen]) next

def Steady (action : Action σ α) (result : Except Failure α) : Prop :=
  ∀ state, (action.outcome state).1 = result

theorem steady_pure (value : α) : Steady (pure value : Action σ α) (.ok value) :=
  fun _ => rfl

theorem steady_ofExcept (result : Except Failure α) :
    Steady (ofExcept result : Action σ α) result :=
  fun _ => rfl

theorem Steady.bind {action : Action σ α} {result : Except Failure α} {next : α → Action σ β}
    {follow : α → Except Failure β} (first : Steady action result)
    (second : ∀ value, Steady (next value) (follow value)) :
    Steady (action >>= next) (result >>= follow) := by
  intro state
  rw [outcome_bind]
  have given := first state
  cases reached : action.outcome state with
  | mk outcome after =>
      rw [reached] at given
      subst given
      cases outcome with
      | error failure => rfl
      | ok value => exact second value after

theorem Steady.mapM {items : List α} {action : α → Action σ β} {result : α → Except Failure β}
    (steady : ∀ item ∈ items, Steady (action item) (result item)) :
    Steady (items.mapM action) (items.mapM result) := by
  induction items with
  | nil => exact steady_pure []
  | cons item rest ih =>
      simp only [List.mapM_cons]
      refine (steady item (by simp)).bind fun value => ?_
      exact (ih fun other member => steady other (by simp [member])).bind fun values =>
        steady_pure (value :: values)

theorem Steady.foldlM {items : List α} {action : β → α → Action σ β}
    {result : β → α → Except Failure β}
    (steady : ∀ item ∈ items, ∀ start, Steady (action start item) (result start item)) (start : β) :
    Steady (items.foldlM action start) (items.foldlM result start) := by
  induction items generalizing start with
  | nil => exact steady_pure start
  | cons item rest ih =>
      simp only [List.foldlM_cons]
      refine (steady item (by simp) start).bind fun value => ?_
      exact ih (fun other member => steady other (by simp [member])) value

theorem mapM_forall₂ {items : List α} {action : α → Action σ β} {state after : σ} {values : List β}
    (given : (items.mapM action).outcome state = (.ok values, after)) :
    List.Forall₂ (fun item value => ∃ before behind,
      (action item).outcome before = (.ok value, behind)) items values := by
  induction items generalizing state values with
  | nil =>
      rw [List.mapM_nil] at given
      obtain ⟨rfl, -⟩ := outcome_pure_eq_ok given
      exact .nil
  | cons item rest ih =>
      rw [List.mapM_cons] at given
      obtain ⟨value, middle, first, given⟩ := outcome_bind_eq_ok given
      obtain ⟨others, last, later, given⟩ := outcome_bind_eq_ok given
      obtain ⟨rfl, rfl⟩ := outcome_pure_eq_ok given
      exact .cons ⟨state, middle, first⟩ (ih later)

theorem mapM_reached {items : List α} {action : α → Action σ β} {state after : σ} {values : List β}
    (given : (items.mapM action).outcome state = (.ok values, after)) :
    ∀ value ∈ values, ∃ item ∈ items, ∃ before behind,
      (action item).outcome before = (.ok value, behind) :=
  exists_of_mem_right (mapM_forall₂ given)

theorem mapM_map_eq {γ : Type} {action : α → Action σ β} {mark : β → γ} {markOf : α → γ}
    (marked : ∀ item state value after,
      (action item).outcome state = (.ok value, after) → mark value = markOf item)
    {items : List α} {state after : σ} {values : List β}
    (given : (items.mapM action).outcome state = (.ok values, after)) :
    values.map mark = items.map markOf := by
  have each := mapM_forall₂ given
  clear given
  induction each with
  | nil => rfl
  | cons reached _ ih =>
      obtain ⟨before, behind, reached⟩ := reached
      rw [List.map_cons, List.map_cons, ih, marked _ _ _ _ reached]

end Assay.Action

namespace Assay.Outcome

variable {ε α β : Type}

theorem ok_bind (value : α) (next : α → Except ε β) : (.ok value >>= next) = next value := rfl

theorem bind_eq_ok_iff {first : Except ε α} {next : α → Except ε β} {value : β} :
    (first >>= next) = .ok value ↔ ∃ middle, first = .ok middle ∧ next middle = .ok value := by
  cases first with
  | error failure => simp [bind, Except.bind]
  | ok middle => simp [bind, Except.bind]

theorem mapError_eq_ok_iff {ι : Type} {result : Except ε α} {why : ε → ι} {value : α} :
    result.mapError why = .ok value ↔ result = .ok value := by
  cases result <;> simp [Except.mapError]

theorem mapM_ok {items : List α} {result : α → Except ε β} {value : α → β}
    (given : ∀ item ∈ items, result item = .ok (value item)) :
    items.mapM result = .ok (items.map value) := by
  induction items with
  | nil => rfl
  | cons item rest ih =>
      have others := ih fun other member => given other (List.mem_cons_of_mem _ member)
      rw [List.mapM_cons, given item List.mem_cons_self, others]
      rfl

theorem mapM_first_error {before after : List α} {item : α} {result : α → Except ε β}
    {failure : ε} (given : ∀ earlier ∈ before, ∃ value, result earlier = .ok value)
    (failed : result item = .error failure) :
    (before ++ item :: after).mapM result = .error failure := by
  induction before with
  | nil =>
      rw [List.nil_append, List.mapM_cons, failed]
      rfl
  | cons earlier rest ih =>
      obtain ⟨value, first⟩ := given earlier (by simp)
      rw [List.cons_append, List.mapM_cons, first,
        ih fun other member => given other (by simp [member])]
      rfl

theorem mapM_eq_ok_iff_forall₂ {items : List α} {result : α → Except ε β} {values : List β} :
    items.mapM result = .ok values ↔
      List.Forall₂ (fun item value => result item = .ok value) items values := by
  induction items generalizing values with
  | nil =>
      rw [List.mapM_nil, List.forall₂_nil_left_iff]
      simp [pure, Except.pure, eq_comm]
  | cons item rest ih =>
      rw [List.mapM_cons, List.forall₂_cons_left_iff, bind_eq_ok_iff]
      simp only [bind_eq_ok_iff, ih]
      constructor
      · rintro ⟨value, first, values, others, given⟩
        exact ⟨value, values, first, others, (Except.ok.inj given).symm⟩
      · rintro ⟨value, values, first, others, rfl⟩
        exact ⟨value, first, values, others, rfl⟩

theorem eq_map_of_mapM_ok {items : List α} {result : α → Except ε β} {value : α → β}
    {values : List β} (foreseen : ∀ item reached, result item = .ok reached → reached = value item)
    (given : items.mapM result = .ok values) : values = items.map value := by
  have each := (mapM_eq_ok_iff_forall₂.mp given).imp foreseen
  rw [← List.forall₂_eq_eq_eq, List.forall₂_map_right_iff]
  exact each.flip

theorem mapM_eq_ok_iff {items : List α} {result : α → Except ε β} :
    (∃ values, items.mapM result = .ok values) ↔
      ∀ item ∈ items, ∃ value, result item = .ok value := by
  induction items with
  | nil => exact iff_of_true ⟨[], rfl⟩ (by simp)
  | cons item rest ih =>
      rw [List.forall_mem_cons, ← ih, List.mapM_cons]
      cases result item with
      | error failure => simp [bind, Except.bind]
      | ok value => cases rest.mapM result <;> simp [bind, Except.bind, pure, Except.pure]

theorem mapM_eq_self_iff {items : List α} {result : α → Except ε α} :
    items.mapM result = .ok items ↔ ∀ item ∈ items, result item = .ok item := by
  induction items with
  | nil => exact iff_of_true rfl (by simp)
  | cons item rest ih =>
      rw [List.mapM_cons, List.forall_mem_cons, ← ih]
      cases result item with
      | error failure => simp [bind, Except.bind]
      | ok value => cases rest.mapM result <;> simp [bind, Except.bind, pure, Except.pure]

theorem map_eq_ok_iff_exists {result : Except ε α} {change : α → β} {value : β} :
    result.map change = .ok value ↔ ∃ given, result = .ok given ∧ change given = value := by
  cases result <;> simp [Except.map]

theorem map_eq_ok_iff {result : Except ε α} {change : α → β} (back : β → α)
    (undone : ∀ value, back (change value) = value) {value : β}
    (same : change (back value) = value) :
    result.map change = .ok value ↔ result = .ok (back value) := by
  cases result with
  | error failure => simp [Except.map]
  | ok given =>
      simp only [Except.map, Except.ok.injEq]
      constructor
      · rintro rfl
        exact (undone given).symm
      · rintro rfl
        exact same

theorem keys_of_mapM_ok {κ : Type} {entries : List (κ × α)} {result : κ × α → Except ε β}
    {values : List (κ × β)}
    (given : entries.mapM (fun entry => (result entry).map (entry.1, ·)) = .ok values) :
    values.map Prod.fst = entries.map Prod.fst := by
  induction entries generalizing values with
  | nil =>
      rw [List.mapM_nil] at given
      rw [← Except.ok.inj given]
      rfl
  | cons entry rest ih =>
      rw [List.mapM_cons, bind_eq_ok_iff] at given
      obtain ⟨first, reached, given⟩ := given
      obtain ⟨others, later, given⟩ := bind_eq_ok_iff.mp given
      rw [← Except.ok.inj given, List.map_cons, List.map_cons, ih later]
      cases entryResult : result entry with
      | error failure => simp [entryResult, Except.map] at reached
      | ok value =>
          rw [entryResult] at reached
          rw [← Except.ok.inj reached]

theorem mapM_reached {items : List α} {result : α → Except ε β} {values : List β}
    (given : items.mapM result = .ok values) :
    ∀ value ∈ values, ∃ item ∈ items, result item = .ok value :=
  exists_of_mem_right (mapM_eq_ok_iff_forall₂.mp given)

theorem foldlM_ok {items : List α} {result : β → α → Except ε β} {value : β → α → β}
    (given : ∀ item ∈ items, ∀ start, result start item = .ok (value start item)) (start : β) :
    items.foldlM result start = .ok (items.foldl value start) := by
  induction items generalizing start with
  | nil => rfl
  | cons item rest ih =>
      rw [List.foldlM_cons, given item (by simp)]
      exact ih (fun other member => given other (by simp [member])) (value start item)

theorem foldlM_first_error {before after : List α} {item : α} {result : β → α → Except ε β}
    {failure : ε} (given : ∀ earlier ∈ before, ∀ start, ∃ value, result start earlier = .ok value)
    (failed : ∀ start, result start item = .error failure) (start : β) :
    (before ++ item :: after).foldlM result start = .error failure := by
  induction before generalizing start with
  | nil =>
      rw [List.nil_append, List.foldlM_cons, failed]
      rfl
  | cons earlier rest ih =>
      obtain ⟨value, first⟩ := given earlier (by simp) start
      rw [List.cons_append, List.foldlM_cons, first]
      exact ih (fun other member => given other (by simp [member])) value

theorem forM_eq_ok_iff {items : List α} {check : α → Except ε Unit} :
    items.forM check = .ok () ↔ ∀ item ∈ items, check item = .ok () := by
  induction items with
  | nil => exact iff_of_true rfl (by simp)
  | cons item rest ih =>
      change (check item >>= fun _ => rest.forM check) = .ok () ↔ _
      cases first : check item with
      | error failure => simp [first, bind, Except.bind]
      | ok _ => simpa [first, bind, Except.bind] using ih

theorem forM_cases (items : List α) (check : α → Except ε Unit) :
    (∀ item ∈ items, check item = .ok ()) ∧ items.forM check = .ok () ∨
      ∃ before item after failure, items = before ++ item :: after ∧
        (∀ earlier ∈ before, check earlier = .ok ()) ∧ check item = .error failure ∧
        items.forM check = .error failure := by
  induction items with
  | nil => exact Or.inl ⟨by simp, rfl⟩
  | cons item rest ih =>
      have step : (item :: rest).forM check = check item >>= fun _ => rest.forM check := rfl
      rw [step]
      cases first : check item with
      | error failure => exact Or.inr ⟨[], item, rest, failure, rfl, by simp, first, rfl⟩
      | ok _ =>
          rcases ih with ⟨all, passed⟩ | ⟨before, bad, after, failure, split, fine, failed, stopped⟩
          · exact Or.inl ⟨List.forall_mem_cons.mpr ⟨first, all⟩, passed⟩
          · exact Or.inr ⟨item :: before, bad, after, failure, by rw [split]; rfl,
              List.forall_mem_cons.mpr ⟨first, fine⟩, failed, stopped⟩

theorem all_ok_or_first_error (items : List α) (result : α → Except ε β) :
    (∀ item ∈ items, ∃ value, result item = .ok value) ∨
      ∃ before item after failure, items = before ++ item :: after ∧
        (∀ earlier ∈ before, ∃ value, result earlier = .ok value) ∧
        result item = .error failure := by
  induction items with
  | nil => exact Or.inl (by simp)
  | cons item rest ih =>
      cases first : result item with
      | error failure => exact Or.inr ⟨[], item, rest, failure, rfl, by simp, first⟩
      | ok value =>
          rcases ih with all | ⟨before, bad, after, failure, split, fine, failed⟩
          · refine Or.inl fun other member => ?_
            rcases List.mem_cons.mp member with rfl | inside
            · exact ⟨value, first⟩
            · exact all other inside
          · refine Or.inr ⟨item :: before, bad, after, failure, by rw [split]; rfl, ?_, failed⟩
            intro earlier member
            rcases List.mem_cons.mp member with rfl | inside
            · exact ⟨value, first⟩
            · exact fine earlier inside

end Assay.Outcome
