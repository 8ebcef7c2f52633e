import Mathlib.Data.List.Induction
import Mathlib.Data.Nat.Find
import Assay.Launcher
import Assay.Proofs.Action

/-!
Waiting for a command, whatever it shows and however its clock runs. The first look that does not show it
running before the limit decides: a command that has ended is left alone, however late it is, and only
one that is seen running at its limit or past it is stopped, once.
-/

namespace Assay

inductive Deed
  | look (shown : Look) (clock : Nat)
  | pause
  | stop
  | reap

def Deed.isStop : Deed → Bool
  | .stop => true
  | _ => false

namespace Running

variable {σ : Type}

def recorded (command : Running σ) : Running (σ × List Deed) where
  look state :=
    let (shown, seen) := command.look state.1
    (shown, seen, state.2 ++ [.look shown (command.elapsed seen)])
  elapsed state := command.elapsed state.1
  pause state := (command.pause state.1, state.2 ++ [.pause])
  stop state := (command.stop state.1, state.2 ++ [.stop])
  reap state :=
    let (result, after) := command.reap state.1
    (result, after, state.2 ++ [.reap])

/-! What is seen of a command, look by look, as long as nothing but pauses comes between. -/

def standing (command : Running σ) (state : σ) : Nat → σ
  | 0 => state
  | n + 1 => command.pause (command.look (standing command state n)).2

def shownAt (command : Running σ) (state : σ) (n : Nat) : Look :=
  (command.look (command.standing state n)).1

def seenAt (command : Running σ) (state : σ) (n : Nat) : σ :=
  (command.look (command.standing state n)).2

def clockAt (command : Running σ) (state : σ) (n : Nat) : Nat :=
  command.elapsed (command.seenAt state n)

def Waits (command : Running σ) (limit : Nat) (state : σ) (n : Nat) : Prop :=
  ∀ m < n, command.shownAt state m = .running ∧ command.clockAt state m < limit

def pauses (command : Running σ) (state : σ) (n : Nat) : List Deed :=
  (List.range n).flatMap fun m =>
    [.look (command.shownAt state m) (command.clockAt state m), .pause]

/-- What a look leads to that decides: what is done after it, the result, and what is left. -/
inductive Settles (command : Running σ) (limit clock : Nat) (seen : σ) :
    Look → List Deed → Except WatchFault Watched → σ → Prop
  | ended {ending} :
      Settles command limit clock seen (.ended ending) [] (.ok { ending, timedOut := false }) seen
  | failed {fault} : Settles command limit clock seen (.failed fault) [] (.error (.waiting fault)) seen
  | stopped {ending after} : limit ≤ clock → command.reap (command.stop seen) = (.ok ending, after) →
      Settles command limit clock seen .running [.stop, .reap] (.ok { ending, timedOut := true }) after
  | lost {fault after} : limit ≤ clock → command.reap (command.stop seen) = (.error fault, after) →
      Settles command limit clock seen .running [.stop, .reap] (.error (.reaping fault)) after

/-- How a wait goes: without a limit it lasts to the end of the command; with one, up to the first look
that decides. -/
inductive Awaits (command : Running σ) (state : σ) :
    Option Duration → List Deed → Except WatchFault Watched → σ → Prop
  | reaped {ending after} : command.reap state = (.ok ending, after) →
      Awaits command state none [.reap] (.ok { ending, timedOut := false }) after
  | unreaped {fault after} : command.reap state = (.error fault, after) →
      Awaits command state none [.reap] (.error (.waiting fault)) after
  | watched {span n rest result after} : command.Waits span.nanos state n →
      command.Settles span.nanos (command.clockAt state n) (command.seenAt state n)
        (command.shownAt state n) rest result after →
      Awaits command state (some span)
        (command.pauses state n ++ .look (command.shownAt state n) (command.clockAt state n) :: rest)
        result after

/-- A command is stopped at most once, right after a look that shows it running at its limit or past it,
and only then the wait tells of a limit that was exceeded. -/
structure Restrained (limit : Option Duration) (log : List Deed)
    (result : Except WatchFault Watched) : Prop where
  once : log.countP Deed.isStop ≤ 1
  late : ∀ front back, log = front ++ .stop :: back →
    ∃ span ∈ limit, ∃ clock earlier, span.nanos ≤ clock ∧ front = earlier ++ [.look .running clock]
  spared : ∀ ending clock, .look (.ended ending) clock ∈ log →
    result = .ok { ending, timedOut := false }
  told : ∀ watched, result = .ok watched → (watched.timedOut = true ↔ .stop ∈ log)
  unlimited : limit = none → .stop ∉ log

/-! The looks from a later one on. -/

section

variable (command : Running σ) (state : σ) (n : Nat)

theorem standing_succ :
    command.standing state (n + 1) = command.pause (command.look (command.standing state n)).2 := rfl

theorem standing_pause :
    command.standing (command.pause (command.look state).2) n = command.standing state (n + 1) := by
  induction n with
  | zero => rfl
  | succ n ih => rw [standing_succ, ih, ← standing_succ]

theorem shownAt_pause :
    command.shownAt (command.pause (command.look state).2) n = command.shownAt state (n + 1) := by
  rw [shownAt, standing_pause, shownAt]

theorem seenAt_pause :
    command.seenAt (command.pause (command.look state).2) n = command.seenAt state (n + 1) := by
  rw [seenAt, standing_pause, seenAt]

theorem clockAt_pause :
    command.clockAt (command.pause (command.look state).2) n = command.clockAt state (n + 1) := by
  rw [clockAt, seenAt_pause, clockAt]

theorem pauses_succ :
    command.pauses state (n + 1) = command.pauses state n ++
      [.look (command.shownAt state n) (command.clockAt state n), .pause] := by
  simp only [pauses, List.range_succ, List.flatMap_append, List.flatMap_cons, List.flatMap_nil,
    List.append_nil]

end

/-! One look, and all of them. -/

theorem watch_succ (command : Running σ) (limit looks : Nat) (state : σ) :
    command.watch limit (looks + 1) state =
      match (command.shownAt state 0).decide limit (command.clockAt state 0) with
      | .finish ending => (some (.ok { ending, timedOut := false }), command.seenAt state 0)
      | .fail fault => (some (.error (.waiting fault)), command.seenAt state 0)
      | .wait => command.watch limit looks (command.pause (command.seenAt state 0))
      | .stop =>
        let (result, after) := command.reap (command.stop (command.seenAt state 0))
        (some ((result.mapError .reaping).map fun ending => { ending, timedOut := true }), after) :=
  rfl

variable {command : Running σ} {limit n : Nat} {state after : σ} {rest : List Deed}
  {result : Except WatchFault Watched}

theorem watch_paused (running : command.shownAt state 0 = .running)
    (early : command.clockAt state 0 < limit) (looks : Nat) :
    command.watch limit (looks + 1) state =
      command.watch limit looks (command.pause (command.look state).2) := by
  rw [watch_succ, (Look.decide_eq_wait_iff _ _ _).mpr ⟨running, early⟩]
  rfl

theorem watch_settled
    (settles : command.Settles limit (command.clockAt state 0) (command.seenAt state 0)
      (command.shownAt state 0) rest result after) (looks : Nat) :
    command.watch limit (looks + 1) state = (some result, after) := by
  rw [watch_succ]
  generalize command.shownAt state 0 = shown at settles ⊢
  cases settles with
  | ended => rfl
  | failed => rfl
  | stopped late reaped =>
      rw [(Look.decide_eq_stop_iff _ _ _).mpr ⟨rfl, late⟩]
      simp only [reaped]
      rfl
  | lost late unreaped =>
      rw [(Look.decide_eq_stop_iff _ _ _).mpr ⟨rfl, late⟩]
      simp only [unreaped]
      rfl

theorem watch_watched (waits : command.Waits limit state n)
    (settles : command.Settles limit (command.clockAt state n) (command.seenAt state n)
      (command.shownAt state n) rest result after) {looks : Nat} (enough : n < looks) :
    command.watch limit looks state = (some result, after) := by
  induction n generalizing looks state with
  | zero =>
      obtain ⟨looks, rfl⟩ := Nat.exists_eq_succ_of_ne_zero (Nat.ne_of_gt enough)
      exact watch_settled settles looks
  | succ n ih =>
      obtain ⟨looks, rfl⟩ := Nat.exists_eq_succ_of_ne_zero (Nat.ne_of_gt (Nat.zero_lt_of_lt enough))
      obtain ⟨running, early⟩ := waits 0 (Nat.succ_pos n)
      rw [watch_paused running early]
      refine ih (fun m below => ?_) ?_ (Nat.lt_of_succ_lt_succ enough)
      · rw [shownAt_pause, clockAt_pause]
        exact waits (m + 1) (Nat.succ_lt_succ below)
      · rwa [shownAt_pause, clockAt_pause, seenAt_pause]

/-! Writing down changes nothing. -/

section

variable (command : Running σ) (state : σ) (log : List Deed) (n : Nat)

theorem standing_recorded :
    command.recorded.standing (state, log) n =
      (command.standing state n, log ++ command.pauses state n) := by
  induction n with
  | zero => exact congrArg (Prod.mk state) (List.append_nil log).symm
  | succ n ih =>
      rw [pauses_succ, ← List.append_assoc]
      unfold standing
      rw [ih]
      simp only [recorded, List.append_assoc]
      rfl

theorem shownAt_recorded :
    command.recorded.shownAt (state, log) n = command.shownAt state n := by
  rw [shownAt, standing_recorded]
  rfl

theorem seenAt_recorded :
    command.recorded.seenAt (state, log) n = (command.seenAt state n, log ++ command.pauses state n ++
      [.look (command.shownAt state n) (command.clockAt state n)]) := by
  rw [seenAt, standing_recorded]
  rfl

theorem clockAt_recorded :
    command.recorded.clockAt (state, log) n = command.clockAt state n := by
  rw [clockAt, seenAt_recorded]
  rfl

end

theorem Settles.recorded {clock : Nat} {seen : σ} {shown : Look}
    (settles : command.Settles limit clock seen shown rest result after) (log : List Deed) :
    command.recorded.Settles limit clock (seen, log) shown rest result (after, log ++ rest) := by
  cases settles with
  | ended =>
      rw [List.append_nil]
      exact .ended
  | failed =>
      rw [List.append_nil]
      exact .failed
  | stopped late reaped =>
      refine .stopped late ?_
      simp only [Running.recorded, reaped, List.append_assoc]
      rfl
  | lost late unreaped =>
      refine .lost late ?_
      simp only [Running.recorded, unreaped, List.append_assoc]
      rfl

/-! Every wait has an end, and shows restraint. -/

theorem exists_settles {clock : Nat} {seen : σ} {shown : Look}
    (decides : ¬ (shown = .running ∧ clock < limit)) :
    ∃ rest result after, command.Settles limit clock seen shown rest result after := by
  cases shown with
  | ended ending => exact ⟨_, _, _, .ended⟩
  | failed fault => exact ⟨_, _, _, .failed⟩
  | running =>
      have late : limit ≤ clock := Nat.le_of_not_lt fun early => decides ⟨rfl, early⟩
      rcases reaped : command.reap (command.stop seen) with ⟨fault | ending, after⟩
      · exact ⟨_, _, _, .lost late reaped⟩
      · exact ⟨_, _, _, .stopped late reaped⟩

theorem exists_waits {last : Nat} (reached : limit ≤ command.clockAt state last) :
    ∃ n ≤ last, command.Waits limit state n ∧
      ¬ (command.shownAt state n = .running ∧ command.clockAt state n < limit) := by
  classical
  have decides : ∃ n, ¬ (command.shownAt state n = .running ∧ command.clockAt state n < limit) :=
    ⟨last, fun waiting => Nat.not_lt_of_le reached waiting.2⟩
  refine ⟨Nat.find decides, ?_, fun m below => ?_, Nat.find_spec decides⟩
  · exact Nat.find_min' decides fun waiting => Nat.not_lt_of_le reached waiting.2
  · exact not_not.mp (Nat.find_min decides below)

theorem exists_reaped (command : Running σ) (state : σ) (looks : Nat) :
    ∃ result after, command.await none looks state = (some result, after) ∧
      command.Awaits state none [.reap] result after := by
  unfold await
  rcases reaped : command.reap state with ⟨fault | ending, after⟩
  · exact ⟨_, _, rfl, .unreaped reaped⟩
  · exact ⟨_, _, rfl, .reaped reaped⟩

theorem exists_watched {span : Duration} {last looks : Nat}
    (reached : span.nanos ≤ command.clockAt state last) (enough : last < looks) :
    ∃ log result after, command.await (some span) looks state = (some result, after) ∧
      command.Awaits state (some span) log result after := by
  obtain ⟨n, early, waits, decides⟩ := exists_waits reached
  obtain ⟨rest, result, after, settles⟩ := exists_settles decides
  exact ⟨_, result, after, watch_watched waits settles (Nat.lt_of_le_of_lt early enough),
    .watched waits settles⟩

theorem exists_awaits {limit : Option Duration}
    (reached : ∀ span ∈ limit, ∃ n, span.nanos ≤ command.clockAt state n) :
    ∃ log result after, command.Awaits state limit log result after := by
  cases limit with
  | none =>
      obtain ⟨result, after, -, awaits⟩ := exists_reaped command state 0
      exact ⟨_, result, after, awaits⟩
  | some span =>
      obtain ⟨last, reached⟩ := reached span rfl
      obtain ⟨log, result, after, -, awaits⟩ := exists_watched reached (Nat.lt_succ_self last)
      exact ⟨log, result, after, awaits⟩

theorem Awaits.await {limit : Option Duration} {log : List Deed}
    (awaits : command.Awaits state limit log result after) :
    ∃ enough, ∀ looks ≥ enough,
      command.await limit looks state = (some result, after) ∧
      command.recorded.await limit looks (state, []) = (some result, after, log) := by
  cases awaits with
  | reaped reaped =>
      refine ⟨0, fun looks _ => ⟨?_, ?_⟩⟩
      · simp only [Running.await, reaped]
        rfl
      · simp only [Running.await, recorded, reaped]
        rfl
  | unreaped unreaped =>
      refine ⟨0, fun looks _ => ⟨?_, ?_⟩⟩
      · simp only [Running.await, unreaped]
        rfl
      · simp only [Running.await, recorded, unreaped]
        rfl
  | @watched span n rest result after waits settles =>
      refine ⟨n + 1, fun looks enough => ⟨watch_watched waits settles enough, ?_⟩⟩
      have waitsToo : command.recorded.Waits span.nanos (state, []) n := by
        intro m below
        rw [shownAt_recorded, clockAt_recorded]
        exact waits m below
      have settlesToo : command.recorded.Settles span.nanos (command.recorded.clockAt (state, []) n)
          (command.recorded.seenAt (state, []) n) (command.recorded.shownAt (state, []) n) rest result
          (after, command.pauses state n ++
            .look (command.shownAt state n) (command.clockAt state n) :: rest) := by
        rw [shownAt_recorded, clockAt_recorded, seenAt_recorded, List.nil_append,
          List.append_cons _ _ rest]
        exact settles.recorded _
      exact watch_watched waitsToo settlesToo enough

theorem mem_pauses {deed : Deed} :
    deed ∈ command.pauses state n ↔ ∃ m < n,
      deed = .look (command.shownAt state m) (command.clockAt state m) ∨ deed = .pause := by
  simp [pauses]

theorem stop_notMem_looks (shown : Look) (clock : Nat) :
    Deed.stop ∉ command.pauses state n ++ [.look shown clock] := by
  simp [mem_pauses]

theorem ended_notMem_pauses (waits : command.Waits limit state n) (ending : Ending) (clock : Nat) :
    Deed.look (.ended ending) clock ∉ command.pauses state n := by
  rw [mem_pauses]
  rintro ⟨m, below, same | same⟩
  · rw [(waits m below).1] at same
    cases same
  · cases same

theorem countP_isStop_eq_zero {log : List Deed} (unstopped : Deed.stop ∉ log) :
    log.countP Deed.isStop = 0 := by
  rw [List.countP_eq_zero]
  intro deed member stops
  cases deed with
  | stop => exact unstopped member
  | look shown clock => cases stops
  | pause => cases stops
  | reap => cases stops

theorem restrained_of_unstopped {limit : Option Duration} {log : List Deed}
    (unstopped : Deed.stop ∉ log)
    (inTime : ∀ watched, result = .ok watched → watched.timedOut = false)
    (spared : ∀ ending clock, .look (.ended ending) clock ∈ log →
      result = .ok { ending, timedOut := false }) : Restrained limit log result where
  once := by
    rw [countP_isStop_eq_zero unstopped]
    exact Nat.zero_le 1
  late front back same := by
    refine absurd ?_ unstopped
    rw [same]
    exact List.mem_append_right front List.mem_cons_self
  spared := spared
  told watched same := by
    rw [inTime watched same]
    simpa using unstopped
  unlimited _ := unstopped

theorem Waits.restrained_of_stopped {span : Duration} (waits : command.Waits span.nanos state n)
    {clock : Nat} (late : span.nanos ≤ clock)
    (overdue : ∀ watched, result = .ok watched → watched.timedOut = true) :
    Restrained (some span) (command.pauses state n ++ [.look .running clock, .stop, .reap])
      result := by
  have unstopped : Deed.stop ∉ command.pauses state n ++ [.look .running clock] :=
    stop_notMem_looks .running clock
  rw [List.append_cons]
  constructor
  case once =>
    rw [List.countP_append, countP_isStop_eq_zero unstopped]
    decide
  case late =>
    intro front back same
    obtain ⟨rfl, -, -⟩ := (List.append_cons_inj_of_notMem unstopped (by simp)).mp same
    exact ⟨span, rfl, clock, _, late, rfl⟩
  case spared =>
    intro ending other member
    have inside : Deed.look (.ended ending) other ∈ command.pauses state n := by simpa using member
    exact absurd inside (ended_notMem_pauses waits ending other)
  case told =>
    intro watched same
    simp [overdue watched same]
  case unlimited =>
    intro unlimited
    cases unlimited

theorem Awaits.restrained {limit : Option Duration} {log : List Deed}
    (awaits : command.Awaits state limit log result after) : Restrained limit log result := by
  cases awaits with
  | reaped => exact restrained_of_unstopped (by simp) (by rintro _ ⟨⟩; rfl) (by simp)
  | unreaped => exact restrained_of_unstopped (by simp) (by simp) (by simp)
  | @watched span n rest result after waits settles =>
      generalize command.shownAt state n = shown at settles ⊢
      cases settles with
      | @ended ending =>
          refine restrained_of_unstopped (stop_notMem_looks _ _) (by rintro _ ⟨⟩; rfl) ?_
          intro other clock member
          rcases List.mem_append.mp member with earlier | last
          · exact absurd earlier (ended_notMem_pauses waits other clock)
          · cases List.mem_singleton.mp last
            rfl
      | @failed fault =>
          refine restrained_of_unstopped (stop_notMem_looks _ _) (by simp) ?_
          intro ending clock member
          rcases List.mem_append.mp member with earlier | last
          · exact absurd earlier (ended_notMem_pauses waits ending clock)
          · cases List.mem_singleton.mp last
      | stopped late reaped => exact waits.restrained_of_stopped late (by rintro _ ⟨⟩; rfl)
      | lost late unreaped => exact waits.restrained_of_stopped late (by simp)

/-! Whatever looks show, and whatever a clock says at them, some command shows it. -/

section

variable (shown : Nat → Look) (clock : Nat → Nat) (reaped : Except FileFault Ending) (n : Nat)

/-- The command that shows this, look by look; what is left of it is the number of looks. -/
def showing : Running Nat where
  look count := (shown count, count + 1)
  elapsed count := clock (count - 1)
  pause count := count
  stop count := count
  reap count := (reaped, count)

theorem standing_showing : (showing shown clock reaped).standing 0 n = n := by
  induction n with
  | zero => rfl
  | succ n ih =>
      rw [standing_succ, ih]
      rfl

theorem clockAt_showing : (showing shown clock reaped).clockAt 0 n = clock n := by
  rw [clockAt, seenAt, standing_showing]
  rfl

end

/-- A wait whose clock reaches the limit comes to an end and shows restraint: the look that decides is the
first that does not show the command running before the limit. A limit of zero is none. -/
theorem wait_exact {σ : Type} (command : Running σ) (state : σ) (limit : Option Duration)
    (reached : ∀ span ∈ limit, ∃ n, span.nanos ≤ command.clockAt state n) :
    (∃ log result after, command.Awaits state limit log result after ∧
      Restrained limit log result ∧
      ∃ enough, ∀ looks ≥ enough,
        command.await limit looks state = (some result, after) ∧
        command.recorded.await limit looks (state, []) = (some result, after, log)) ∧
      ∀ root timeout, (Launcher.withTimeout root timeout).limit = none ↔ timeout = .zero := by
  refine ⟨?_, fun root timeout => by simp [Launcher.withTimeout]⟩
  obtain ⟨log, result, after, awaits⟩ := exists_awaits reached
  exact ⟨log, result, after, awaits, awaits.restrained, awaits.await⟩

def brink : Option Duration := some ⟨15, by decide⟩

def lasting (last : Look) : Running Nat :=
  showing (fun n => if n < 2 then .running else last) (fun n => 10 * n) (.ok (.signal Signal.kill))

theorem clockAt_lasting (last : Look) :
    ∀ span ∈ brink, ∃ n, span.nanos ≤ (lasting last).clockAt 0 n := by
  rintro span ⟨⟩
  refine ⟨2, ?_⟩
  unfold lasting
  rw [clockAt_showing]
  decide

/-- A command that has ended at the look after its limit is left alone, and one that is still running at
that look is stopped. -/
theorem wait_exact_brink :
    ((lasting (.ended (.code 3))).Awaits 0 brink
        [.look .running 0, .pause, .look .running 10, .pause, .look (.ended (.code 3)) 20]
        (.ok { ending := .code 3, timedOut := false }) 3) ∧
      (lasting .running).Awaits 0 brink
        [.look .running 0, .pause, .look .running 10, .pause, .look .running 20, .stop, .reap]
        (.ok { ending := .signal Signal.kill, timedOut := true }) 3 := by
  have told {last : Look} {log : List Deed} {result : Except WatchFault Watched} {after : Nat}
      (answer : ∀ looks, (lasting last).recorded.await brink (looks + 3) (0, []) =
        (some result, after, log)) : (lasting last).Awaits 0 brink log result after := by
    obtain ⟨⟨_, _, _, awaits, -, enough, answers⟩, -⟩ :=
      wait_exact (lasting last) 0 brink (clockAt_lasting last)
    have same := (answers (enough + 3) (Nat.le_add_right enough 3)).2
    rw [answer] at same
    cases same
    exact awaits
  exact ⟨told fun _ => rfl, told fun _ => rfl⟩

end Running

/-! The host. -/

namespace Host

theorem clock_runUntil (time steps : Nat) (host : Host) : time ≤ (runUntil time steps host).clock := by
  induction steps generalizing host with
  | zero => exact Nat.le_max_right _ _
  | succ steps ih =>
      unfold runUntil
      split
      · split
        · exact ih _
        · exact Nat.le_max_right _ _
      · exact Nat.le_max_right _ _

theorem clock_pass (host : Host) (span : Nat) : host.clock + span ≤ (host.pass span).clock :=
  clock_runUntil _ _ host

theorem groups_bury (host : Host) (task : Task) (ending : Ending) :
    (host.bury task ending).tasks.map Task.group = host.tasks.map Task.group := by
  unfold bury forget
  rw [List.map_map]
  refine List.map_congr_left fun other _ => ?_
  rw [Function.comp_apply]
  split <;> rfl

theorem groups_endTasks (host : Host) (signal : Nat) (chosen : Task → Bool) :
    (host.endTasks signal chosen).tasks.map Task.group =
      (host.tasks.filter fun task => !chosen task).map Task.group := by
  unfold endTasks
  generalize host.tasks.filter chosen = ended
  induction ended using List.reverseRecOn with
  | nil => rfl
  | append_singleton ended task ih => rw [List.foldl_concat, groups_bury, ih]

end Host

namespace Launcher

open Running (Restrained)

theorem look_running (number started : Nat) (host : Host) :
    ((running number started).look host).2 = host.pass 0 := by
  unfold running
  dsimp only
  split <;> rfl

theorem group_ne_of_mem_stop {number started : Nat} {host : Host} {task : Task}
    (member : task ∈ ((running number started).stop host).tasks) : task.group ≠ number := by
  have listed : task.group ∈ ((running number started).stop host).tasks.map Task.group :=
    List.mem_map_of_mem member
  unfold running at listed
  dsimp only at listed
  rw [Host.groups_endTasks] at listed
  obtain ⟨other, kept, same⟩ := List.mem_map.mp listed
  rw [← same]
  simpa using (List.mem_filter.mp kept).2

theorem clock_standing (number : Nat) {started : Nat} {host : Host} (begun : started ≤ host.clock)
    (n : Nat) :
    started + n * pollInterval ≤ ((running number started).standing host n).clock := by
  induction n with
  | zero =>
      rw [Nat.zero_mul]
      exact begun
  | succ n ih =>
      have looked := Host.clock_pass ((running number started).standing host n) 0
      have paused := Host.clock_pass (((running number started).standing host n).pass 0) pollInterval
      rw [Running.standing_succ, look_running, Nat.succ_mul]
      change _ ≤ ((((running number started).standing host n).pass 0).pass pollInterval).clock
      omega

theorem clockAt_running (number : Nat) {started : Nat} {host : Host} (begun : started ≤ host.clock)
    (n : Nat) :
    n * (1000 * pollInterval) ≤ (running number started).clockAt host n := by
  have stood := clock_standing number begun n
  have looked := Host.clock_pass ((running number started).standing host n) 0
  unfold Running.clockAt Running.seenAt
  rw [look_running]
  change _ ≤ ((((running number started).standing host n).pass 0).clock - started) * 1000
  unfold pollInterval at stood ⊢
  omega

theorem await_answers (launcher : Launcher) (number : Nat) {started : Nat} {host : Host}
    (begun : started ≤ host.clock) :
    ∃ log result after,
      (running number started).await launcher.limit (looksWithin launcher.limit) host =
        (some result, after) ∧
      (running number started).Awaits host launcher.limit log result after := by
  cases launcher.limit with
  | none => exact ⟨_, Running.exists_reaped _ host _⟩
  | some span =>
      have late := clockAt_running number begun (span.nanos / (1000 * pollInterval) + 1)
      have reached : span.nanos ≤
          (running number started).clockAt host (span.nanos / (1000 * pollInterval) + 1) := by
        unfold pollInterval at late ⊢
        omega
      exact Running.exists_watched reached (Nat.lt_succ_self _)

theorem clock_spawn {programs : Programs} {line : CommandLine} {captures : Captures}
    {stdout stderr : Channel} {host spawned : Host} {number : Nat}
    (given : (spawn programs line captures stdout stderr).outcome host = (.ok number, spawned)) :
    spawned.clock = host.clock := by
  unfold spawn at given
  rw [Action.outcome_bind, Action.outcome_get] at given
  dsimp only at given
  split at given
  · cases given
  · cases given
    rfl

theorem watched_runWithin {programs : Programs} {launcher : Launcher} {line : CommandLine}
    {captures : Captures} {host after : Host} {output : Output}
    (given : (launcher.runWithin programs line captures).outcome host = (.ok output, after)) :
    ∃ number started spawned watched left, started ≤ spawned.clock ∧
      (running number started).await launcher.limit (looksWithin launcher.limit) spawned =
        (some (.ok watched), left) ∧
      output.timedOut = watched.timedOut := by
  unfold runWithin at given
  obtain ⟨stdout, _, -, given⟩ := Action.outcome_bind_eq_ok given
  obtain ⟨stderr, opened, -, given⟩ := Action.outcome_bind_eq_ok given
  rw [Action.outcome_bind, Action.outcome_get] at given
  obtain ⟨number, spawned, spawns, given⟩ := Action.outcome_bind_eq_ok given
  rw [Action.outcome_bind, Action.outcome_get] at given
  dsimp only at given
  rcases awaited : (running number opened.clock).await launcher.limit (looksWithin launcher.limit)
    spawned with ⟨result, left⟩
  rw [awaited] at given
  obtain ⟨_, _, -, given⟩ := Action.outcome_bind_eq_ok given
  obtain ⟨watched, _, answered, given⟩ := Action.outcome_bind_eq_ok given
  obtain ⟨stdoutText, _, -, given⟩ := Action.outcome_bind_eq_ok given
  obtain ⟨stderrText, _, -, given⟩ := Action.outcome_bind_eq_ok given
  obtain ⟨rfl, -⟩ := Action.outcome_pure_eq_ok given
  have known : result = some (.ok watched) := by
    rw [Action.outcome_ofExcept, Prod.mk.injEq, Outcome.mapError_eq_ok_iff] at answered
    rcases result with - | result
    · cases answered.1
    · exact congrArg some answered.1
  exact ⟨number, opened.clock, spawned, watched, left, Nat.le_of_eq (clock_spawn spawns).symm,
    known ▸ awaited, rfl⟩

theorem launchWith_eq (programs : Programs) (launcher : Launcher) (line : CommandLine) :
    launcher.launchWith programs line = launcher.createScratch >>= fun captures =>
      ExceptT.mk fun host =>
        (((launcher.runWithin programs line captures).outcome host).1,
          removeScratch captures ((launcher.runWithin programs line captures).outcome host).2) := rfl

theorem timedOut_launchWith {programs : Programs} {launcher : Launcher} {line : CommandLine}
    {host after : Host} {output : Output}
    (given : (launcher.launchWith programs line).outcome host = (.ok output, after)) :
    ∃ number started spawned log watched left,
      (running number started).Awaits spawned launcher.limit log (.ok watched) left ∧
      Restrained launcher.limit log (.ok watched) ∧
      (output.timedOut = true ↔ .stop ∈ log) ∧
      (launcher.limit = none → output.timedOut = false) := by
  rw [launchWith_eq] at given
  obtain ⟨captures, made, -, given⟩ := Action.outcome_bind_eq_ok given
  rcases ran : (launcher.runWithin programs line captures).outcome made with ⟨result, left⟩
  have same : ((launcher.runWithin programs line captures).outcome made).1 = .ok output :=
    congrArg Prod.fst given
  rw [ran] at same
  obtain rfl : result = .ok output := same
  obtain ⟨number, started, spawned, watched, left, begun, awaited, same⟩ := watched_runWithin ran
  obtain ⟨log, _, _, answers, awaits⟩ := await_answers launcher number begun
  rw [awaited] at answers
  cases answers
  have restrained := awaits.restrained
  have told := same ▸ restrained.told watched rfl
  refine ⟨number, started, spawned, log, watched, left, awaits, restrained, told, fun unlimited => ?_⟩
  exact Bool.eq_false_iff.mpr fun late => restrained.unlimited unlimited (told.mp late)

end Launcher

end Assay
