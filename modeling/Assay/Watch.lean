import Assay.Duration
import Assay.Host.Basic

/-!
Waiting for a command under a time limit. The command is looked at again and again; one look decides
whether to go on waiting. A command that is seen to have ended is never stopped, even past its limit.
-/

namespace Assay

inductive Look
  | running
  | ended (ending : Ending)
  | failed (fault : FileFault)

inductive Decision
  | wait
  | finish (ending : Ending)
  | fail (fault : FileFault)
  | stop

/-- Only a command that is seen running at or past its limit is stopped. -/
def Look.decide (limit elapsed : Nat) : Look → Decision
  | .running => if limit ≤ elapsed then .stop else .wait
  | .ended ending => .finish ending
  | .failed fault => .fail fault

section

variable (look : Look) (limit elapsed : Nat)

theorem Look.decide_eq_wait_iff : look.decide limit elapsed = .wait ↔ look = .running ∧ elapsed < limit := by
  cases look with
  | running => simp [Look.decide]
  | ended ending => simp [Look.decide]
  | failed fault => simp [Look.decide]

theorem Look.decide_eq_stop_iff : look.decide limit elapsed = .stop ↔ look = .running ∧ limit ≤ elapsed := by
  cases look with
  | running => simp [Look.decide]
  | ended ending => simp [Look.decide]
  | failed fault => simp [Look.decide]

end

structure Watched where
  ending : Ending
  timedOut : Bool
deriving DecidableEq

inductive WatchFault
  | waiting (fault : FileFault)
  | reaping (fault : FileFault)
deriving DecidableEq

structure Running (σ : Type) where
  look : σ → Look × σ
  /-- Nanoseconds since the start. -/
  elapsed : σ → Nat
  pause : σ → σ
  stop : σ → σ
  reap : σ → Except FileFault Ending × σ

namespace Running

variable {σ : Type}

/-- Looks at a command until a look decides the wait. The first number bounds the looks. -/
def watch (command : Running σ) (limit : Nat) : Nat → σ → Option (Except WatchFault Watched) × σ
  | 0, state => (none, state)
  | looks + 1, state =>
    let (look, seen) := command.look state
    match look.decide limit (command.elapsed seen) with
    | .finish ending => (some (.ok { ending, timedOut := false }), seen)
    | .fail fault => (some (.error (.waiting fault)), seen)
    | .wait => watch command limit looks (command.pause seen)
    | .stop =>
      let (result, after) := command.reap (command.stop seen)
      (some ((result.mapError .reaping).map fun ending => { ending, timedOut := true }), after)

/-- Waits for a command. Without a limit it is never stopped. -/
def await (command : Running σ) (limit : Option Duration) (looks : Nat) (state : σ) :
    Option (Except WatchFault Watched) × σ :=
  match limit with
  | some span => watch command span.nanos looks state
  | none =>
    let (result, after) := command.reap state
    (some ((result.mapError .waiting).map fun ending => { ending, timedOut := false }), after)

end Running

end Assay
