import Assay.Host.Request

/-!
Running programs while time passes. Of all programs the one goes on first that has waited for it
longest.
-/

namespace Assay.Host

def stepBudget : Nat := 20000000

def isReady (task : Task) : Bool := !task.waits && !task.stopped

def stir (host : Host) : Host :=
  { host with
    tasks := host.tasks.map fun task =>
      if task.waits then { task with waits := false, wake := max task.wake (host.clock + wakeDelay) }
      else task }

def first? : List Task → Option Task → Option Task
  | [], best => best
  | task :: rest, best =>
    if isReady task then
      match best with
      | some chosen => first? rest (if task.wake < chosen.wake then some task else some chosen)
      | none => first? rest (some task)
    else first? rest best

def next? (host : Host) : Option Task := first? host.tasks none

def advance (host : Host) (task : Task) : Host :=
  let now := max host.clock task.wake
  let others : Host :=
    { host with
      clock := now
      tree := { host.tree with now := fileTime now, mask := task.mask }
      tasks := host.tasks.filter (·.number ≠ task.number) }
  match task.activity with
  | .ended ending => (others.bury task ending).stir
  | .fork child next =>
    let (number, numbered) := others.fresh
    let started : Task :=
      { task with number, parent := task.number, activity := child, wake := now + forkDelay, caught := [],
                  made := [] }
    { numbered with
      tasks := numbered.tasks ++ [started, { task with activity := next number, wake := now + parentDelay }] }
  | .ask request next =>
    let replied := answer task others request
    match replied.task, replied.answer with
    | none, _ => replied.host.stir
    | some left, none =>
      { replied.host with tasks := replied.host.tasks ++ [{ left with waits := true, wake := now }] }
    | some left, some value =>
      let onward : Host := if stirs request then replied.host.stir else replied.host
      { onward with tasks := onward.tasks ++ [{ left with activity := next value, wake := now + cost request }] }

def runUntil (time : Nat) : Nat → Host → Host
  | 0, host => { host with clock := max host.clock time }
  | steps + 1, host =>
    match host.next? with
    | some task =>
      if task.wake ≤ time then runUntil time steps (host.advance task)
      else { host with clock := max host.clock time }
    | none => { host with clock := max host.clock time }

def pass (host : Host) (span : Nat) : Host := runUntil (host.clock + span) stepBudget host

def runToEnd (number : Nat) : Nat → Host → Host
  | 0, host => host
  | steps + 1, host =>
    match host.endingOf? number, host.next? with
    | none, some task => runToEnd number steps (host.advance task)
    | _, _ => host

end Assay.Host
