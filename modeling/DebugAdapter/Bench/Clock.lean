import DebugAdapter.Text.Duration
/-!
# A clock for benches

A bench sets parts of the adapter up with scripted counterparts and lets them run. Nothing takes
time there but waiting: moves are made as long as one is possible, and only then does the clock go
on to the next timer.
-/

namespace DebugAdapter.Bench

/-- A machine with a clock. -/
structure Clocked (σ : Type) where
  now : σ → Millis
  setNow : σ → Millis → σ
  /-- The next move that is possible at the present time. -/
  move? : σ → Option σ
  /-- When the next timer fires. -/
  nextDue? : σ → Option Millis

namespace Clocked

variable {σ : Type}

/-- At most so many moves and waits are made in one run. -/
def maxMoves : Nat := 10000000

/-- The machine after at most `fuel` moves and waits up to the time `horizon`. -/
def runWith (m : Clocked σ) (horizon : Millis) : Nat → σ → σ
  | 0, s => s
  | fuel + 1, s =>
    match m.move? s with
    | some s => runWith m horizon fuel s
    | none =>
      match m.nextDue? s with
      | some due =>
        if due ≤ horizon then runWith m horizon fuel (m.setNow s (max due (m.now s)))
        else m.setNow s horizon
      | none => m.setNow s horizon

/-- The machine some time later. -/
def runFor (m : Clocked σ) (span : Millis) (s : σ) : σ := m.runWith (m.now s + span) maxMoves s

/-- The machine as soon as a view of it has not changed for `calm` spans in a row; at most `fuel`
spans pass. -/
def settleWith {α : Type} [DecidableEq α] (m : Clocked σ) (span : Millis) (view : σ → α)
    (calm : Nat) : Nat → Nat → σ → σ
  | 0, _, s => s
  | _, 0, s => s
  | fuel + 1, left + 1, s =>
    let after := m.runFor span s
    if view after = view s then settleWith m span view calm fuel left after
    else settleWith m span view calm fuel calm after

/-- The machine as soon as nothing changes any more that the view shows. -/
def settle {α : Type} [DecidableEq α] (m : Clocked σ) (view : σ → α) (s : σ) : σ :=
  m.settleWith 20 view 4 1000 4 s

end Clocked

end DebugAdapter.Bench
