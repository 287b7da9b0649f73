import DebugAdapter.Proofs.Control.Moments
/-!
# Breakpoints are the user's

Execution control looks at breakpoints, but it neither sets nor clears any: in a course they change
only when the user sets them.
-/

namespace DebugAdapter

namespace Control

variable (c : Control)

@[simp] theorem terminate_breakpoints : c.terminate.breakpoints = c.breakpoints := by
  unfold terminate
  split <;> rfl

@[simp] theorem evaluate_breakpoints (expression : String) (context : Option String) :
    (c.evaluate expression context).2.breakpoints = c.breakpoints := by
  unfold evaluate
  split
  · rfl
  · split <;> rfl

@[simp] theorem follow_breakpoints (now : Millis) (t : Task) (i : Nat) (d : Debuggee)
    (δ : Decision) : (c.follow now t i d δ).breakpoints = c.breakpoints := by
  unfold follow
  split <;> rfl

@[simp] theorem launch_breakpoints (now : Millis) (t : Task) (program : String) (debug : Bool) :
    (c.launch now t program debug).breakpoints = c.breakpoints := by
  unfold launch
  dsimp only
  split
  · exact c.terminate_breakpoints
  · exact c.terminate_breakpoints

@[simp] theorem begin_breakpoints (now : Millis) (t : Task) :
    (c.begin now t).breakpoints = c.breakpoints := by
  have pursued (goal : Goal) : (c.pursuePresent now t goal).breakpoints = c.breakpoints := by
    unfold pursuePresent
    split
    · exact c.follow_breakpoints ..
    · rfl
  unfold begin
  split
  · exact c.launch_breakpoints ..
  · exact pursued _
  · exact pursued _

theorem hear_breakpoints (e : Monitor.Event) : (c.hear e).breakpoints = c.breakpoints := by
  cases e with
  | done => exact c.terminate_breakpoints
  | _ => rfl

variable {c} {c' : Control} {now : Millis}

theorem advance?_breakpoints (advanced : c.advance? now = some c') :
    c'.breakpoints = c.breakpoints := by
  obtain ⟨⟨task, phase⟩, -, advanced⟩ := Option.bind_eq_some_iff.mp advanced
  cases phase with
  | status i due =>
      obtain ⟨d, -, advanced⟩ := Option.bind_eq_some_iff.mp advanced
      split at advanced
      · cases advanced
        unfold install
        split <;> rfl
      · split at advanced <;> cases advanced
        rfl
  | code i =>
      obtain ⟨d, -, advanced⟩ := Option.bind_eq_some_iff.mp advanced
      split at advanced <;> cases advanced
      unfold enter
      split
      · exact c.follow_breakpoints ..
      · rfl
  | driving i stage waiter =>
      obtain ⟨d, -, advanced⟩ := Option.bind_eq_some_iff.mp advanced
      split at advanced
      · cases advanced
        exact c.follow_breakpoints ..
      · split at advanced <;> cases advanced
        exact c.follow_breakpoints ..

/-- No activity of execution control changes breakpoints. -/
theorem perform?_breakpoints {a : Activity} (performed : c.perform? now a = some c') :
    c'.breakpoints = c.breakpoints := by
  cases a with
  | debuggee i a =>
      obtain ⟨d, -, performed⟩ := Option.bind_eq_some_iff.mp performed
      obtain ⟨d', -, performed⟩ := Option.bind_eq_some_iff.mp performed
      cases performed
      rfl
  | hear =>
      obtain ⟨i, -, performed⟩ := Option.bind_eq_some_iff.mp performed
      obtain ⟨d, -, performed⟩ := Option.bind_eq_some_iff.mp performed
      obtain ⟨⟨e, d'⟩, -, performed⟩ := Option.bind_eq_some_iff.mp performed
      cases performed
      exact hear_breakpoints _ e
  | ask i =>
      obtain ⟨t, -, performed⟩ := Option.bind_eq_some_iff.mp performed
      cases performed
      rfl
  | grant =>
      simp only [perform?] at performed
      split at performed
      · cases performed
        exact begin_breakpoints _ now _
      · cases performed
  | advance => exact advance?_breakpoints performed

/-- What happens to the breakpoints then. -/
def Happening.edit : Happening → Program.Breakpoints → Program.Breakpoints
  | .breakpoints f => f
  | .activity .. | .request .. | .terminate | .evaluate .. | .interpreter .. => id

theorem happen_breakpoints (c : Control) (h : Happening) :
    (c.happen h).breakpoints = h.edit c.breakpoints := by
  cases h with
  | activity now a =>
      rw [happen]
      cases performed : c.perform? now a with
      | none => rfl
      | some c' => exact perform?_breakpoints performed
  | terminate => exact c.terminate_breakpoints
  | evaluate expression context => exact c.evaluate_breakpoints expression context
  | request | breakpoints | interpreter => rfl

/-- What becomes of breakpoints from the `n`th moment up to the `k`th. -/
def edited (os : Nat → Occurrence) (n k : Nat) (bs : Program.Breakpoints) : Program.Breakpoints :=
  (List.range' n (k - n)).foldl (fun bs j => (os j).happening.edit bs) bs

/-- Breakpoints change only as the user sets them. -/
theorem breakpoints_during (c : Control) (os : Nat → Occurrence) {n k : Nat} (later : n ≤ k) :
    (c.during os k).breakpoints = edited os n k (c.during os n).breakpoints := by
  induction later with
  | refl => simp [edited]
  | @step k later ih =>
      have more : List.range' n (k + 1 - n) = List.range' n (k - n) ++ [k] := by
        rw [Nat.succ_sub later, List.range'_concat]
        simp only [Nat.one_mul, Nat.add_sub_cancel' later]
      have after : (c.during os (k + 1)).breakpoints =
          (os k).happening.edit (c.during os k).breakpoints :=
        happen_breakpoints ((c.during os k).facing (os k)) (os k).happening
      rw [after, ih, edited, edited, more, List.foldl_concat]

end Control

end DebugAdapter
