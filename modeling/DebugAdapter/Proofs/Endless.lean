/-!
# Runs without end

The states of a machine that is given one input after the other for ever. What must come in the end
is shown by a number that never grows: it cannot drop again and again.
-/

namespace DebugAdapter

/-- The state after the first `n` of endlessly many inputs. -/
def endless {σ ι : Type} (step : σ → ι → σ) (start : σ) (inputs : Nat → ι) : Nat → σ
  | 0 => start
  | n + 1 => step (endless step start inputs n) (inputs n)

section

variable {μ : Nat → Nat} {n : Nat}

theorem le_of_sinks (sinks : ∀ k ≥ n, μ (k + 1) ≤ μ k) {k : Nat} (later : n ≤ k) : μ k ≤ μ n := by
  induction later with
  | refl => exact Nat.le_refl _
  | @step k later ih => exact Nat.le_trans (sinks k later) ih

/-- A number that never grows does not drop again and again. -/
theorem no_endless_descent (sinks : ∀ k ≥ n, μ (k + 1) ≤ μ k)
    (drops : ∀ k ≥ n, ∃ m ≥ k, μ (m + 1) < μ m) : False := by
  generalize bound : μ n = b
  induction b using Nat.strongRecOn generalizing n with
  | ind b ih =>
      obtain ⟨m, later, drop⟩ := drops n (Nat.le_refl n)
      have lower : μ (m + 1) < b :=
        Nat.lt_of_lt_of_le drop (bound ▸ le_of_sinks sinks later)
      exact ih _ lower (fun k still => sinks k (by omega)) (fun k still => drops k (by omega)) rfl

/-- What goes on until something comes, and draws nearer to it again and again, leads to it. -/
theorem leads {P Q helps : Nat → Prop} (start : P n)
    (nears : ∀ k ≥ n, P k → Q (k + 1) ∨
      P (k + 1) ∧ μ (k + 1) ≤ μ k ∧ (helps k → μ (k + 1) < μ k))
    (again : ∀ k, ∃ m ≥ k, helps m) : ∃ k ≥ n, Q k := by
  refine Classical.byContradiction fun none_ => ?_
  have never (k : Nat) (later : n ≤ k) : ¬ Q k := fun come => none_ ⟨k, later, come⟩
  have goesOn (k : Nat) (later : n ≤ k) (on : P k) :
      P (k + 1) ∧ μ (k + 1) ≤ μ k ∧ (helps k → μ (k + 1) < μ k) :=
    (nears k later on).resolve_left (never (k + 1) (by omega))
  have lasts (k : Nat) (later : n ≤ k) : P k := by
    induction later with
    | refl => exact start
    | @step k later ih => exact (goesOn k later ih).1
  refine no_endless_descent (fun k later => (goesOn k later (lasts k later)).2.1) fun k later => ?_
  obtain ⟨m, still, help⟩ := again k
  have later := Nat.le_trans later still
  exact ⟨m, still, (goesOn m later (lasts m later)).2.2 help⟩

/-- What waits in a queue is gone in the end, if the queue is served again and again. -/
theorem gets_through {α : Type} (gone waits : Nat → List α) {helps : Nat → Prop}
    (keeps : ∀ k ≥ n, gone k <+: gone (k + 1))
    (grows : ∀ k ≥ n, gone k ++ waits k <+: gone (k + 1) ++ waits (k + 1))
    (serves : ∀ k ≥ n, helps k → waits k ≠ [] → gone (k + 1) ≠ gone k)
    (again : ∀ k, ∃ m ≥ k, helps m) : ∃ k ≥ n, gone n ++ waits n <+: gone k := by
  -- It is neither overtaken nor lost, and each time the queue is served, less of it is left.
  refine leads (P := fun k => gone n ++ waits n <+: gone k ++ waits k)
    (μ := fun k => (gone n ++ waits n).length - (gone k).length) (List.prefix_refl _)
    (fun k later part => ?_) again
  by_cases through : gone n ++ waits n <+: gone (k + 1)
  · exact .inl through
  · have behind : (gone k).length < (gone n ++ waits n).length := by
      refine Nat.lt_of_not_le fun far => through ?_
      exact (List.prefix_of_prefix_length_le part (List.prefix_append _ _) far).trans (keeps k later)
    have onward := (keeps k later).length_le
    refine .inr ⟨part.trans (grows k later), by omega, fun help => ?_⟩
    have waiting : waits k ≠ [] := by
      intro empty
      rw [empty, List.append_nil] at part
      exact through (part.trans (keeps k later))
    have moved : (gone k).length < (gone (k + 1)).length := by
      refine Nat.lt_of_le_of_ne onward fun same => serves k later help waiting ?_
      exact ((keeps k later).eq_of_length same).symm
    omega

end

/-! ## Rounds -/

section

variable {α : Type} (first : List α) (round : Nat → Nat → α) {n p : Nat}

/-- Some inputs, and then rounds of `p` inputs for ever. -/
def rounds (p n : Nat) : α := (first[n]?).getD (round n (n % p))

theorem rounds_late (late : first.length ≤ n) : rounds first round p n = round n (n % p) := by
  rw [rounds, List.getElem?_eq_none late, Option.getD_none]

/-- What belongs to a round comes again and again. -/
theorem rounds_again {r : Nat} (small : r < p) (n : Nat) :
    ∃ m ≥ n, rounds first round p m = round m r := by
  have far : first.length + n ≤ p * (first.length + n) := Nat.le_mul_of_pos_left _ (by omega)
  refine ⟨p * (first.length + n) + r, by omega, ?_⟩
  rw [rounds_late _ _ (by omega), Nat.mul_add_mod, Nat.mod_eq_of_lt small]

end

end DebugAdapter
