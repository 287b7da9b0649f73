/-!
# Traces

What a machine went through: one entry for each step, the latest one last. What holds at the start
and is kept by each step holds of every trace. A trace falls into stretches, each of which begins
with an entry of some kind and goes on until the next one.
-/

namespace DebugAdapter

/-- A machine's state and the entries of the steps that led to it. -/
structure Trace (σ ε : Type) where
  state : σ
  entries : List ε := []

namespace Trace

variable {σ ε ι : Type} (step : σ → ι → σ × ε)

/-- One more step. -/
def next (t : Trace σ ε) (i : ι) : Trace σ ε :=
  { state := (step t.state i).1, entries := t.entries ++ [(step t.state i).2] }

/-- A step for each input. -/
def run (start : σ) (inputs : List ι) : Trace σ ε := inputs.foldl (next step) { state := start }

theorem flatMap_next {α : Type} (f : ε → List α) (t : Trace σ ε) (i : ι) :
    (next step t i).entries.flatMap f = t.entries.flatMap f ++ f (step t.state i).2 := by
  rw [next, List.flatMap_append, List.flatMap_singleton]

theorem foldl_invariant {P : Trace σ ε → Prop} (kept : ∀ t i, P t → P (next step t i))
    (inputs : List ι) {t : Trace σ ε} (h : P t) : P (inputs.foldl (next step) t) := by
  induction inputs generalizing t with
  | nil => exact h
  | cons i inputs ih => exact ih (kept t i h)

theorem entries_prefix_foldl (inputs : List ι) (t : Trace σ ε) :
    t.entries <+: (inputs.foldl (next step) t).entries := by
  induction inputs generalizing t with
  | nil => exact List.prefix_refl _
  | cons i inputs ih => exact (List.prefix_append _ _).trans (ih (next step t i))

theorem foldl_append (inputs : List ι) (t : Trace σ ε) :
    inputs.foldl (next step) t =
      { state := (run step t.state inputs).state
        entries := t.entries ++ (run step t.state inputs).entries } := by
  induction inputs generalizing t with
  | nil => simp [run]
  | cons i inputs ih =>
      rw [run, List.foldl_cons, List.foldl_cons, ih, ih (next step { state := t.state } i)]
      simp [next]

/-- The first step comes first. -/
theorem run_cons (start : σ) (i : ι) (inputs : List ι) :
    run step start (i :: inputs) =
      { state := (run step (step start i).1 inputs).state
        entries := (step start i).2 :: (run step (step start i).1 inputs).entries } := by
  rw [run, List.foldl_cons, foldl_append]
  rfl

/-- What holds at the start and is kept by each step holds of every trace. -/
theorem run_invariant {P : Trace σ ε → Prop} {start : σ} (initial : P { state := start })
    (kept : ∀ t i, P t → P (next step t i)) (inputs : List ι) : P (run step start inputs) :=
  foldl_invariant step kept inputs initial

/-! ## Stretches -/

/-- The stretches that begin with an entry of some kind, each up to the next such entry. -/
def stretches (opens : ε → Bool) : List ε → List (List ε)
  | [] => []
  | e :: es =>
    if opens e then (e :: es.takeWhile (!opens ·)) :: stretches opens es else stretches opens es

/-- Where nothing shows before the first stretch, the stretches show everything. -/
theorem flatMap_stretches {α : Type} {opens : ε → Bool} (f : ε → List α) {es : List ε}
    (quiet : ∀ e ∈ es.takeWhile (!opens ·), f e = []) :
    (stretches opens es).flatMap (·.flatMap f) = es.flatMap f := by
  have later (es : List ε) : (es.takeWhile (!opens ·)).flatMap f ++
      (stretches opens es).flatMap (·.flatMap f) = es.flatMap f := by
    induction es with
    | nil => rfl
    | cons e es ih => cases opening : opens e <;> simp [stretches, opening, ← ih]
  rw [← later es, List.flatMap_eq_nil_iff.mpr quiet, List.nil_append]

/-- Each stretch begins with one of the entries, in order. -/
theorem filterMap_stretches {α : Type} {opens : ε → Bool} (f : ε → Option α)
    (same : ∀ e, (f e).isSome = opens e) (es : List ε) :
    (stretches opens es).filterMap (·.head?.bind f) = es.filterMap f := by
  induction es with
  | nil => rfl
  | cons e es ih =>
      cases shows : f e with
      | none =>
          have closed : opens e = false := by rw [← same, shows]; rfl
          rw [stretches, closed, List.filterMap_cons_none shows, ← ih]
          rfl
      | some a =>
          have opening : opens e = true := by rw [← same, shows]; rfl
          rw [stretches, if_pos opening, List.filterMap_cons_some shows, ← ih]
          exact List.filterMap_cons_some shows

end Trace

end DebugAdapter
