import DebugAdapter.Proofs.Monitor.Rounds
/-!
# What has come of the questions

The questions of ticks are settled in some order, some with an answer that can be read. From that
alone: the last answer about each part of the program, the ticks that have been completed and in which
order, and how far the others have come.
-/

namespace DebugAdapter

open Channel (RequestError)
open Interpreter (State)

namespace Monitor

/-- Questions that have been settled, in order, and what has come of them. -/
abbrev Log := List (Query × Except RequestError Json)

namespace Log

variable (log : Log)

/-- What has come of the questions for a part. -/
def answersTo (p : Part) : List (Except RequestError Json) :=
  log.filterMap fun (q, a) =>
    match q with
    | .part _ p' => if p' = p then some a else none
    | .debugInfo | .code => none

/-- The last answer to a question for a part that could be read. -/
def last? {α : Type} (decoder : Decoder α) (p : Part) : Option α :=
  ((log.answersTo p).filterMap (read? decoder)).getLast?

/-- Whether a question of a tick has been settled. -/
def settles (tick : Nat) (p : Part) : Bool := log.any (·.1 == .part tick p)

/-- Whether all questions of a tick have been settled. -/
def completes (tick : Nat) : Bool := parts.all (log.settles tick)

/-- The state that was the answer to a tick's question, if it could be read. -/
def state? (tick : Nat) : Option State :=
  (log.find? (·.1 == .part tick .state)).bind (read? State.decoder ·.2)

/-- The tick that was completed with the last settlement, with its state, if that could be read. -/
def completed? : Option (Nat × State) :=
  match log.getLast? with
  | some (.part tick _, _) => if log.completes tick then (log.state? tick).map (tick, ·) else none
  | _ => none

/-- The ticks that were completed with a state that could be read, in the order of their completion. -/
def noted : List (Nat × State) := log.inits.filterMap completed?

/-- Whether the end of the program has been seen. -/
def executed : Bool := log.noted.any (·.2 == .codeExecuted)

/-! ### One more settlement -/

section

variable (q : Query) (a : Except RequestError Json)

theorem last?_nil {α : Type} (decoder : Decoder α) (p : Part) : last? [] decoder p = none := rfl

theorem last?_append {α : Type} (decoder : Decoder α) (p : Part) (log' : Log) :
    last? (log ++ log') decoder p = (log'.last? decoder p).or (log.last? decoder p) := by
  rw [last?, answersTo, List.filterMap_append, List.filterMap_append, List.getLast?_append]
  rfl

theorem last?_part {α : Type} (decoder : Decoder α) (p : Part) (tick : Nat) :
    last? (log ++ [(.part tick p, a)]) decoder p = (read? decoder a).or (log.last? decoder p) := by
  rw [last?_append]
  cases read : read? decoder a <;> simp [last?, answersTo, read]

theorem last?_other {α : Type} (decoder : Decoder α) {p : Part} (other : ∀ tick, q ≠ .part tick p) :
    last? (log ++ [(q, a)]) decoder p = log.last? decoder p := by
  have none_ : answersTo [(q, a)] p = [] := by
    cases q with
    | part tick p' =>
        have apart : p' ≠ p := fun same => other tick (same ▸ rfl)
        simp [answersTo, apart]
    | debugInfo | code => rfl
  rw [last?_append, last?, none_]
  rfl

theorem settles_eq_false {tick : Nat} {p : Part} (fresh : ∀ a, (.part tick p, a) ∉ log) :
    log.settles tick p = false := by
  rw [settles, List.any_eq_false]
  rintro ⟨q, a⟩ mem same
  cases eq_of_beq same
  exact fresh a mem

theorem settles_concat (tick : Nat) (p : Part) :
    settles (log ++ [(q, a)]) tick p = (log.settles tick p || q == .part tick p) := by
  simp [settles]

theorem settles_other {tick : Nat} (other : ∀ p, q ≠ .part tick p) (p : Part) :
    settles (log ++ [(q, a)]) tick p = log.settles tick p := by
  simp [settles_concat, other p]

theorem completes_other {tick : Nat} (other : ∀ p, q ≠ .part tick p) :
    completes (log ++ [(q, a)]) tick = log.completes tick := by
  rw [completes, completes, funext (log.settles_other q a other)]

theorem state?_other {tick : Nat} (other : q ≠ .part tick .state) :
    state? (log ++ [(q, a)]) tick = log.state? tick := by
  have none_ : (q == .part tick .state) = false := by simpa using other
  simp [state?, none_]

section

variable {tick : Nat} (fresh : log.settles tick .state = false)
include fresh

theorem find?_fresh : log.find? (·.1 == .part tick .state) = none := by
  rw [settles, List.any_eq_false] at fresh
  exact List.find?_eq_none.mpr fresh

theorem state?_fresh : log.state? tick = none := by
  rw [state?, log.find?_fresh fresh, Option.bind_none]

theorem state?_concat : state? (log ++ [(.part tick .state, a)]) tick = read? State.decoder a := by
  simp [state?, log.find?_fresh fresh]

end

theorem noted_concat :
    noted (log ++ [(q, a)]) = log.noted ++ (completed? (log ++ [(q, a)])).toList := by
  rw [noted, List.inits_append, List.filterMap_append]
  simp only [List.inits, List.map_cons, List.map_nil, List.tail_cons]
  rfl

theorem executed_concat (executed : log.executed = true) : Log.executed (log ++ [(q, a)]) = true := by
  rw [Log.executed, noted_concat, List.any_append, Bool.or_eq_true]
  exact .inl executed

theorem completed?_part (tick : Nat) (p : Part) :
    completed? (log ++ [(.part tick p, a)]) =
      if completes (log ++ [(.part tick p, a)]) tick then
        (state? (log ++ [(.part tick p, a)]) tick).map (tick, ·)
      else none := by
  simp only [completed?, List.getLast?_concat]

theorem completed?_other (other : q.part? = none) : completed? (log ++ [(q, a)]) = none := by
  cases q with
  | part => cases other
  | debugInfo | code => simp [completed?]

end

/-! ### Ticks that are under way -/

/-- A tick as far as it has been settled. -/
def refresh (tick : Nat) : Refresh :=
  { tick, waiting := parts.filter (!log.settles tick ·), state := log.state? tick }

/-- The ticks among the first `n` that have not been completed. -/
def unfinished (n : Nat) : List Refresh :=
  ((List.range' 1 n).filter (!log.completes ·)).map log.refresh

theorem waiting_isEmpty (tick : Nat) :
    (log.refresh tick).waiting.isEmpty = log.completes tick := by
  rw [Bool.eq_iff_iff, List.isEmpty_iff, refresh, List.filter_eq_nil_iff, completes, List.all_eq_true]
  simp

theorem refresh_settle {tick : Nat} {p : Part} (fresh : log.settles tick p = false)
    (a : Except RequestError Json) :
    (log.refresh tick).settle p a = refresh (log ++ [(.part tick p, a)]) tick := by
  have distinct : (parts.filter (!log.settles tick ·)).Nodup := List.Nodup.filter _ (by decide)
  have waiting : (parts.filter (!log.settles tick ·)).erase p =
      parts.filter (!settles (log ++ [(.part tick p, a)]) tick ·) := by
    rw [distinct.erase_eq_filter, List.filter_filter]
    refine List.filter_congr fun p' _ => ?_
    have same : (Query.part tick p == Query.part tick p') = (p' == p) := by
      rw [Bool.eq_iff_iff, beq_iff_eq, beq_iff_eq, Query.part.injEq]
      exact ⟨fun same => same.2.symm, fun same => ⟨rfl, same.symm⟩⟩
    rw [settles_concat, Bool.not_or, Bool.and_comm, same]
    rfl
  have state : (if p = .state then read? State.decoder a else log.state? tick) =
      state? (log ++ [(.part tick p, a)]) tick := by
    split
    · rename_i last
      subst last
      exact (log.state?_concat a fresh).symm
    · rename_i detail
      rw [log.state?_other _ a (by simpa using detail)]
  simp only [Refresh.settle, refresh, waiting, state]

section

variable (q : Query) (a : Except RequestError Json)

theorem refresh_other {tick : Nat} (other : ∀ p, q ≠ .part tick p) :
    refresh (log ++ [(q, a)]) tick = log.refresh tick := by
  simp only [refresh, log.settles_other q a other, log.state?_other q a (other _)]

theorem unfinished_other (n : Nat) (other : q.part? = none) :
    unfinished (log ++ [(q, a)]) n = log.unfinished n := by
  have apart (tick : Nat) (p : Part) : q ≠ .part tick p := by
    rintro rfl
    cases other
  have completes : completes (log ++ [(q, a)]) = log.completes :=
    funext fun tick => log.completes_other q a (apart tick)
  have refresh : refresh (log ++ [(q, a)]) = log.refresh :=
    funext fun tick => log.refresh_other q a (apart tick)
  rw [unfinished, unfinished, completes, refresh]

end

theorem unfinished_succ {n : Nat} (fresh : ∀ p, log.settles (n + 1) p = false) :
    log.unfinished (n + 1) = log.unfinished n ++ [{ tick := n + 1, waiting := parts }] := by
  have partial_ : log.completes (n + 1) = false := by simp [completes, parts, fresh]
  have begun : log.refresh (n + 1) = { tick := n + 1, waiting := parts } := by
    simp [refresh, fresh, log.state?_fresh (fresh .state)]
  rw [unfinished, List.range'_1_concat, List.filter_append, List.map_append, Nat.add_comm 1 n]
  simp [partial_, begun, unfinished]

section

variable {tick : Nat} {p : Part} (fresh : log.settles tick p = false) (n : Nat)
  (a : Except RequestError Json)

theorem apart {tick tick' : Nat} (p : Part) (other : tick' ≠ tick) (p' : Part) :
    Query.part tick p ≠ .part tick' p' := by
  rintro ⟨⟩
  exact other rfl

include fresh in
theorem completes_fresh : log.completes tick = false := by
  rw [completes, List.all_eq_false]
  refine ⟨p, ?_, ?_⟩
  · cases p <;> decide
  · simp [fresh]

include fresh in
theorem find?_unfinished {n : Nat} (started : 1 ≤ tick ∧ tick ≤ n) :
    (log.unfinished n).find? (·.tick = tick) = some (log.refresh tick) := by
  have listed : log.refresh tick ∈ log.unfinished n := by
    refine List.mem_map_of_mem (List.mem_filter.mpr ⟨?_, ?_⟩)
    · rw [List.mem_range'_1]
      omega
    · rw [log.completes_fresh fresh]
      rfl
  have exists_ : ((log.unfinished n).find? (·.tick = tick)).isSome = true :=
    List.find?_isSome.mpr ⟨_, listed, decide_eq_true rfl⟩
  obtain ⟨r, found⟩ := Option.isSome_iff_exists.mp exists_
  obtain ⟨tick', -, rfl⟩ := List.mem_map.mp (List.mem_of_find?_eq_some found)
  have same : (log.refresh tick').tick = tick := by simpa using List.find?_some found
  rw [found, ← same]
  rfl

/-- The last question of a tick is settled. -/
theorem unfinished_complete (whole : completes (log ++ [(.part tick p, a)]) tick = true) :
    unfinished (log ++ [(.part tick p, a)]) n = (log.unfinished n).filter (·.tick ≠ tick) := by
  rw [unfinished, unfinished, List.filter_map, List.filter_filter]
  have same : (List.range' 1 n).filter (!completes (log ++ [(.part tick p, a)]) ·) =
      (List.range' 1 n).filter fun tick' =>
        ((fun r : Refresh => decide (r.tick ≠ tick)) ∘ log.refresh) tick' && !log.completes tick' := by
    refine List.filter_congr fun tick' _ => ?_
    by_cases here : tick' = tick
    · simp [here, whole, refresh]
    · simp [here, log.completes_other _ a (apart p here), refresh]
  rw [same]
  refine List.map_congr_left fun tick' mem => log.refresh_other _ a (apart p ?_)
  obtain ⟨other, -⟩ := Bool.and_eq_true_iff.mp (List.mem_filter.mp mem).2
  exact of_decide_eq_true other

include fresh in
/-- A question of a tick is settled, but not the last. -/
theorem unfinished_settle (partial_ : completes (log ++ [(.part tick p, a)]) tick = false) :
    unfinished (log ++ [(.part tick p, a)]) n = (log.unfinished n).map fun r =>
      if r.tick = tick then refresh (log ++ [(.part tick p, a)]) tick else r := by
  have same : completes (log ++ [(.part tick p, a)]) = log.completes := by
    funext tick'
    by_cases here : tick' = tick
    · rw [here, partial_, log.completes_fresh fresh]
    · exact log.completes_other _ a (apart p here)
  rw [unfinished, unfinished, same, List.map_map]
  refine List.map_congr_left fun tick' _ => ?_
  by_cases here : tick' = tick
  · simp [here, refresh]
  · simp only [Function.comp_apply, show (log.refresh tick').tick = tick' from rfl, here, if_false]
    exact log.refresh_other _ a (apart p here)

end

end Log

end Monitor

end DebugAdapter
