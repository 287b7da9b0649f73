import DebugAdapter.Proofs.Control.Budget
import DebugAdapter.Proofs.Control.Halting
/-!
# Running on exactly

Whatever else happens meanwhile, a command to run on does what it decides one look after the other,
provided that every instruction that it orders is executed. So it orders exactly the instructions of
the set-up, those that lead to where the program halts, and those of the tear-down; it reports one
stop if the program still runs there, and none otherwise.
-/

namespace DebugAdapter

open Program (Breakpoints Snapshot)

namespace Control

/-! ## Looks -/

/-- What is known about the program of interpreter `i`. -/
def snapshotOf? (c : Control) (i : Nat) : Option Snapshot := (c.debuggees[i]?).map (·.snapshot)

/-- Whether interpreter `i` can be told to execute an instruction in a moment. -/
def Moment.able (m : Moment) (i : Nat) : Bool :=
  match m.happening with
  | .activity now _ => (m.before.debuggees[i]?).any fun d => (d.execute? now).isSome
  | _ => false

/-- What has been done in the first `n` moments. -/
def actsUntil (c : Control) (os : Nat → Occurrence) (n : Nat) : List Act :=
  (List.range n).flatMap fun k => (c.momentAt os k).acts

/-- What a decision shows when it is carried out. -/
def Decision.acts (i : Nat) (δ : Decision) : List Act :=
  δ.reasons.map .stop ++
    match δ.next with
    | .execute _ => [.step i]
    | .finished => []

/-- Whether every instruction that is ordered in the turn that begins now is executed: after `j` of
them interpreter `i` is where `course j` says, and can be told to execute the next one. -/
structure Succeeds (course : Nat → Snapshot) (c : Control) (os : Nat → Occurrence) (i : Nat) :
    Prop where
  start : c.snapshotOf? i = some (course 0) ∧ (c.momentAt os 0).able i = true
  ends : ∀ n, Lasting c os n → ∃ k ≥ n, (c.momentAt os k).executed? ≠ none
  inTime : ∀ n, Lasting c os n → (c.momentAt os n).executed? ≠ some false
  shows : ∀ n, Lasting c os n → (c.momentAt os n).executed? = some true →
    (c.during os n).snapshotOf? i = some (course (c.ordered os i n)) ∧
      (c.momentAt os n).able i = true

/-- A command has carried out its decisions up to the `j`th when `n` moments have passed. -/
structure Follows (δs : Nat → Decision) (t : Task) (i : Nat) (c : Control) (os : Nat → Occurrence)
    (n j : Nat) : Prop where
  acts : c.actsUntil os n = (List.range (j + 1)).flatMap fun l => (δs l).acts i
  memory : (c.during os n).memory = (δs j).memory
  goesOn : ∀ stage, (δs j).next = .execute stage → c.ordered os i n = j + 1 ∧
    ∃ waiter, (c.during os n).turn = some { task := t, phase := .driving i stage waiter }
  ends : (δs j).next = .finished → (c.during os n).turn = none

/-- Whether it has been a task's turn since the first moment. -/
def Busy (t : Task) (c : Control) (os : Nat → Occurrence) (n : Nat) : Prop :=
  ∀ k, 0 < k → k < n → ∃ turn, (c.during os k).turn = some turn ∧ turn.task = t

section

variable {δs : Nat → Decision} {t : Task} {i : Nat} {c : Control} {os : Nat → Occurrence} {n j : Nat}

theorem actsUntil_succ (c : Control) (os : Nat → Occurrence) (n : Nat) :
    c.actsUntil os (n + 1) = c.actsUntil os n ++ (c.momentAt os n).acts := by
  rw [actsUntil, List.range_succ, List.flatMap_append, List.flatMap_singleton]
  rfl

/-- Decisions that do no more than to go on. -/
theorem flatMap_steps {k : Nat}
    (steps : ∀ l < k, (δs l).notices = [] ∧ ∃ stage, (δs l).next = .execute stage) :
    ((List.range k).flatMap fun l => (δs l).acts i) = List.replicate k (.step i) := by
  induction k with
  | zero => rfl
  | succ k ih =>
      obtain ⟨silent, stage, next⟩ := steps k (Nat.lt_succ_self k)
      rw [List.range_succ, List.flatMap_append, ih fun l earlier => steps l (Nat.lt_succ_of_lt earlier),
        List.flatMap_singleton, Decision.acts, next, Decision.reasons, silent, List.replicate_succ']
      rfl

theorem filterMap_stopped (reasons : List StopReason) :
    (reasons.map Notice.stopped).filterMap Notice.reason? = reasons := by
  induction reasons with
  | nil => rfl
  | cons reason reasons ih => exact congrArg (reason :: ·) ih

/-- What is reported at the end of the command's own part, and then the tear-down. -/
theorem Chained.flatMap_torn {bs : Breakpoints} {memory' : Memory} {course : Nat → Snapshot}
    {h r : Nat} {reasons : List StopReason} (chained : Chained bs course δs)
    (halted : δs h =
      { memory := memory', notices := reasons.map .stopped, next := (sight bs (course h)).trail })
    (torn : ∀ j < r, (course (h + j)).state.isBootstrap = true) :
    ((List.range (r + 1)).flatMap fun k => (δs (h + k)).acts i) =
      reasons.map .stop ++ List.replicate r (.step i) ++
        if (course (h + r)).state.isBootstrap then [.step i] else [] := by
  induction r with
  | zero =>
      rw [List.range_one, List.flatMap_singleton]
      change (δs h).acts i = _
      rw [halted, trail_sight, Decision.acts, Decision.reasons, filterMap_stopped,
        List.replicate_zero, List.append_nil]
      cases (course h).state.isBootstrap <;> rfl
  | succ r ih =>
      have shown : (δs (h + (r + 1))).acts i =
          if (course (h + (r + 1))).state.isBootstrap then [.step i] else [] := by
        rw [chained.trailing halted torn, trail_sight]
        cases (course (h + (r + 1))).state.isBootstrap <;> rfl
      rw [List.range_succ, List.flatMap_append, ih fun j earlier => torn j (Nat.lt_succ_of_lt earlier),
        List.flatMap_singleton, if_pos (torn r (Nat.lt_succ_self r)), shown, List.replicate_succ',
        List.append_assoc (reasons.map _)]

theorem Chained.flatMap_trailing {bs : Breakpoints} {memory' : Memory} {course : Nat → Snapshot}
    {h r : Nat} {reasons : List StopReason} (chained : Chained bs course δs)
    (halted : δs h =
      { memory := memory', notices := reasons.map .stopped, next := (sight bs (course h)).trail })
    (tearDown : Takes (fun j => course (h + j)) r) :
    ((List.range (r + 1)).flatMap fun k => (δs (h + k)).acts i) =
      reasons.map .stop ++ List.replicate r (.step i) := by
  have past : (course (h + r)).state.isBootstrap = false := tearDown.past
  rw [chained.flatMap_torn halted tearDown.through, past, if_neg Bool.false_ne_true, List.append_nil]

theorem flatMap_trailing {bs : Breakpoints} {memory memory' : Memory} {course : Nat → Snapshot}
    {h r : Nat} {reasons : List StopReason}
    (halted : decisions bs memory course h =
      { memory := memory', notices := reasons.map .stopped, next := (sight bs (course h)).trail })
    (tearDown : Takes (fun j => course (h + j)) r) :
    ((List.range (r + 1)).flatMap fun k => (decisions bs memory course (h + k)).acts i) =
      reasons.map .stop ++ List.replicate r (.step i) :=
  (chained_decisions bs memory course).flatMap_trailing halted tearDown

/-- A decision is carried out. -/
theorem follows_of_follow {c' : Control} {now : Millis} {d : Debuggee}
    (after : (c.momentAt os n).after = c'.follow now t i d (δs j))
    (notices : c'.notices = (c.momentAt os n).before.notices)
    (debuggees : c'.debuggees = (c.momentAt os n).before.debuggees)
    (found : c'.debuggees[i]? = some d) (able : (d.execute? now).isSome = true)
    (ordered : c.ordered os i n = j)
    (before : c.actsUntil os n = (List.range j).flatMap fun l => (δs l).acts i) :
    Follows δs t i c os (n + 1) j := by
  have memory : (c.during os (n + 1)).memory = (δs j).memory := by
    change (c.momentAt os n).after.memory = _
    rw [after]
    exact (c'.followed now t i d (δs j)).memory
  have acts (shown : (c.momentAt os n).acts = (δs j).acts i) :
      c.actsUntil os (n + 1) = (List.range (j + 1)).flatMap fun l => (δs l).acts i := by
    rw [actsUntil_succ, before, shown, List.range_succ, List.flatMap_append, List.flatMap_singleton]
  obtain ⟨stage, waiter, next, turn, shown, one⟩ | ⟨finished, turn, shown⟩ :=
    acts_of_follow after notices debuggees found fun _ _ => able
  · refine ⟨acts (by rw [shown, Decision.acts, next]), memory, fun stage' next' => ?_, fun finished => ?_⟩
    · cases next.symm.trans next'
      refine ⟨?_, waiter, turn⟩
      change c.ordered os i n + (c.momentAt os n).orders i = j + 1
      rw [ordered, one]
    · cases next.symm.trans finished
  · refine ⟨acts (by rw [shown, Decision.acts, finished, List.append_nil]), memory,
      fun stage next => ?_, fun _ => turn⟩
    cases finished.symm.trans next

theorem lasting_of_busy (first : 0 < n) (busy : Busy t c os (n + 1)) : Lasting c os n := by
  refine ⟨first, fun k pos le none_ => ?_⟩
  obtain ⟨turn, its, -⟩ := busy k pos (Nat.lt_succ_of_le le)
  cases its.symm.trans none_

theorem busy_succ {stage : Stage} (busy : Busy t c os n) (follows : Follows δs t i c os n j)
    (next : (δs j).next = .execute stage) : Busy t c os (n + 1) := by
  intro k pos le
  obtain earlier | rfl := Nat.lt_or_eq_of_le (Nat.le_of_lt_succ le)
  · exact busy k pos earlier
  · obtain ⟨-, waiter, turn⟩ := follows.goesOn stage next
    exact ⟨_, turn, rfl⟩

theorem lasting_of_follows {stage : Stage} (first : 0 < n) (busy : Busy t c os n)
    (follows : Follows δs t i c os n j) (next : (δs j).next = .execute stage) : Lasting c os n :=
  lasting_of_busy first (busy_succ busy follows next)

/-- While the instruction is not executed nothing is done. -/
theorem follows_waiting {stage : Stage} (follows : Follows δs t i c os n j)
    (next : (δs j).next = .execute stage) (waits : (c.momentAt os n).executed? = none) :
    Follows δs t i c os (n + 1) j := by
  obtain ⟨ordered, waiter, turn⟩ := follows.goesOn stage next
  obtain ⟨turn', memory, acts, none_⟩ := stays_of_unexecuted (m := c.momentAt os n) turn waits
  refine ⟨?_, memory.trans follows.memory, fun stage' next' => ?_, fun finished => ?_⟩
  · rw [actsUntil_succ, acts, List.append_nil]
    exact follows.acts
  · cases next.symm.trans next'
    refine ⟨?_, waiter, turn'.trans turn⟩
    rw [← ordered]
    exact congrArg (c.ordered os i n + ·) none_
  · cases next.symm.trans finished

end

section

variable {bs : Breakpoints} {course : Nat → Snapshot} {t : Task} {i : Nat} {c : Control}
  {os : Nat → Occurrence} {n j : Nat}

/-- What is decided in a moment in which the interpreter can be told to execute an instruction. -/
theorem view_eq_sight {m : Moment} {d : Debuggee} {now : Millis} {a : Activity} {x : Snapshot}
    (happening : m.happening = .activity now a) (found : m.before.debuggees[i]? = some d)
    (able : m.able i = true) (shows : m.before.snapshotOf? i = some x)
    (unchanged : m.before.breakpoints = bs) :
    (d.execute? now).isSome = true ∧ m.before.view d now = sight bs x := by
  rw [Moment.able, happening, found] at able
  rw [snapshotOf?, found] at shows
  cases shows
  refine ⟨able, ?_⟩
  rw [view, unchanged]
  exact congrArg (View.mk bs d.snapshot) able

/-! ## Carrying out decisions -/

/-- Whether a command with a goal decides so whatever the breakpoints are meanwhile. -/
structure Decides (δs : Nat → Decision) (goal : Goal) (course : Nat → Snapshot) (c : Control)
    (os : Nat → Occurrence) : Prop where
  first : δs 0 = (sight c.breakpoints (course 0)).lead c.memory goal
  next : ∀ n, Lasting c os n → ∀ j stage, (δs j).next = .execute stage →
    δs (j + 1) = (sight (c.during os n).breakpoints (course (j + 1))).after (δs j).memory true stage

/-- Whether a command goes on for ever, and reports nothing. -/
structure Endless (t : Task) (i : Nat) (c : Control) (os : Nat → Occurrence) : Prop where
  busy : ∀ n, Busy t c os n
  acts : ∀ n, c.actsUntil os n = List.replicate (c.ordered os i n) (.step i)
  onward : ∀ j, ∃ n, j ≤ c.ordered os i n

namespace Decides

variable {δs : Nat → Decision} {goal : Goal} (decides : Decides δs goal course c os)
  (succeeds : Succeeds course c os i)
include decides succeeds

theorem follows_first (granted : (c.momentAt os 0).granted? = some t)
    (wanted : t.errand.goal? = some goal) (present : c.present = some i) :
    Follows δs t i c os 1 0 := by
  obtain ⟨shows, able⟩ := succeeds.start
  obtain ⟨d, found, -⟩ := Option.map_eq_some_iff.mp shows
  obtain ⟨now, queue, happening, after⟩ :=
    follow_of_granted (m := c.momentAt os 0) (d := d) granted wanted present found
  obtain ⟨able', same⟩ := view_eq_sight (m := c.momentAt os 0) happening found able shows rfl
  have decided : (sight (c.momentAt os 0).before.breakpoints (course 0)).lead
      (c.momentAt os 0).before.memory goal = δs 0 := decides.first.symm
  rw [same, decided] at after
  exact follows_of_follow after rfl rfl found able' rfl rfl

/-- In a moment the instruction is executed, and the next decision carried out, or it is not. -/
theorem follows_next {stage : Stage} (first : 0 < n) (busy : Busy t c os n)
    (follows : Follows δs t i c os n j) (next : (δs j).next = .execute stage) :
    (c.momentAt os n).executed? = none ∧ Follows δs t i c os (n + 1) j ∨
      Follows δs t i c os (n + 1) (j + 1) := by
  have lasting := lasting_of_follows first busy follows next
  obtain ⟨ordered, waiter, turn⟩ := follows.goesOn stage next
  cases executed : (c.momentAt os n).executed? with
  | none => exact .inl ⟨rfl, follows_waiting follows next executed⟩
  | some executed' =>
      cases executed' with
      | false => exact absurd executed (succeeds.inTime n lasting)
      | true =>
          obtain ⟨now, d, happening, found, after⟩ :=
            follow_of_executed (m := c.momentAt os n) turn executed
          obtain ⟨shows, able⟩ := succeeds.shows n lasting executed
          rw [ordered] at shows
          obtain ⟨able', same⟩ := view_eq_sight (m := c.momentAt os n) happening found able shows rfl
          have memory : (c.momentAt os n).before.memory = _ := follows.memory
          have decided : (sight (c.momentAt os n).before.breakpoints (course (j + 1))).after
              (δs j).memory true stage = δs (j + 1) := (decides.next n lasting j stage next).symm
          rw [same, memory, decided] at after
          exact .inr (follows_of_follow after rfl rfl found able' ordered follows.acts)

/-- The instruction is executed at last. -/
theorem follows_on {stage : Stage} (first : 0 < n) (busy : Busy t c os n)
    (follows : Follows δs t i c os n j) (next : (δs j).next = .execute stage) :
    ∃ n' > n, Busy t c os n' ∧ Follows δs t i c os n' (j + 1) := by
  obtain ⟨k, later, ended⟩ := succeeds.ends n (lasting_of_follows first busy follows next)
  obtain ⟨r, rfl⟩ := Nat.exists_eq_add_of_le later
  clear later
  induction r generalizing n with
  | zero =>
      obtain ⟨waits, -⟩ | onward := decides.follows_next succeeds first busy follows next
      · exact absurd waits ended
      · exact ⟨n + 1, Nat.lt_succ_self n, busy_succ busy follows next, onward⟩
  | succ r ih =>
      obtain ⟨-, waiting⟩ | onward := decides.follows_next succeeds first busy follows next
      · rw [Nat.add_comm r 1, ← Nat.add_assoc] at ended
        obtain ⟨n', later, rest⟩ :=
          ih (Nat.succ_pos n) (busy_succ busy follows next) waiting ended
        exact ⟨n', Nat.lt_of_succ_lt later, rest⟩
      · exact ⟨n + 1, Nat.lt_succ_self n, busy_succ busy follows next, onward⟩

variable (granted : (c.momentAt os 0).granted? = some t) (wanted : t.errand.goal? = some goal)
  (present : c.present = some i)
include granted wanted present

/-- All decisions are carried out, up to the one with which the command ends. -/
theorem follows_far (onward : ∀ l < j, ∃ stage, (δs l).next = .execute stage) :
    ∃ n > j, Busy t c os n ∧ Follows δs t i c os n j := by
  induction j with
  | zero =>
      refine ⟨1, Nat.one_pos, fun k pos le => ?_,
        decides.follows_first succeeds granted wanted present⟩
      omega
  | succ j ih =>
      obtain ⟨n, later, busy, follows⟩ := ih fun l earlier => onward l (Nat.lt_succ_of_lt earlier)
      obtain ⟨stage, next⟩ := onward j (Nat.lt_succ_self j)
      obtain ⟨n', later', rest⟩ :=
        decides.follows_on succeeds (Nat.zero_lt_of_lt later) busy follows next
      exact ⟨n', by omega, rest⟩

/-- As long as its turn has not been over, some of the decisions have been carried out. -/
theorem follows_busy (first : 0 < n) (busy : Busy t c os n) : ∃ j, Follows δs t i c os n j := by
  induction n with
  | zero => cases first
  | succ n ih =>
      obtain rfl | pos := Nat.eq_zero_or_pos n
      · exact ⟨0, decides.follows_first succeeds granted wanted present⟩
      · have earlier : Busy t c os n := fun k first le => busy k first (Nat.lt_succ_of_lt le)
        obtain ⟨j, follows⟩ := ih pos earlier
        obtain ⟨turn, its, -⟩ := busy n pos (Nat.lt_succ_self n)
        cases next : (δs j).next with
        | finished => cases its.symm.trans (follows.ends next)
        | execute stage =>
            obtain ⟨-, waiting⟩ | onward := decides.follows_next succeeds pos earlier follows next
            · exact ⟨j, waiting⟩
            · exact ⟨j + 1, onward⟩

/-- A command that never decides to end goes on for ever. -/
theorem busy_ever (onward : ∀ l, ∃ stage, (δs l).next = .execute stage) (n : Nat) :
    Busy t c os n := by
  induction n with
  | zero => exact fun k pos le => absurd le (Nat.not_lt_zero k)
  | succ n ih =>
      obtain rfl | pos := Nat.eq_zero_or_pos n
      · intro k pos le
        omega
      · obtain ⟨j, follows⟩ := decides.follows_busy succeeds granted wanted present pos ih
        obtain ⟨stage, next⟩ := onward j
        exact busy_succ ih follows next

theorem endless (steps : ∀ l, (δs l).notices = [] ∧ ∃ stage, (δs l).next = .execute stage) :
    Endless t i c os := by
  have busy := decides.busy_ever succeeds granted wanted present fun l => (steps l).2
  refine ⟨busy, fun n => ?_, fun j => ?_⟩
  · obtain rfl | pos := Nat.eq_zero_or_pos n
    · rfl
    · obtain ⟨j, follows⟩ := decides.follows_busy succeeds granted wanted present pos (busy n)
      obtain ⟨-, stage, next⟩ := steps j
      rw [follows.acts, (follows.goesOn stage next).1]
      exact flatMap_steps fun l _ => steps l
  · obtain ⟨n, -, -, follows⟩ :=
      decides.follows_far (j := j) succeeds granted wanted present fun l _ => (steps l).2
    obtain ⟨-, stage, next⟩ := steps j
    exact ⟨n, ((follows.goesOn stage next).1 ▸ Nat.le_succ j)⟩

end Decides

variable (succeeds : Succeeds course c os i)
  (unchanged : ∀ n, Lasting c os n → (c.during os n).breakpoints = c.breakpoints)

include unchanged in
theorem decides_run : Decides (decisions c.breakpoints c.memory course) .run course c os where
  first := rfl
  next := by
    intro n lasting j stage next
    rw [unchanged n lasting]
    exact decisions_succ next

include succeeds unchanged

theorem follows_far (granted : (c.momentAt os 0).granted? = some t) (errand : t.errand = .resume)
    (present : c.present = some i)
    (onward : ∀ l < j, ∃ stage, (decisions c.breakpoints c.memory course l).next = .execute stage) :
    ∃ n > j, Busy t c os n ∧ Follows (decisions c.breakpoints c.memory course) t i c os n j :=
  (decides_run unchanged).follows_far succeeds granted (by rw [errand]; rfl) present onward

theorem endless_of_steps (granted : (c.momentAt os 0).granted? = some t) (errand : t.errand = .resume)
    (present : c.present = some i)
    (steps : ∀ l, (decisions c.breakpoints c.memory course l).notices = [] ∧
      ∃ stage, (decisions c.breakpoints c.memory course l).next = .execute stage) :
    Endless t i c os :=
  (decides_run unchanged).endless succeeds granted (by rw [errand]; rfl) present steps

/-! ## Commands that end -/

/-- What there is to say of a command to run on, in a turn that begins now and in which interpreter
`i` gets through its set-up with `m` instructions. -/
structure RunsOnExactly (bs : Breakpoints) (memory : Memory) (course : Nat → Snapshot) (m : Nat)
    (t : Task) (i : Nat) (c : Control) (os : Nat → Occurrence) : Prop where
  /-- If `n` is the first place where the program halts, and the tear-down takes `r` instructions, the
  command ends after just so many of them. -/
  ends : ∀ n, (∀ k < n, ¬ Halts bs memory (fun k => course (m + k)) k) →
    Halts bs memory (fun k => course (m + k)) n → ∀ r, Takes (fun j => course (m + n + j)) r →
    ∃ reasons memory', Outcome bs memory (fun k => course (m + k)) n reasons memory' ∧
      ∃ l > 0, Busy t c os l ∧ (c.during os l).turn = none ∧ (c.during os l).memory = memory' ∧
        c.actsUntil os l = List.replicate (m + n) (.step i) ++ reasons.map .stop ++
          List.replicate r (.step i)
  /-- If it never halts, or the tear-down does not end, neither does the command, and no stop is
  reported. -/
  endless : (∀ k, ¬ Halts bs memory (fun k => course (m + k)) k) ∨
      (∃ n, (∀ k < n, ¬ Halts bs memory (fun k => course (m + k)) k) ∧
        ∀ j, (course (m + n + j)).state.isBootstrap = true) →
    Endless t i c os

theorem runs_on_exactly {m : Nat} (granted : (c.momentAt os 0).granted? = some t)
    (errand : t.errand = .resume) (present : c.present = some i) (setUp : Takes course m) :
    RunsOnExactly c.breakpoints c.memory course m t i c os where
  ends := by
    intro n on halts r tearDown
    obtain ⟨reasons, memory', outcome, halted⟩ := decisions_of_halts setUp on halts
    have torn {k : Nat} (le : k ≤ r) := decisions_trailing halted fun j earlier =>
      tearDown.through j (Nat.lt_of_lt_of_le earlier le)
    have steps := decisions_steps setUp on
    have onward : ∀ l < m + n + r,
        ∃ stage, (decisions c.breakpoints c.memory course l).next = .execute stage := by
      intro l earlier
      obtain before | later := Nat.lt_or_ge l (m + n)
      · exact (steps l before).2
      · obtain ⟨k, rfl⟩ := Nat.exists_eq_add_of_le later
        rw [torn (k := k) (by omega), trail_sight, if_pos (tearDown.through k (by omega))]
        exact ⟨_, rfl⟩
    obtain ⟨l, later, busy, follows⟩ :=
      follows_far succeeds unchanged granted errand present onward
    have last := torn (Nat.le_refl r)
    refine ⟨reasons, memory', outcome, l, Nat.zero_lt_of_lt later, busy, follows.ends ?_, ?_, ?_⟩
    · have past : (course (m + n + r)).state.isBootstrap = false := tearDown.past
      rw [last, trail_sight, past]
      rfl
    · rw [follows.memory, last]
    · rw [follows.acts, Nat.add_assoc (m + n), List.range_add, List.flatMap_append,
        flatMap_steps steps, List.append_assoc, List.flatMap_map]
      refine congrArg _ ?_
      exact flatMap_trailing halted tearDown
  endless := by
    intro goesOn
    refine endless_of_steps succeeds unchanged granted errand present fun l => ?_
    obtain never | ⟨n, on, torn⟩ := goesOn
    · exact decisions_steps (n := l + 1) setUp (fun k _ => never k) l (by omega)
    · obtain before | later := Nat.lt_or_ge l (m + n)
      · exact decisions_steps setUp on l before
      · obtain ⟨k, rfl⟩ := Nat.exists_eq_add_of_le later
        have idle : (course (m + n)).state.isRunningCode = false := by
          have attended := torn 0
          rw [Nat.add_zero] at attended
          cases state : (course (m + n)).state <;> rw [state] at attended <;>
            first | rfl | cases attended
        obtain ⟨reasons, memory', outcome, halted⟩ := decisions_of_halts setUp on (.inl idle)
        rw [decisions_trailing halted fun j _ => torn j, trail_sight, if_pos (torn k)]
        refine ⟨?_, _, rfl⟩
        cases outcome with
        | idle => exact ite_self _
        | instruction running | line running => cases idle.symm.trans running

end

/-! ## Back at a breakpoint -/

/-- A command to run on gets its turn, and an instruction leads back to where the program is. -/
def returning : List Happening :=
  .activity 2000 .grant :: doing 0 2000 [.link .command] ++ ticking 0 3000 6 "CallUpdate" ++
    [.activity 3000 .advance]

def returns (n : Nat) : Occurrence := { happening := (returning[n]?).getD (.breakpoints id) }

/-- A program that has stopped at an instruction breakpoint. -/
def stoppedAtInstruction : Control :=
  { (opening {} "/" none).run (resuming "CallUpdate") with
    memory := { debug := true, resumeFrom := some { line := none, codePointer := -1 } }
    breakpoints := { instructions := [-1] } }

/-- It goes on from there, and stops when it is there again. -/
theorem runs_on_exactly_back :
    let c := stoppedAtInstruction
    (c.momentAt returns 0).granted? = some { errand := .resume } ∧ c.present = some 0 ∧
      Succeeds (fun _ => { state := .callUpdate }) c returns 0 ∧
      (∀ n, Lasting c returns n → (c.during returns n).breakpoints = c.breakpoints) ∧
      ∃ l > 0, Busy { errand := .resume } c returns l ∧ (c.during returns l).turn = none ∧
        c.actsUntil returns l = [.step 0, .stop .instructionBreakpoint] ∧
        (c.during returns l).memory.resumeFrom = some { line := none, codePointer := -1 } := by
  intro c
  obtain ⟨granted, present, start, finished, ended, executed⟩ :
      (c.momentAt returns 0).granted? = some { errand := .resume } ∧ c.present = some 0 ∧
        (c.snapshotOf? 0 = some { state := .callUpdate } ∧ (c.momentAt returns 0).able 0 = true) ∧
        (c.during returns returning.length).turn = none ∧
        (c.momentAt returns (returning.length - 1)).executed? ≠ none ∧
        ∀ n < returning.length, (c.momentAt returns n).executed? ≠ some false ∧
          (c.during returns n).breakpoints = c.breakpoints ∧
          ((c.momentAt returns n).executed? = some true →
            (c.during returns n).snapshotOf? 0 = some { state := .callUpdate } ∧
              (c.momentAt returns n).able 0 = true) := by
    decide +kernel
  have early {n : Nat} (lasting : Lasting c returns n) : n < returning.length := by
    by_contra late
    exact lasting.2 _ (by decide) (Nat.not_lt.mp late) finished
  have unchanged (n : Nat) (lasting : Lasting c returns n) :
      (c.during returns n).breakpoints = c.breakpoints := (executed n (early lasting)).2.1
  have succeeds : Succeeds (fun _ => { state := .callUpdate }) c returns 0 :=
    ⟨start, fun n lasting => ⟨_, Nat.le_pred_of_lt (early lasting), ended⟩,
      fun n lasting => (executed n (early lasting)).1,
      fun n lasting => (executed n (early lasting)).2.2⟩
  have stays {r : Nat} (none_ : r = 0) : Takes (fun _ => { state := .callUpdate }) r :=
    ⟨by omega, rfl⟩
  have exactly := runs_on_exactly succeeds unchanged granted rfl present (stays rfl)
  -- It skips the breakpoint where it begins, but only once.
  have off (k : Nat) (earlier : k < 1) :
      ¬ Halts c.breakpoints c.memory (fun _ => { state := .callUpdate }) k := by
    cases Nat.lt_one_iff.mp earlier
    rintro (idle | ⟨_, _, notSkipped⟩ | ⟨_, ⟨_, _, _, e, unset, _⟩, _⟩)
    · cases idle
    · exact notSkipped ⟨rfl, _, rfl, rfl⟩
    · cases unset
  have on : HitsInstruction c.breakpoints c.memory (fun _ => { state := .callUpdate }) 1 :=
    ⟨rfl, List.mem_singleton.mpr rfl, fun skips => Nat.one_ne_zero skips.1⟩
  obtain ⟨reasons, memory, outcome, l, first, busy, turn, same, acts⟩ :=
    exactly.ends 1 off (.inr (.inl on)) 0 (stays rfl)
  refine ⟨granted, present, succeeds, unchanged, l, first, busy, turn, ?_, ?_⟩
  · cases outcome with
    | idle idle => cases idle
    | instruction => exact acts
    | line _ _ other => exact absurd on other
  · cases outcome with
    | idle idle => cases idle
    | instruction =>
        rw [same]
        rfl
    | line _ _ other => exact absurd on other

end Control

end DebugAdapter
