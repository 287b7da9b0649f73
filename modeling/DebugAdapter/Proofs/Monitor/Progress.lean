import DebugAdapter.Proofs.Monitor.Live
/-!
# Nothing waits for ever

Whatever is on its way between a monitor and its interpreter, the two can go on until a tick has been
noted that begins only now. A reader may leave whole messages in its buffer until more octets come;
so ticks go on while the first one is under way, each a reason to read on. What stands before the
end of the first tick becomes less and less: its lag.
-/

namespace DebugAdapter.Monitor

open Interpreter (ScriptedInterpreter ScriptedProgram)

/-- A monitor and its interpreter do something, and let no deadline pass. -/
inductive Stirs : Debuggee × ScriptedInterpreter → Debuggee × ScriptedInterpreter → Prop where
  | activity {d d' : Debuggee} {s : ScriptedInterpreter} {now : Millis} {a : Debuggee.Activity}
      (inOrder : InOrder a) (performed : d.perform? now a = some d') : Stirs (d, s) (d', s)
  | serve {d : Debuggee} {s s' : ScriptedInterpreter} {line : Framing.Line}
      (read : s.read? d.link.line = some (s', line)) :
      Stirs (d, s) ({ d with link := { d.link with line } }, s')

/-! ## Lag -/

/-- Whether an order asks about a tick after `tick`. -/
def Order.isAfter (tick : Nat) : Order → Bool
  | .ask (.part tick' _) => tick < tick'
  | .ask .debugInfo | .ask .code | .step => false

/-- How many of some orders do not come after a tick. -/
def late (tick : Nat) (os : List Order) : Nat := os.countP (!·.isAfter tick)

theorem late_append (tick : Nat) (os os' : List Order) :
    late tick (os ++ os') = late tick os + late tick os' := List.countP_append ..

theorem late_cons (tick : Nat) (o : Order) (os : List Order) :
    late tick (o :: os) = late tick os + if o.isAfter tick then 0 else 1 := by
  rw [late, List.countP_cons]
  cases o.isAfter tick <;> rfl

theorem late_eq_zero {tick : Nat} {os : List Order} (after : ∀ o ∈ os, o.isAfter tick = true) :
    late tick os = 0 := by
  rw [late, List.countP_eq_zero]
  intro o member
  simp [after o member]

theorem isAfter_of_late {tick : Nat} {os : List Order} (none_ : late tick os = 0) {o : Order}
    (member : o ∈ os) : o.isAfter tick = true := by
  rw [late, List.countP_eq_zero] at none_
  simpa using none_ o member

namespace Transit

/-- The answers that have come, as the orders that led to them. -/
def settling (t : Transit) : List Order := t.answered.map (.ask ·.query)

/-- The answers in the pipe, as the orders that led to them. -/
def returning (t : Transit) : List Order := t.replied.map (.ask ·.answer.query)

/-- Everything that is on its way, in order. -/
def train (t : Transit) : List Order := t.settling ++ t.returning ++ t.orders

/-- How far everything is from being settled that does not come after a tick. -/
def lag (tick : Nat) (t : Transit) : Nat :=
  late tick t.settling + 2 * late tick t.returning + 3 * late tick t.written +
    4 * late tick t.queued + 5 * late tick t.ordered

/-- Whether the questions of later ticks come last. -/
def Sorted (tick : Nat) (t : Transit) : Prop :=
  t.train.Pairwise fun o o' => o.isAfter tick = true → o'.isAfter tick = true

theorem Sorted.congr {tick : Nat} {t t' : Transit} (sorted : t.Sorted tick)
    (train : t'.train = t.train) : t'.Sorted tick := by
  rwa [Sorted, train]

theorem Sorted.sublist {tick : Nat} {t t' : Transit} (sorted : t.Sorted tick)
    (train : t'.train.Sublist t.train) : t'.Sorted tick :=
  List.Pairwise.sublist train sorted

theorem isAfter_of_lag {tick : Nat} {t : Transit} (none_ : t.lag tick = 0) {o : Order}
    (member : o ∈ t.train) : o.isAfter tick = true := by
  refine isAfter_of_late ?_ member
  simp only [train, orders, late_append]
  rw [lag] at none_
  omega

theorem mem_train {t : Transit} {q : Query} : .ask q ∈ t.train ↔ ∃ n, (q, n) ∈ t.owed := by
  simp only [train, settling, returning, owed, answers, List.map_append, List.mem_append, exists_or,
    mem_staged]
  simp [exists_comm (α := Nat)]

theorem lag_eq_zero {tick : Nat} {t : Transit} {o : Order} {os : List Order}
    (sorted : t.Sorted tick) (train : t.train = o :: os) (after : o.isAfter tick = true) :
    t.lag tick = 0 := by
  rw [Sorted, train] at sorted
  have all : ∀ o ∈ t.train, o.isAfter tick = true := by
    rw [train, List.forall_mem_cons]
    exact ⟨after, fun o' member => (List.pairwise_cons.mp sorted).1 o' member after⟩
  have none_ := late_eq_zero all
  simp only [Transit.train, orders, late_append] at none_
  rw [lag]
  omega

end Transit

theorem lt_of_mem_unsettled {k tick : Nat} {ns : List Nat} {o : (Nat × Part) × Nat}
    (h : o ∈ unsettled k tick ns) : o.1.1 < tick + ns.length := by
  induction ns generalizing k tick with
  | nil => cases h
  | cons n ns ih =>
      rw [List.length_cons]
      obtain first | later := List.mem_append.mp h
      · obtain ⟨q, -, rfl⟩ := List.mem_map.mp first
        exact Nat.lt_add_of_pos_right (Nat.succ_pos _)
      · have less := ih later
        omega

/-- Only ticks that have begun are outstanding. -/
theorem Timely.begun {p : ScriptedProgram} {m : Monitor} {owed : List ((Nat × Part) × Nat)}
    {r : Standing} (timely : Timely p m owed r) {o : (Nat × Part) × Nat} (member : o ∈ owed) :
    o.1.1 ≤ m.ticksStarted := by
  rw [timely.owed_eq] at member
  have less := lt_of_mem_unsettled member
  rw [timely.started]
  omega

/-- A monitor at work, waiting for a tick that has begun. -/
structure Underway (p : ScriptedProgram) (config : Config) (tick : Nat) (d : Debuggee)
    (s : ScriptedInterpreter) (t : Transit) (r : Standing) : Prop where
  live : Live p config d s t r
  sorted : t.Sorted tick
  begun : tick ≤ d.monitor.ticksStarted
  fetched : ∀ due, d.monitor.fetch ≠ .waiting due

namespace Underway

open Relation (ReflTransGen)

variable {p : ScriptedProgram} {config : Config} {tick : Nat} {d d' : Debuggee}
  {s s' : ScriptedInterpreter} {t t' : Transit} {r : Standing}

theorem next (waits : Underway p config tick d s t r) (d' : Debuggee) (fits : p.Fits) {now : Millis}
    {es : List Event} (flow : Flow p config d' s' t') (going : t'.stopping = t.stopping)
    (turn : Turn p now d.monitor t d'.monitor t' es) (sorted : t'.Sorted tick) :
    ∃ r', Underway p config tick d' s' t' r' := by
  obtain ⟨r', live, moved⟩ := waits.live.turn d' fits flow (going.trans waits.live.going) turn
  exact ⟨r', live, sorted, waits.begun.trans moved.grows.started,
    moved.grows.fetched waits.fetched⟩

/-- All commands go into the queue. -/
theorem carry (waits : Underway p config tick d s t r) (fits : p.Fits) {os : List Order}
    (ordered : t.ordered = os) :
    ∃ d' r', ReflTransGen Stirs (d, s) (d', s) ∧
      Underway p config tick d' s { t with queued := t.queued ++ os, ordered := [] } r' := by
  induction os generalizing d t r with
  | nil =>
      refine ⟨d, r, .refl, ?_⟩
      rw [List.append_nil, ← ordered]
      exact waits
  | cons o os ih =>
      obtain ⟨l, moved, flow⟩ := waits.live.flow.carry ordered 0
      have performed : d.perform? 0 (.link .command) = some { d with link := l } := by
        rw [Debuggee.perform?, moved, Option.map_some]
        exact congrArg some (absorb_writes { d with link := l } [])
      have train : Transit.train { t with queued := t.queued ++ [o], ordered := os } = t.train := by
        simp [Transit.train, Transit.settling, Transit.returning, Transit.orders, ordered]
      obtain ⟨r₁, waits₁⟩ := waits.next { d with link := l } fits flow rfl
        (.same 0 rfl (by simp [Transit.orders, ordered]) rfl) (waits.sorted.congr train)
      obtain ⟨d', r', reached, left⟩ := ih waits₁ rfl
      rw [List.append_assoc] at left
      exact ⟨d', r', .head (.activity (by simp [InOrder]) performed) reached, left⟩

/-- A tick begins, and everything goes into the pipe to the interpreter. -/
theorem pump (waits : Underway p config tick d s t r) (fits : p.Fits)
    (outOfBand : config.channel.delimiting.OutOfBand) :
    ∃ d' t' r', ReflTransGen Stirs (d, s) (d', s) ∧ Underway p config tick d' s t' r' ∧
      t'.answered = t.answered ∧ t'.replied = t.replied ∧ t'.written ≠ [] ∧
      d'.link.line.outbound.octets ≠ [] ∧ t'.lag tick ≤ t.lag tick := by
  obtain ⟨due, scheduled⟩ := Option.ne_none_iff_exists'.mp waits.live.polling
  obtain ⟨d₁, polled, -, -, flow₁, turn₁⟩ :=
    waits.live.flow.poll waits.live.going scheduled (Nat.le_refl due)
  generalize asks_eq : (parts.map (Query.part (d.monitor.ticksStarted + 1))).map Order.ask = asks
    at flow₁ turn₁
  have after : ∀ o ∈ asks, o.isAfter tick = true := by
    rw [← asks_eq]
    intro o member
    obtain ⟨q, listed, rfl⟩ := List.mem_map.mp member
    obtain ⟨part, -, rfl⟩ := List.mem_map.mp listed
    exact decide_eq_true (Nat.lt_succ_of_le waits.begun)
  have some_ : asks ≠ [] := by
    rw [← asks_eq]
    exact List.cons_ne_nil _ _
  have sorted₁ : Transit.Sorted tick { t with ordered := t.ordered ++ asks } := by
    have train : Transit.train { t with ordered := t.ordered ++ asks } = t.train ++ asks := by
      simp [Transit.train, Transit.settling, Transit.returning, Transit.orders]
    rw [Transit.Sorted, train]
    refine List.pairwise_append.mpr ⟨waits.sorted, ?_, fun o _ o' member _ => after o' member⟩
    exact List.pairwise_of_forall_mem_list fun o _ o' member _ => after o' member
  obtain ⟨r₁, waits₁⟩ := waits.next d₁ fits flow₁ rfl turn₁ sorted₁
  obtain ⟨d₂, r₂, carried, waits₂⟩ := waits₁.carry fits rfl
  have queued : t.queued ++ (t.ordered ++ asks) ≠ [] := by simp [some_]
  obtain ⟨due₂, scheduled₂⟩ := waits₂.live.flow.due queued
  obtain ⟨l, flushed, filled, flow₃⟩ :=
    waits₂.live.flow.flush outOfBand scheduled₂ (Nat.le_refl due₂)
  have performed : d₂.perform? due₂ (.link .flush) = some { d₂ with link := l } := by
    rw [Debuggee.perform?, flushed, Option.map_some]
    exact congrArg some (absorb_writes { d₂ with link := l } _)
  obtain ⟨r₃, waits₃⟩ := waits₂.next { d₂ with link := l } fits flow₃ rfl
    (.same 0 rfl (by simp [Transit.orders]) rfl)
    (waits₂.sorted.congr (by
      simp [Transit.train, Transit.settling, Transit.returning, Transit.orders]))
  refine ⟨_, _, r₃, ?_, waits₃, rfl, rfl, by simp [some_], filled queued, ?_⟩
  · exact (carried.tail (.activity (by simp [InOrder]) performed)).head (.activity (a := .poll) trivial polled)
  · simp only [Transit.lag, Transit.settling, Transit.returning, late_append, late_eq_zero after]
    simp [late]
    omega

/-- The first answer is settled. -/
theorem settle (waits : Underway p config tick d s t r) (fits : p.Fits)
    (behind : 0 < t.lag tick) {a : Answer} {rest : List Answer} (answered : t.answered = a :: rest) :
    ∃ d' t' r', Stirs (d, s) (d', s) ∧ Underway p config tick d' s t' r' ∧
      t'.lag tick < t.lag tick := by
  obtain ⟨d', performed, -, flow, turn⟩ := waits.live.flow.settle answered 0
  have train : t.train = .ask a.query :: Transit.train { t with answered := rest } := by
    simp [Transit.train, Transit.settling, Transit.returning, Transit.orders, answered]
  obtain ⟨r', waits'⟩ := waits.next d' fits flow rfl turn
    (waits.sorted.sublist (train ▸ List.sublist_cons_self ..))
  refine ⟨d', _, r', .activity (a := .settle 0) rfl performed, waits', ?_⟩
  have old : (Order.ask a.query).isAfter tick = false := by
    rw [← Bool.not_eq_true]
    intro after
    exact Nat.ne_of_gt behind (Transit.lag_eq_zero waits.sorted train after)
  simp only [Transit.lag, Transit.settling, answered, List.map_cons, late_cons, old]
  simp [Transit.returning]

/-- The first reply is read. -/
theorem read (waits : Underway p config tick d s t r) (fits : p.Fits)
    (behind : 0 < t.lag tick) (answered : t.answered = []) {x : Reply} {rest : List Reply}
    (replied : t.replied = x :: rest) (filled : d.link.line.inbound.octets ≠ []) :
    ∃ d' t' r', Stirs (d, s) (d', s) ∧ Underway p config tick d' s t' r' ∧
      t'.lag tick < t.lag tick := by
  have reading := waits.live.flow.read 0
  generalize moved : d.link.perform? 0 .read = result at reading
  cases reading with
  | idle waiting =>
      rw [waiting filled] at replied
      cases replied
  | nothing waiting _ =>
      rw [waiting filled] at replied
      cases replied
  | @reply l x' rest' replied' flow =>
      have performed : d.perform? 0 (.link .read) = some { d with
          link := l, answers := d.answers ++ [(x'.answer.query, .ok x'.answer.data)] } := by
        rw [Debuggee.perform?, moved, Option.map_some]
        exact congrArg some (absorb_complete { d with link := l } _ _)
      have train : Transit.train
          { t with replied := rest', answered := t.answered ++ [x'.answer] } = t.train := by
        simp [Transit.train, Transit.settling, Transit.returning, Transit.orders, replied']
      obtain ⟨r', waits'⟩ := waits.next { d with
          link := l, answers := d.answers ++ [(x'.answer.query, .ok x'.answer.data)] } fits flow rfl
        (.same 0 (by simp [Transit.answers, replied']) rfl rfl) (waits.sorted.congr train)
      refine ⟨_, _, r', .activity (by simp [InOrder]) performed, waits', ?_⟩
      have first : t.train = .ask x'.answer.query :: (rest'.map (.ask ·.answer.query) ++ t.orders) := by
        simp [Transit.train, Transit.settling, Transit.returning, replied', answered]
      have old : (Order.ask x'.answer.query).isAfter tick = false := by
        rw [← Bool.not_eq_true]
        intro after
        exact Nat.ne_of_gt behind (Transit.lag_eq_zero waits.sorted first after)
      simp only [Transit.lag, Transit.settling, Transit.returning, replied', answered,
        List.map_cons, late_cons, old, List.map_append, late_append]
      simp [late]
      omega

/-- The first order in the pipe is read; if it comes after the tick, its answer makes the channel
read a reply that does not. -/
theorem serve (waits : Underway p config tick d s t r) (fits : p.Fits)
    (outOfBand : config.channel.delimiting.OutOfBand) (behind : 0 < t.lag tick)
    (answered : t.answered = []) (written : t.written ≠ [])
    (filled : d.link.line.outbound.octets ≠ []) :
    ∃ d' s' t' r', ReflTransGen Stirs (d, s) (d', s') ∧ Underway p config tick d' s' t' r' ∧
      t'.lag tick < t.lag tick := by
  have serving := waits.live.flow.serve fits outOfBand
  generalize taken : s.read? d.link.line = result at serving
  cases serving with
  | idle waiting => exact absurd (waiting filled) written
  | nothing waiting _ => exact absurd (waiting filled) written
  | @step s' line rest written flow =>
      have train : Transit.train { t with written := rest, first := t.first + 1, made := t.made + 1 }
          |>.Sublist t.train := by
        simp [Transit.train, Transit.settling, Transit.returning, Transit.orders, written]
      obtain ⟨r', left⟩ := waits.next { d with link := { d.link with line } } fits flow rfl
        (.step 0 written) (waits.sorted.sublist train)
      refine ⟨_, s', _, r', .single (.serve taken), left, ?_⟩
      simp only [Transit.lag, written, late_cons]
      simp [Transit.settling, Transit.returning, Order.isAfter]
  | @silence s' line q rest written unreported flow =>
      have old : (Order.ask q).isAfter tick = false := by
        cases q with
        | part tick' q => cases part?_of_unreported unreported
        | debugInfo | code => rfl
      have train : Transit.train { t with written := rest, first := t.first + 1 }
          |>.Sublist t.train := by
        simp [Transit.train, Transit.settling, Transit.returning, Transit.orders, written]
      obtain ⟨r', left⟩ := waits.next { d with link := { d.link with line } } fits flow rfl
        (.silence 0 written unreported) (waits.sorted.sublist train)
      refine ⟨_, s', _, r', .single (.serve taken), left, ?_⟩
      simp only [Transit.lag, written, late_cons, old]
      simp [Transit.settling, Transit.returning]
  | @answer s' line q rest id data written reported heard flow =>
      have train : Transit.train
          { t with
            written := rest
            first := t.first + 1
            replied := t.replied ++ [⟨t.first, id, q, t.made, data⟩] } = t.train := by
        simp [Transit.train, Transit.settling, Transit.returning, Transit.orders, written]
      obtain ⟨r', left⟩ := waits.next { d with link := { d.link with line } } fits flow rfl
        (.reply 0 written) (waits.sorted.congr train)
      have lag : Transit.lag tick
          { t with
            written := rest
            first := t.first + 1
            replied := t.replied ++ [⟨t.first, id, q, t.made, data⟩] } +
          (if (Order.ask q).isAfter tick then 0 else 1) = t.lag tick := by
        simp only [Transit.lag, Transit.returning, Transit.settling, written, late_cons,
          List.map_append, late_append, List.map_singleton]
        simp only [late, List.countP_nil]
        split <;> omega
      cases after : (Order.ask q).isAfter tick with
      | false =>
          refine ⟨_, s', _, r', .single (.serve taken), left, ?_⟩
          rw [after] at lag
          simp only [Bool.false_eq_true, if_false] at lag
          omega
      | true =>
          rw [after] at lag
          simp only [if_true, Nat.add_zero] at lag
          cases replied : t.replied with
          | nil =>
              have first : t.train = .ask q :: (rest ++ t.queued ++ t.ordered) := by
                simp [Transit.train, Transit.settling, Transit.returning, Transit.orders, answered,
                  replied, written]
              exact absurd (Transit.lag_eq_zero waits.sorted first after) (Nat.ne_of_gt behind)
          | cons x more =>
              have replied' : t.replied ++ [⟨t.first, id, q, t.made, data⟩] =
                  x :: (more ++ [⟨t.first, id, q, t.made, data⟩]) := by
                rw [replied, List.cons_append]
              rw [← lag] at behind
              obtain ⟨d', t', r'', stirs, left', less⟩ :=
                left.read fits behind answered replied' heard
              rw [lag] at less
              exact ⟨d', s', t', r'', .head (.serve taken) (.single stirs), left', less⟩

/-- What has to come before the end of the tick becomes less. -/
theorem advance (waits : Underway p config tick d s t r) (fits : p.Fits)
    (outOfBand : config.channel.delimiting.OutOfBand) (behind : 0 < t.lag tick) :
    ∃ d' s' t' r', ReflTransGen Stirs (d, s) (d', s') ∧ Underway p config tick d' s' t' r' ∧
      t'.lag tick < t.lag tick := by
  obtain ⟨d₁, t₁, r₁, pumped, waits₁, answered, replied, written, filled, less⟩ :=
    waits.pump fits outOfBand
  by_cases now : t₁.lag tick < t.lag tick
  · exact ⟨d₁, s, t₁, r₁, pumped, waits₁, now⟩
  · have behind₁ : 0 < t₁.lag tick := by omega
    have result : ∃ d' s' t' r', ReflTransGen Stirs (d₁, s) (d', s') ∧
        Underway p config tick d' s' t' r' ∧ t'.lag tick < t₁.lag tick := by
      cases first : t₁.answered with
      | cons a rest =>
          obtain ⟨d', t', r', stirs, left, less⟩ := waits₁.settle fits behind₁ first
          exact ⟨d', s, t', r', .single stirs, left, less⟩
      | nil => exact waits₁.serve fits outOfBand behind₁ first written filled
    obtain ⟨d', s', t', r', reached, left, less'⟩ := result
    exact ⟨d', s', t', r', pumped.trans reached, left, Nat.lt_of_lt_of_le less' less⟩

/-- Nothing stays before the end of the tick for ever. -/
theorem pass (waits : Underway p config tick d s t r) (fits : p.Fits)
    (outOfBand : config.channel.delimiting.OutOfBand) :
    ∃ d' s' t' r', ReflTransGen Stirs (d, s) (d', s') ∧ Underway p config tick d' s' t' r' ∧
      t'.lag tick = 0 := by
  induction behind : t.lag tick using Nat.strong_induction_on generalizing d s t r with
  | _ n ih =>
      obtain rfl | some_ := Nat.eq_zero_or_pos n
      · exact ⟨d, s, t, r, .refl, waits, behind⟩
      · rw [← behind] at some_
        obtain ⟨d₁, s₁, t₁, r₁, reached, waits₁, less⟩ := waits.advance fits outOfBand some_
        obtain ⟨d', s', t', r', reached', left, done⟩ := ih _ (behind ▸ less) waits₁ rfl
        exact ⟨d', s', t', r', reached.trans reached', left, done⟩

/-- When nothing is before the end of the tick, it has been noted. -/
theorem noted (waits : Underway p config tick d s t r) (passed : t.lag tick = 0) :
    tick ≤ d.monitor.refreshed := by
  have timely := waits.live.timely
  refine Nat.le_of_not_lt fun early => ?_
  cases stages : r.stages with
  | nil =>
      have begun := waits.begun
      rw [timely.started, stages, List.length_nil] at begun
      omega
  | cons n ns =>
      -- The state comes last in every tick, so it is still to come in this one.
      have last : Part.state ∈ parts.drop r.settled := by
        have inside := timely.settled_lt
        have whole : parts.getLast? = some .state := rfl
        refine List.mem_of_getLast? ?_
        rw [List.getLast?_drop, if_neg (Nat.not_le.mpr inside), whole]
      have member : ((d.monitor.refreshed + 1, Part.state), n) ∈ outstanding t.owed := by
        rw [timely.owed_eq, stages, unsettled]
        exact List.mem_append_left _ (List.mem_map_of_mem last)
      obtain ⟨⟨q, k⟩, owed, same⟩ := List.mem_filterMap.mp member
      have after := Transit.isAfter_of_lag passed (Transit.mem_train.mpr ⟨k, owed⟩)
      cases q with
      | part tick' q =>
          cases same
          exact absurd (of_decide_eq_true after) (Nat.not_lt.mpr early)
      | debugInfo | code => cases after

end Underway

namespace Live

open Relation (ReflTransGen)

variable {p : ScriptedProgram} {config : Config} {d : Debuggee} {s : ScriptedInterpreter}
  {t : Transit} {r : Standing}

/-- Only ticks that have begun are asked about. -/
theorem sorted (live : Live p config d s t r) : t.Sorted d.monitor.ticksStarted := by
  refine List.pairwise_of_forall_mem_list fun o member o' _ after => ?_
  cases o with
  | step => cases after
  | ask q =>
      obtain ⟨n, owed⟩ := Transit.mem_train.mp member
      cases q with
      | part tick q =>
          have begun := live.timely.begun (List.mem_filterMap.mpr ⟨_, owed, rfl⟩)
          exact absurd (of_decide_eq_true after) (Nat.not_lt.mpr begun)
      | debugInfo | code => cases after

/-- The compiled code can be asked for, if it has not been. -/
theorem inquire (live : Live p config d s t r) (fits : p.Fits) :
    ∃ d' t' r', ReflTransGen Stirs (d, s) (d', s) ∧ Live p config d' s t' r' ∧
      Grows d.monitor d'.monitor ∧ ∀ due, d'.monitor.fetch ≠ .waiting due := by
  by_cases waiting : ∃ due, d.monitor.fetch = .waiting due
  · obtain ⟨due, waiting⟩ := waiting
    obtain ⟨d', performed, -, monitor, flow, turn⟩ :=
      live.flow.fetch live.going waiting (Nat.le_refl due)
    obtain ⟨r', live', moved⟩ := live.turn d' fits flow live.going turn
    refine ⟨d', _, r', .single (.activity (a := .fetch) trivial performed), live', moved.grows, ?_⟩
    simp [monitor, fetchCode]
  · exact ⟨d, t, r, .refl, live, .refl _, not_exists.mp waiting⟩

/-- A tick can begin. -/
theorem begin (live : Live p config d s t r) (fits : p.Fits) :
    ∃ d' t' r', Stirs (d, s) (d', s) ∧ Live p config d' s t' r' ∧ Grows d.monitor d'.monitor ∧
      d.monitor.ticksStarted < d'.monitor.ticksStarted := by
  obtain ⟨due, scheduled⟩ := Option.ne_none_iff_exists'.mp live.polling
  obtain ⟨d', performed, -, monitor, flow, turn⟩ :=
    live.flow.poll live.going scheduled (Nat.le_refl due)
  obtain ⟨r', live', moved⟩ := live.turn d' fits flow live.going turn
  refine ⟨d', _, r', .activity (a := .poll) trivial performed, live', moved.grows, ?_⟩
  simp [monitor, Monitor.poll, scheduled]

/-- A tick that begins only now is noted in the end, and the compiled code is known. -/
theorem refresh (live : Live p config d s t r) (fits : p.Fits)
    (outOfBand : config.channel.delimiting.OutOfBand) :
    ∃ d' s', ReflTransGen Stirs (d, s) (d', s') ∧
      d.monitor.ticksStarted < d'.monitor.refreshed ∧
      (p.silentCompiler = false → d'.monitor.codeSettled = true) := by
  obtain ⟨d₁, t₁, r₁, inquired, live₁, grows₁, fetched₁⟩ := live.inquire fits
  obtain ⟨d₂, t₂, r₂, polled, live₂, grows₂, later⟩ := live₁.begin fits
  obtain ⟨d', s', t', r', reached, waits, passed⟩ := Underway.pass
    ⟨live₂, live₂.sorted, Nat.le_refl _, grows₂.fetched fetched₁⟩ fits outOfBand
  refine ⟨d', s', (inquired.tail polled).trans reached,
    grows₁.started.trans_lt (later.trans_le (waits.noted passed)), fun talking => ?_⟩
  cases waits.live.informed talking with
  | @waiting due fetch _ => exact absurd fetch (waits.fetched due)
  | asked _ _ waiting infoOwed codeOwed _ =>
      obtain none_ | none_ := waiting
      · cases Transit.isAfter_of_lag passed (Transit.mem_train.mpr (infoOwed none_))
      · cases Transit.isAfter_of_lag passed (Transit.mem_train.mpr (codeOwed none_))
  | settled _ settled _ => exact settled

end Live

end DebugAdapter.Monitor
