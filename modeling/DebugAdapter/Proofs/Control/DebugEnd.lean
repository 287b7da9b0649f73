import DebugAdapter.Proofs.Control.DebugSteps
/-!
# The end of a debug run

As long as ticks begin and messages arrive, and the client answers every stop, a run gets on: after
each instruction execution control sees where the program is, and decides what comes next. So every
run can come to the end of its program, and when it is there, each visit of a line with a breakpoint
has been reported once, and each instruction has been executed once.
-/

namespace DebugAdapter

open Control (Errand StopReason heedful isVisit markedLines visits)
open Interpreter (ScriptedInterpreter ScriptedProgram)
open Monitor (Parted Parting Standing Stirs Transit)
open Program (Breakpoints)
open Relation (ReflTransGen)

namespace DebugRun

/-! ## What the interpreter and its monitor do -/

section

variable {r r' : DebugRun} {d d' : Debuggee} {s' : ScriptedInterpreter}

theorem step_silent {c : Control} {now : Millis} {a : Control.Activity}
    (admitted : Admitted r.control now a) (performed : r.control.perform? now a = some c)
    (notices : c.notices = r.control.notices) : Step r { r with control := c } := by
  rw [← after_same notices]
  exact .activity admitted performed

theorem step_stirs (debuggees : r.control.debuggees = [d])
    (stirs : Stirs (d, r.interpreter) (d', s')) :
    Step r { r with control := { r.control with debuggees := [d'] }, interpreter := s' } := by
  generalize same : r.interpreter = s at stirs
  cases stirs with
  | @activity _ _ _ now a inOrder performed =>
      subst same
      have moved : r.control.perform? now (.debuggee 0 a) =
          some { r.control with debuggees := [d'] } := by
        simp [Control.perform?, debuggees, performed, modifyDebuggee_single debuggees]
      have admitted : Admitted r.control now (.debuggee 0 a) := inOrder
      exact step_silent admitted moved rfl
  | @serve _ _ _ line read =>
      subst same
      have served : Step r _ := .serve (by rw [debuggees]; rfl) read
      rwa [modifyDebuggee_single debuggees] at served

/-- What a monitor and its interpreter can do, they can do in a run. -/
theorem reaches_stirs (debuggees : r.control.debuggees = [d])
    (stirs : ReflTransGen Stirs (d, r.interpreter) (d', s')) :
    ReflTransGen Step r
      { r with control := { r.control with debuggees := [d'] }, interpreter := s' } := by
  generalize last : (d', s') = target at stirs
  induction stirs generalizing d' s' with
  | refl =>
      cases last
      rw [← debuggees]
  | @tail between _ _ stir ih =>
      cases last
      have before := ih (Prod.mk.eta (p := between))
      exact before.tail (step_stirs (r := { r with
        control := { r.control with debuggees := [between.1] }, interpreter := between.2 }) rfl stir)

end

/-! ## Getting on -/

/-- Whether the end has been reported. -/
def Ended (r : DebugRun) : Prop := .ended ∈ r.control.notices

section

variable {file : String} {lines : List Int} {bs : Breakpoints} {config : Monitor.Config}
  {r : DebugRun} {d d' : Debuggee} {s' : ScriptedInterpreter} {t : Transit} {st : Standing}
  {post : Post} {k : Nat}

section

variable (fits : (ScriptedProgram.ofLines file lines).Fits)
  (outOfBand : config.channel.delimiting.OutOfBand)

include fits outOfBand

/-- Meanwhile execution control waits. -/
theorem Attached.stirs (attached : Attached file lines bs config r d t st k)
    (duty : Duty bs lines r d.monitor st post k)
    (stirs : ReflTransGen Stirs (d, r.interpreter) (d', s')) :
    ∃ t' st', Attached file lines bs config
        { r with control := { r.control with debuggees := [d'] }, interpreter := s' } d' t' st' k ∧
      Duty bs lines { r with control := { r.control with debuggees := [d'] }, interpreter := s' }
        d'.monitor st' post k := by
  generalize last : (d', s') = target at stirs
  induction stirs generalizing d' s' with
  | refl =>
      cases last
      rw [← attached.debuggees]
      exact ⟨t, st, attached, duty⟩
  | @tail between _ _ stir ih =>
      cases last
      obtain ⟨t₁, st₁, attached₁, duty₁⟩ := ih (Prod.mk.eta (p := between))
      obtain ⟨d₁, s₁⟩ := between
      cases stir with
      | activity inOrder performed =>
          obtain ⟨t', st', es, live, moved, news⟩ :=
            attached₁.live.perform fits outOfBand inOrder performed
          exact ⟨t', st', attached₁.moved live moved news, duty₁.moved attached₁.sent moved _⟩
      | serve read =>
          obtain ⟨t', st', live, moved⟩ := attached₁.live.serve fits outOfBand read
          exact ⟨t', st', attached₁.moved live moved (List.append_nil _).symm,
            duty₁.moved attached₁.sent moved _⟩

/-- Execution control waits until it knows the compiled code, and sees a tick that begins later. -/
theorem Attached.await (attached : Attached file lines bs config r d t st k)
    (duty : Duty bs lines r d.monitor st post k) :
    ∃ r' d' t' st', ReflTransGen Step r r' ∧ Attached file lines bs config r' d' t' st' k ∧
      Duty bs lines r' d'.monitor st' post k ∧
      d.monitor.ticksStarted < d'.monitor.refreshed ∧ d'.monitor.codeSettled = true := by
  obtain ⟨d', s', stirs, refreshed, known⟩ := attached.live.refresh fits outOfBand
  obtain ⟨t', st', attached', duty'⟩ := attached.stirs fits outOfBand duty stirs
  exact ⟨_, d', t', st', reaches_stirs attached.debuggees stirs, attached', duty', refreshed,
    known rfl⟩

end

theorem Attached.queue (attached : Attached file lines bs config r d t st k)
    (duty : Duty bs lines r d.monitor st .pending k) :
    ∃ r', ReflTransGen Step r r' ∧ Attached file lines bs config r' d t st k ∧
      Duty bs lines r' d.monitor st .pending k ∧ ∃ task, r'.control.queue = [task] := by
  cases duty with
  | @pending task issued k turn errand tasks present rested refreshed known answered =>
      obtain queued | asks := queued_or_ask tasks 0
      · exact ⟨r, .refl, attached,
          .pending turn errand tasks present rested refreshed known answered, task, queued⟩
      · exact ⟨_, .single (step_silent (by exact trivial) asks rfl), { attached with live := attached.live },
          .pending turn errand (List.nil_append _) present { rested with } refreshed known answered,
          task, rfl⟩

/-- A program that is being run gets on, until its interpreter is given up. -/
theorem Busy.onward (fits : (ScriptedProgram.ofLines file lines).Fits)
    (outOfBand : config.channel.delimiting.OutOfBand) (plain : bs.instructions = [])
    (busy : Busy file lines bs config r post k) :
    ∃ r', ReflTransGen Step r r' ∧
      ((∃ post' k', Busy file lines bs config r' post' k' ∧ rank lines post' k' < rank lines post k) ∨
        ∃ d t, Leaving file lines bs config r' d t) := by
  obtain ⟨d₀, t₀, st₀, attached₀, duty₀⟩ := busy
  -- Whatever is waited for, it has come when a tick has been noted that begins only now.
  obtain ⟨r₁, d, t, st, reached, attached, duty, refreshed, known⟩ :=
    attached₀.await fits outOfBand duty₀
  cases post with
  | status =>
      have shown : 0 < d.monitor.refreshed := Nat.zero_lt_of_lt refreshed
      obtain ⟨c, installed, busy⟩ := attached.install duty shown 0
      have timely : Admitted r₁.control 0 .advance := by
        cases duty with
        | status turn => simp [Admitted, overdue, turn, attached.debuggees, shown]
      refine ⟨_, reached.tail (.activity timely installed), .inl ⟨.code, 0, busy, ?_⟩⟩
      simp only [rank]
      omega
  | code =>
      obtain ⟨c, entered, busy⟩ := attached.enter duty known 0
      have timely : Admitted r₁.control 0 .advance := by
        cases duty with
        | code turn => simp [Admitted, overdue, turn]
      refine ⟨_, reached.tail (.activity timely entered), .inl ⟨.pending, 0, busy, ?_⟩⟩
      simp only [rank]
      omega
  | pending =>
      have inside : k ≤ lines.length := by
        cases duty with
        | pending _ _ _ _ rested => exact rested.memory.inside
      obtain ⟨r₂, queued, attached₂, duty₂, task, only⟩ := attached.queue duty
      obtain ⟨c, stage, waiter, granted, busy⟩ := attached₂.grant duty₂ plain only 0
      refine ⟨_, (reached.trans queued).tail (.activity (by exact trivial) granted),
        .inl ⟨.driving stage waiter, k + 1, busy, ?_⟩⟩
      simp only [rank]
      omega
  | driving stage waiter =>
      have issued : waiter.issued ≤ d₀.monitor.ticksStarted := by
        cases duty₀ with
        | driving _ _ _ _ _ _ _ issued => exact issued
      have shown : d.monitor.hasRefreshed waiter = true :=
        decide_eq_true (issued.trans_lt refreshed)
      have timely : Admitted r₁.control 0 .advance := by
        cases duty with
        | driving turn => simp [Admitted, overdue, turn, attached.debuggees, shown]
      obtain ⟨c, post', k', decided, busy, less⟩ := attached.decide duty plain shown 0
      exact ⟨_, reached.tail (.activity timely decided), .inl ⟨post', k', busy, less⟩⟩
  | stopped =>
      cases duty with
      | stopped turn unasked present rested refreshed known owes =>
          have only : (r₁.control.tasks ++ [{ errand := .resume, asker := none }]) ++
              r₁.control.queue = [({ errand := .resume, asker := none } : Control.Task)] := by
            simp [unasked.tasks, unasked.queue]
          refine ⟨_, reached.tail (.resume (Nat.lt_of_succ_le (Nat.le_of_eq owes))),
            .inl ⟨.pending, k, ⟨d, t, st, { attached with live := attached.live },
              .pending turn (by rfl) only present { rested with } refreshed known owes⟩, ?_⟩⟩
          simp only [rank]
          omega
  | finished =>
      have heard : ∃ c, r₁.control.perform? 0 .hear = some c ∧ r₁.control.present = some 0 := by
        cases duty with
        | finished turn unasked present last stops refreshed reported answered =>
            have news := attached.news
            rw [reported] at news
            simp [Control.perform?, present, attached.debuggees, Debuggee.hear?, news]
      obtain ⟨c, performed, present⟩ := heard
      obtain ⟨notices, d', t', leaving⟩ := attached.hear duty present performed
      exact ⟨_, reached.tail (step_silent (by exact trivial) performed notices), .inr ⟨d', t', leaving⟩⟩

end

/-! ## The end -/

section

variable {file : String} {lines : List Int} {bs : Breakpoints} {config : Monitor.Config}
  {r : DebugRun} {d : Debuggee} {t : Transit} {post : Post} {k : Nat}

theorem Gone.report (gone : Gone file lines bs config r d) (news : d.news ≠ []) :
    ∃ r', Step r r' ∧ Ended r' := by
  obtain ⟨c, performed⟩ : ∃ c, r.control.perform? 0 .hear = some c := by
    cases listed : d.news with
    | nil => exact absurd listed news
    | cons e rest =>
        simp [Control.perform?, gone.closing.present, gone.debuggees, Debuggee.hear?, listed]
  refine ⟨_, .activity (by exact trivial) performed, ?_⟩
  rw [after, Ended, (gone.hear performed).1]
  exact List.mem_append_right _ List.mem_cons_self

theorem Gone.ends (gone : Gone file lines bs config r d) :
    ∃ r', ReflTransGen Step r r' ∧ Ended r' := by
  have announcing := gone.announcing
  generalize reports : d.reports = reported at announcing
  generalize news : d.news = heard at announcing
  generalize notices : r.control.notices = told at announcing
  cases announcing with
  | heard =>
      refine ⟨r, .refl, ?_⟩
      rw [Ended, notices]
      exact List.mem_append_right _ List.mem_cons_self
  | forwarded code =>
      obtain ⟨r', step, ended⟩ := gone.report (by simp [news])
      exact ⟨r', .single step, ended⟩
  | reported code =>
      have passed : d.perform? 0 .forward =
          some { d with reports := [], news := d.news ++ [.closed code] } := by
        simp [Debuggee.perform?, reports, Monitor.eventOfChannel?]
      have stirs : Stirs (d, r.interpreter) _ := .activity (by exact trivial) passed
      obtain ⟨r', step, ended⟩ := (gone.forward passed).report (by simp)
      exact ⟨r', .head (step_stirs gone.debuggees stirs) (.single step), ended⟩

/-- A program that has been executed is left, and its end is reported. -/
theorem Leaving.ends (leaving : Leaving file lines bs config r d t) :
    ∃ r', ReflTransGen Step r r' ∧ Ended r' := by
  obtain ⟨d', code, stirs, news, reports, parted⟩ := leaving.parting.leave
    (ScriptedProgram.isTerminal_stepAfter file lines) rfl
  have announcing : Announcing r.stops d'.reports d'.news r.control.notices := by
    rw [reports, news, leaving.news, leaving.notices]
    exact .reported code
  have gone : Gone file lines bs config
      { r with control := { r.control with debuggees := [d'] } } d' :=
    ⟨rfl, leaving.closing.moved .., parted, announcing⟩
  obtain ⟨r', later, ended⟩ := gone.ends
  exact ⟨r', (reaches_stirs leaving.debuggees stirs).trans later, ended⟩

section

variable (fits : (ScriptedProgram.ofLines file lines).Fits)
  (outOfBand : config.channel.delimiting.OutOfBand) (plain : bs.instructions = [])

include fits outOfBand plain

/-- A program that is being run comes to its end. The measure is how much of it is left. -/
theorem Busy.ends (busy : Busy file lines bs config r post k) :
    ∃ r', ReflTransGen Step r r' ∧ Ended r' := by
  -- The interpreter and the monitor never end it: only a decision makes the rank smaller.
  induction measure : rank lines post k using Nat.strong_induction_on generalizing r post k with
  | _ n ih =>
      obtain ⟨r₁, reached, ⟨post', k', busy', less⟩ | ⟨d, t, leaving⟩⟩ :=
        busy.onward fits outOfBand plain
      · obtain ⟨r', later, ended⟩ := ih _ (measure ▸ less) busy' rfl
        exact ⟨r', reached.trans later, ended⟩
      · obtain ⟨r', later, ended⟩ := leaving.ends
        exact ⟨r', reached.trans later, ended⟩

theorem Asked.ends (asked : Asked file lines bs config r) :
    ∃ r', ReflTransGen Step r r' ∧ Ended r' := by
  have launched {r : DebugRun} (asked : Asked file lines bs config r)
      (queued : r.control.queue ≠ []) : ∃ r', ReflTransGen Step r r' ∧ Ended r' := by
    obtain ⟨c, granted, busy⟩ := asked.launch fits queued 0
    obtain ⟨r', later, ended⟩ := busy.ends fits outOfBand plain
    exact ⟨r', .head (.activity (by exact trivial) granted) later, ended⟩
  obtain ⟨task, program, errand, tasks⟩ := asked.tasks
  obtain queued | asks := queued_or_ask tasks 0
  · exact launched asked (by simp [queued])
  · have asked' : Asked file lines bs config
        { r with control := { r.control with tasks := [], queue := [task] } } :=
      { asked with tasks := ⟨task, program, errand, List.nil_append _⟩ }
    obtain ⟨r', later, ended⟩ := launched asked' (List.cons_ne_nil _ _)
    exact ⟨r', .head (step_silent (by exact trivial) asks rfl) later, ended⟩

theorem Situation.ends (situation : Situation file lines bs config r) :
    ∃ r', ReflTransGen Step r r' ∧ Ended r' := by
  cases situation with
  | asked asked => exact asked.ends fits outOfBand plain
  | busy busy => exact busy.ends fits outOfBand plain
  | leaving leaving => exact leaving.ends
  | gone gone => exact gone.ends

end

/-! ## What a run reports -/

/-- The stops that are due: one for each visit of a marked line. -/
def expected (bs : Breakpoints) (lines : List Int) : List (StopReason × Option Int) :=
  (visits (markedLines bs) lines).map fun i : Nat => (.breakpoint, some ↑i)

theorem stopsBefore_prefix (bs : Breakpoints) (lines : List Int) (k : Nat) :
    stopsBefore bs lines k <+: expected bs lines := by
  by_cases inside : k ≤ lines.length
  · have shorter : List.range k <+: List.range lines.length := by
      obtain ⟨more, same⟩ := Nat.exists_eq_add_of_le inside
      rw [same, List.range_add]
      exact List.prefix_append _ _
    exact (shorter.filter _).map _
  · obtain ⟨more, same⟩ := Nat.exists_eq_add_of_le (Nat.le_of_not_le inside)
    rw [same, stopsBefore_length]
    exact List.prefix_refl _

/-- What the client of a run has been told, and what has been done when the end was reported. -/
structure Told (bs : Breakpoints) (lines : List Int) (r : DebugRun) : Prop where
  /-- The stops that are due are reported in order, each with the instruction where it is due. -/
  stops : r.stops <+: expected bs lines
  /-- The end is reported once at most, after all stops. -/
  notices : r.control.notices = r.stops.map (.stopped ·.1) ∨
    r.control.notices = r.stops.map (.stopped ·.1) ++ [.ended]
  /-- When it is reported, no stop is missing, each has been answered, and the interpreter has been
  told to step as often as the program has instructions, its set-up and its tear-down included. -/
  ended : Ended r → r.stops = expected bs lines ∧ r.answered = r.stops.length ∧
    r.interpreter.script.steps = lines.length + 2

theorem not_ended (notices : r.control.notices = r.stops.map (.stopped ·.1)) : ¬ Ended r := by
  rw [Ended, notices]
  simp

theorem Situation.told (situation : Situation file lines bs config r) : Told bs lines r := by
  cases situation with
  | asked asked =>
      have notices : r.control.notices = r.stops.map (.stopped ·.1) := by
        rw [asked.notices, asked.stops]
        rfl
      refine ⟨?_, .inl notices, fun ended => absurd ended (not_ended notices)⟩
      rw [asked.stops]
      exact List.nil_prefix
  | busy busy =>
      obtain ⟨d, t, st, attached, duty⟩ := busy
      refine ⟨?_, .inl attached.notices, fun ended => absurd ended (not_ended attached.notices)⟩
      -- However far the run has come, its stops are those before some instruction.
      obtain ⟨n, stops⟩ : ∃ n, r.stops = stopsBefore bs lines n := by
        cases duty with
        | status _ _ _ _ rested | code _ _ _ _ rested | pending _ _ _ _ rested
        | stopped _ _ _ rested => exact ⟨_, rested.stops⟩
        | driving _ _ _ _ _ stops | finished _ _ _ _ stops => exact ⟨_, stops⟩
      rw [stops]
      exact stopsBefore_prefix bs lines n
  | leaving leaving =>
      refine ⟨?_, .inl leaving.notices, fun ended => absurd ended (not_ended leaving.notices)⟩
      rw [leaving.closing.stops]
      exact stopsBefore_prefix bs lines _
  | @gone d gone =>
      refine ⟨?_, ?_, fun _ => ⟨gone.closing.stops, gone.closing.answered, gone.parted.script.steps⟩⟩
      · rw [gone.closing.stops]
        exact stopsBefore_prefix bs lines _
      · have announcing := gone.announcing
        generalize d.reports = reports at announcing
        generalize d.news = news at announcing
        generalize r.control.notices = notices at announcing ⊢
        cases announcing with
        | reported | forwarded => exact .inl rfl
        | heard => exact .inr rfl

/-- A breakpoint on line 1 of some file. -/
def onLineOne : Breakpoints := (Breakpoints.setLine {} "other.bb" 1).2

end

end DebugRun

end DebugAdapter
