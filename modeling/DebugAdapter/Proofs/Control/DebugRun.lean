import DebugAdapter.Control.Basic
import DebugAdapter.Interpreter.Scripted
import DebugAdapter.Proofs.Control.Course
import DebugAdapter.Proofs.Monitor.Parting
/-!
# Runs of a program under execution control

A client starts a program, without a stop on entry, and answers every stop with a command to go on.
Between its commands execution control, the monitor, the channel and the interpreter do what they
can, in any order; only no deadline passes, and answers are settled in the order in which they came.
-/

namespace DebugAdapter

open Control (Activity Decision Errand Memory Notice Onward OnWay Phase Stage StopReason Task Verdict View
  heedful isVisit markedLines visits)
open Interpreter (ScriptedInterpreter ScriptedProgram)
open Monitor (Announced InOrder Live Moved Parted Parting Standing Stirs Transit Waiter)
open Program (Breakpoints)

/-- Execution control, the interpreter that it starts, and a client. -/
structure DebugRun where
  control : Control
  interpreter : ScriptedInterpreter
  /-- The stops that were reported, each with the instruction at which the program then stood. -/
  stops : List (StopReason × Option Int) := []
  /-- How many of them the client has answered. -/
  answered : Nat := 0

namespace DebugRun

/-! ## Steps -/

/-- Whether the task whose turn it is would go on only because its wait has taken too long. -/
def overdue (c : Control) (now : Millis) : Bool :=
  match c.turn.map Control.Turn.phase with
  | some (.status i due) => due ≤ now && !c.debuggees[i]?.any fun d => 0 < d.monitor.refreshed
  | some (.driving i _ waiter) =>
    waiter.due ≤ now && !c.debuggees[i]?.any (·.monitor.hasRefreshed waiter)
  | some (.code _) | none => false

/-- Activities that come of no deadline, and settle answers in the order in which they came. -/
def Admitted (c : Control) (now : Millis) : Activity → Prop
  | .debuggee _ a => InOrder a
  | .advance => overdue c now = false
  | .hear | .ask _ | .grant => True

/-- The stops among the notices that `c'` has and `c` has not. -/
def stopsBetween (c c' : Control) : List (StopReason × Option Int) :=
  (c'.notices.drop c.notices.length).filterMap fun notice =>
    match notice with
    | .stopped reason => some (reason, c'.snapshot?.map (·.codePointer))
    | .output .. | .ended => none

/-- The run after an activity of execution control. -/
def after (r : DebugRun) (c : Control) : DebugRun :=
  { r with control := c, stops := r.stops ++ stopsBetween r.control c }

/-- What can happen. -/
inductive Step : DebugRun → DebugRun → Prop where
  | activity {r : DebugRun} {c : Control} {now : Millis} {a : Activity}
      (admitted : Admitted r.control now a) (performed : r.control.perform? now a = some c) :
      Step r (r.after c)
  /-- The interpreter reads. -/
  | serve {r : DebugRun} {d : Debuggee} {s : ScriptedInterpreter} {line : Framing.Line}
      (found : r.control.debuggees[0]? = some d)
      (read : r.interpreter.read? d.link.line = some (s, line)) :
      Step r { r with
        control := r.control.modifyDebuggee 0 fun _ => { d with link := { d.link with line } }
        interpreter := s }
  /-- The client answers a stop: the program is to go on. -/
  | resume {r : DebugRun} {asker : Option Nat} (owed : r.answered < r.stops.length) :
      Step r { r with control := r.control.request .resume asker, answered := r.answered + 1 }

/-- A program is to be started, with regard to breakpoints. -/
def start (config : Monitor.Config) (home : String) (bs : Breakpoints) (program : String)
    (asker : Option Nat) (p : ScriptedProgram) : DebugRun where
  control := Control.request { config, home, breakpoints := bs } (.start program false true) asker
  interpreter := .start p.script config.channel.delimiting

/-! ## How far a run has come -/

/-- The stops that a program has made before the instruction `k`. -/
def stopsBefore (bs : Breakpoints) (lines : List Int) (k : Nat) : List (StopReason × Option Int) :=
  ((List.range k).filter (isVisit (markedLines bs) lines)).map fun i : Nat => (.breakpoint, some ↑i)

/-- What is remembered while nobody drives the program, after `k` instructions. -/
inductive Remembers (bs : Breakpoints) (lines : List Int) : Nat → Memory → Prop where
  | start : Remembers bs lines 0 heedful
  | stop {i : Nat} {line : Int} (here : lines[i]? = some line)
      (marked : isVisit (markedLines bs) lines i = true) :
      Remembers bs lines (i + 1) (Control.stoppedAt line i)

/-- What execution control waits for. -/
inductive Post where
  | status
  | code
  /-- The program is to go on when it is the task's turn. -/
  | pending
  | driving (stage : Stage) (waiter : Waiter)
  /-- The client has to answer a stop. -/
  | stopped
  /-- The program has been executed. -/
  | finished

/-- Whether no task waits for its turn. -/
structure Unasked (c : Control) : Prop where
  tasks : c.tasks = []
  queue : c.queue = []

/-- What holds while nobody drives the program; the ticks from `issued` on show `k` instructions. -/
structure Rested (bs : Breakpoints) (lines : List Int) (r : DebugRun) (m : Monitor) (st : Standing)
    (issued k : Nat) : Prop where
  memory : Remembers bs lines k r.control.memory
  stops : r.stops = stopsBefore bs lines k
  waits : Monitor.Awaits m st issued k

/-- What execution control is about to do when `k` instructions have been ordered. -/
inductive Duty (bs : Breakpoints) (lines : List Int) (r : DebugRun) (m : Monitor) (st : Standing) :
    Post → Nat → Prop where
  | status {task : Task} {program : String} {due : Millis}
      (turn : r.control.turn = some { task, phase := .status 0 due })
      (errand : task.errand = .start program false true) (unasked : Unasked r.control)
      (absent : r.control.present = none) (rested : Rested bs lines r m st 0 0)
      (answered : r.answered = r.stops.length) : Duty bs lines r m st .status 0
  | code {task : Task} {program : String} (turn : r.control.turn = some { task, phase := .code 0 })
      (errand : task.errand = .start program false true) (unasked : Unasked r.control)
      (present : r.control.present = some 0) (rested : Rested bs lines r m st 0 0)
      (refreshed : 0 < m.refreshed) (answered : r.answered = r.stops.length) :
      Duty bs lines r m st .code 0
  | pending {task : Task} {issued k : Nat} (turn : r.control.turn = none)
      (errand : task.errand = .resume) (tasks : r.control.tasks ++ r.control.queue = [task])
      (present : r.control.present = some 0) (rested : Rested bs lines r m st issued k)
      (refreshed : issued < m.refreshed) (known : m.codeSettled = true)
      (answered : r.answered = r.stops.length) : Duty bs lines r m st .pending k
  | driving {task : Task} {stage : Stage} {waiter : Waiter} {k : Nat}
      (turn : r.control.turn = some { task, phase := .driving 0 stage waiter })
      (unasked : Unasked r.control) (present : r.control.present = some 0)
      (memory : r.control.memory = heedful) (onWay : OnWay bs lines k stage)
      (stops : r.stops = stopsBefore bs lines (k - 1))
      (waits : Monitor.Awaits m st waiter.issued k) (issued : waiter.issued ≤ m.ticksStarted)
      (refreshed : 0 < m.refreshed)
      (known : m.codeSettled = true) (answered : r.answered = r.stops.length) :
      Duty bs lines r m st (.driving stage waiter) k
  | stopped {issued k : Nat} (turn : r.control.turn = none) (unasked : Unasked r.control)
      (present : r.control.present = some 0) (rested : Rested bs lines r m st issued k)
      (refreshed : issued < m.refreshed) (known : m.codeSettled = true)
      (owes : r.answered + 1 = r.stops.length) : Duty bs lines r m st .stopped k
  | finished {k : Nat} (turn : r.control.turn = none) (unasked : Unasked r.control)
      (present : r.control.present = some 0) (last : k = lines.length + 2)
      (stops : r.stops = stopsBefore bs lines k) (refreshed : 0 < m.refreshed)
      (reported : m.doneReported = true) (answered : r.answered = r.stops.length) :
      Duty bs lines r m st .finished k

/-- What holds of the interpreter and its monitor. -/
structure Attached (file : String) (lines : List Int) (bs : Breakpoints) (config : Monitor.Config)
    (r : DebugRun) (d : Debuggee) (t : Transit) (st : Standing) (k : Nat) : Prop where
  debuggees : r.control.debuggees = [d]
  breakpoints : r.control.breakpoints = bs
  live : Live (.ofLines file lines) config d r.interpreter t st
  sent : t.sent = k
  news : d.news = if d.monitor.doneReported then [.done] else []
  notices : r.control.notices = r.stops.map (.stopped ·.1)

/-- Whether a program is being run, and how far it has come. -/
def Busy (file : String) (lines : List Int) (bs : Breakpoints) (config : Monitor.Config)
    (r : DebugRun) (post : Post) (k : Nat) : Prop :=
  ∃ d t st, Attached file lines bs config r d t st k ∧ Duty bs lines r d.monitor st post k

/-- What execution control leaves when the program has been executed. -/
structure Closing (bs : Breakpoints) (lines : List Int) (r : DebugRun) : Prop where
  turn : r.control.turn = none ∨ ∃ task stage waiter k,
    r.control.turn = some { task, phase := .driving 0 stage waiter } ∧
      r.control.memory = heedful ∧ OnWay bs lines k stage
  unasked : Unasked r.control
  present : r.control.present = some 0
  stops : r.stops = stopsBefore bs lines lines.length
  answered : r.answered = r.stops.length

/-- How far the end has been reported after some stops: by the channel, by the monitor, and as the
last notice. -/
inductive Announcing (stops : List (StopReason × Option Int)) :
    List Channel.Event → List Monitor.Event → List Notice → Prop where
  | reported (code : Option Int) :
      Announcing stops [.closed code] [] (stops.map (.stopped ·.1))
  | forwarded (code : Option Int) :
      Announcing stops [] [.closed code] (stops.map (.stopped ·.1))
  | heard : Announcing stops [] [] (stops.map (.stopped ·.1) ++ [.ended])

/-- What holds until the program is started. -/
structure Asked (file : String) (lines : List Int) (bs : Breakpoints) (config : Monitor.Config)
    (r : DebugRun) : Prop where
  tasks : ∃ task program, task.errand = .start program false true ∧
    r.control.tasks ++ r.control.queue = [task]
  debuggees : r.control.debuggees = []
  turn : r.control.turn = none
  absent : r.control.present = none
  breakpoints : r.control.breakpoints = bs
  configured : r.control.config = config
  willing : r.control.refusal = none
  notices : r.control.notices = []
  stops : r.stops = []
  answered : r.answered = 0
  interpreter : r.interpreter =
    .start (ScriptedProgram.ofLines file lines).script config.channel.delimiting

/-- What holds while the interpreter is being stopped. -/
structure Leaving (file : String) (lines : List Int) (bs : Breakpoints) (config : Monitor.Config)
    (r : DebugRun) (d : Debuggee) (t : Transit) : Prop where
  debuggees : r.control.debuggees = [d]
  closing : Closing bs lines r
  parting : Parting (.ofLines file lines) config (lines.length + 2) d r.interpreter t
  news : d.news = []
  notices : r.control.notices = r.stops.map (.stopped ·.1)

/-- What holds when the interpreter has been stopped. -/
structure Gone (file : String) (lines : List Int) (bs : Breakpoints) (config : Monitor.Config)
    (r : DebugRun) (d : Debuggee) : Prop where
  debuggees : r.control.debuggees = [d]
  closing : Closing bs lines r
  parted : Parted (.ofLines file lines) config (lines.length + 2) d r.interpreter
  announcing : Announcing r.stops d.reports d.news r.control.notices

/-- What can be said of a run at any time. -/
inductive Situation (file : String) (lines : List Int) (bs : Breakpoints) (config : Monitor.Config)
    (r : DebugRun) : Prop where
  | asked (asked : Asked file lines bs config r)
  | busy {post : Post} {k : Nat} (busy : Busy file lines bs config r post k)
  | leaving {d : Debuggee} {t : Transit} (leaving : Leaving file lines bs config r d t)
  | gone {d : Debuggee} (gone : Gone file lines bs config r d)

/-! ## Stops -/

section

variable {bs : Breakpoints} {lines : List Int} {i : Nat}

theorem stopsBefore_unmarked (unmarked : isVisit (markedLines bs) lines i = false) :
    stopsBefore bs lines (i + 1) = stopsBefore bs lines i := by
  simp [stopsBefore, List.range_succ, List.filter_append, unmarked]

theorem stopsBefore_marked (marked : isVisit (markedLines bs) lines i = true) :
    stopsBefore bs lines (i + 1) = stopsBefore bs lines i ++ [(.breakpoint, some (i : Int))] := by
  simp [stopsBefore, List.range_succ, List.filter_append, marked]

/-- Behind the program there is nothing to stop at. -/
theorem stopsBefore_length (bs : Breakpoints) (lines : List Int) (i : Nat) :
    stopsBefore bs lines (lines.length + i) = stopsBefore bs lines lines.length := by
  induction i with
  | zero => rfl
  | succ i ih =>
      rw [← Nat.add_assoc, stopsBefore_unmarked, ih]
      exact Control.isVisit_outside (Nat.le_add_right ..) _

end

theorem stopsBetween_same {c c' : Control} (notices : c'.notices = c.notices) :
    stopsBetween c c' = [] := by
  rw [stopsBetween, notices, List.drop_length]
  rfl

theorem after_same {r : DebugRun} {c : Control} (notices : c.notices = r.control.notices) :
    r.after c = { r with control := c } := by
  rw [after, stopsBetween_same notices, List.append_nil]

theorem onWay_pos {bs : Breakpoints} {lines : List Int} {k : Nat} {stage : Stage}
    (onWay : OnWay bs lines k stage) : 0 < k := by
  cases onWay <;> exact Nat.succ_pos _

/-! ## The interpreter and its monitor -/

theorem modifyDebuggee_single {c : Control} {d : Debuggee} (debuggees : c.debuggees = [d])
    (f : Debuggee → Debuggee) : c.modifyDebuggee 0 f = { c with debuggees := [f d] } := by
  rw [Control.modifyDebuggee, debuggees]
  rfl

section

variable {file : String} {lines : List Int} {bs : Breakpoints} {config : Monitor.Config}
  {r r' : DebugRun} {d d' : Debuggee} {s' : ScriptedInterpreter} {t t' : Transit}
  {st st' : Standing} {post : Post} {k : Nat}

theorem Rested.moved {issued : Nat} {es : List Monitor.Event} {c : Control}
    (rested : Rested bs lines r d.monitor st issued k) (sent : t.sent = k)
    (moved : Moved d.monitor t st d'.monitor t' st' es) (memory : c.memory = r.control.memory) :
    Rested bs lines { r with control := c, interpreter := s' } d'.monitor st' issued k where
  memory := memory ▸ rested.memory
  stops := rested.stops
  waits := by
    subst sent
    exact moved.waits issued rested.waits

/-- What a monitor and its interpreter do is no concern of execution control. -/
theorem Duty.moved {es : List Monitor.Event} (duty : Duty bs lines r d.monitor st post k)
    (sent : t.sent = k) (moved : Moved d.monitor t st d'.monitor t' st' es) (ds : List Debuggee) :
    Duty bs lines
      { r with control := { r.control with debuggees := ds }, interpreter := s' }
      d'.monitor st' post k := by
  have grows := moved.grows
  cases duty with
  | status turn errand unasked absent rested answered =>
      exact .status turn errand { unasked with } absent (rested.moved sent moved rfl) answered
  | code turn errand unasked present rested refreshed answered =>
      exact .code turn errand { unasked with } present (rested.moved sent moved rfl)
        (refreshed.trans_le grows.refreshed) answered
  | pending turn errand tasks present rested refreshed known answered =>
      exact .pending turn errand tasks present (rested.moved sent moved rfl)
        (refreshed.trans_le grows.refreshed) (grows.codeSettled known) answered
  | driving turn unasked present memory onWay stops waits issued refreshed known answered =>
      subst sent
      exact .driving turn { unasked with } present memory onWay stops (moved.waits _ waits)
        (issued.trans grows.started) (refreshed.trans_le grows.refreshed) (grows.codeSettled known)
        answered
  | stopped turn unasked present rested refreshed known owes =>
      exact .stopped turn { unasked with } present (rested.moved sent moved rfl)
        (refreshed.trans_le grows.refreshed) (grows.codeSettled known) owes
  | finished turn unasked present last stops refreshed reported answered =>
      exact .finished turn { unasked with } present last stops
        (refreshed.trans_le grows.refreshed) (grows.doneReported reported) answered

theorem Attached.moved {es : List Monitor.Event} (attached : Attached file lines bs config r d t st k)
    (live : Live (.ofLines file lines) config d' s' t' st')
    (moved : Moved d.monitor t st d'.monitor t' st' es) (news : d'.news = d.news ++ es) :
    Attached file lines bs config
      { r with control := { r.control with debuggees := [d'] }, interpreter := s' } d' t' st' k where
  debuggees := rfl
  breakpoints := attached.breakpoints
  live := live
  sent := moved.sent.trans attached.sent
  news := by
    have kept := moved.grows.doneReported
    rw [news, attached.news, moved.events]
    cases before : d.monitor.doneReported with
    | false => simp
    | true => simp [kept before]
  notices := attached.notices

theorem busy_after {c : Control} (notices : c.notices = r.control.notices)
    (busy : Busy file lines bs config { r with control := c } post k) :
    Busy file lines bs config (r.after c) post k := by
  rwa [after_same notices]

/-! ## Execution control -/

/-- What a decision about the program is based on shows the step that it has come to. -/
theorem Attached.sees (attached : Attached file lines bs config r d t st k) {issued : Nat}
    (waits : Monitor.Awaits d.monitor st issued k) (refreshed : issued < d.monitor.refreshed)
    (known : d.monitor.codeSettled = true) (plain : bs.instructions = []) {c : Control}
    (breakpoints : c.breakpoints = bs) (now : Millis) :
    Control.Sees file bs lines k (c.view d now) where
  exhibits := (waits.exhibits attached.live.timely refreshed).1
  known := by
    cases attached.live.informed rfl with
    | waiting _ unsettled => cases unsettled.symm.trans known
    | asked _ unsettled _ _ _ _ => cases unsettled.symm.trans known
    | settled _ _ known => exact known
  breakpoints := breakpoints
  plain := plain

theorem Attached.able (attached : Attached file lines bs config r d t st k) (c : Control)
    (now : Millis) : (c.view d now).able = true := by
  obtain ⟨waiter, d', executed⟩ := attached.live.able now
  simp [Control.view, executed]

/-- A decision to go on is carried out. -/
theorem Attached.drive (attached : Attached file lines bs config r d t st k) {c : Control}
    (debuggees : c.debuggees = [d]) (breakpoints : c.breakpoints = bs)
    (notices : c.notices = r.control.notices) (present : c.present = some 0)
    (unasked : Unasked c) (stops : r.stops = stopsBefore bs lines k)
    (answered : r.answered = r.stops.length) (refreshed : 0 < d.monitor.refreshed)
    (known : d.monitor.codeSettled = true) {decision : Decision}
    (onward : Onward bs lines k decision) (now : Millis) (task : Task) :
    ∃ stage waiter, Busy file lines bs config (r.after (c.follow now task 0 d decision))
      (.driving stage waiter) (k + 1) := by
  obtain ⟨waiter, d', executed⟩ := attached.live.able now
  obtain ⟨t', live, sent, monitor, news, waits⟩ := attached.live.execute executed
  obtain ⟨-, -, -, -, -, issued, -⟩ := attached.live.flow.execute attached.live.going executed
  cases onward with
  | @execute stage early onWay =>
      have followed : c.follow now task 0 d
          { memory := heedful, notices := [], next := .execute stage } =
          { c with
            memory := heedful
            debuggees := [d']
            turn := some { task, phase := .driving 0 stage waiter } } := by
        simp only [Control.follow, executed, Control.notify, List.append_nil,
          Control.modifyDebuggee, debuggees]
        rfl
      rw [followed]
      refine ⟨stage, waiter, busy_after notices
        ⟨d', t', st, ⟨rfl, breakpoints, live, ?_, ?_, ?_⟩, ?_⟩⟩
      · rw [sent, attached.sent]
      · rw [news, attached.news, monitor]
      · exact notices.trans attached.notices
      · exact .driving rfl { unasked with } present rfl onWay stops (waits _)
          (by rw [issued, monitor]) (monitor ▸ refreshed) (monitor ▸ known) answered

/-! ## Turns -/

/-- How much is still to be done before the program has been executed. -/
def rank (lines : List Int) : Post → Nat → Nat
  | .status, _ => 4 * (lines.length + 4) + 2
  | .code, _ => 4 * (lines.length + 4) + 1
  | .driving .., k => 4 * (lines.length + 3 - k) + 3
  | .stopped, k => 4 * (lines.length + 3 - k) + 2
  | .pending, k => 4 * (lines.length + 3 - k) + 1
  | .finished, _ => 0

theorem Remembers.inside {m : Memory} (remembers : Remembers bs lines k m) :
    k ≤ lines.length := by
  cases remembers with
  | start => exact Nat.zero_le _
  | stop here _ => exact (List.getElem?_eq_some_iff.mp here).1

theorem Attached.install (attached : Attached file lines bs config r d t st k)
    (duty : Duty bs lines r d.monitor st .status k) (refreshed : 0 < d.monitor.refreshed)
    (now : Millis) :
    ∃ c, r.control.perform? now .advance = some c ∧
      Busy file lines bs config (r.after c) .code 0 := by
  cases duty with
  | @status task program due turn errand unasked absent rested answered =>
      have advanced : r.control.perform? now .advance = some
          { r.control with present := some 0, turn := some { task, phase := .code 0 } } := by
        simp [Control.perform?, Control.advance?, turn, attached.debuggees, refreshed,
          Control.install, errand]
      refine ⟨_, advanced, busy_after rfl ⟨d, t, st, { attached with live := attached.live }, ?_⟩⟩
      exact .code rfl errand { unasked with } rfl ⟨rested.memory, rested.stops, rested.waits⟩
        refreshed answered

theorem Attached.enter (attached : Attached file lines bs config r d t st k)
    (duty : Duty bs lines r d.monitor st .code k) (known : d.monitor.codeSettled = true)
    (now : Millis) :
    ∃ c, r.control.perform? now .advance = some c ∧
      Busy file lines bs config (r.after c) .pending 0 := by
  cases duty with
  | @code task program turn errand unasked present rested refreshed answered =>
      have advanced : r.control.perform? now .advance = some
          { r.control with
            turn := none
            done := r.control.done ++ task.asker.toList
            tasks := [{ errand := .resume }] } := by
        simp [Control.perform?, Control.advance?, turn, attached.debuggees, known,
          Control.enter, errand, Control.finishRunning, Control.finish, unasked.tasks]
      refine ⟨_, advanced, busy_after rfl ⟨d, t, st, { attached with live := attached.live }, ?_⟩⟩
      have tasks : [{ errand := .resume }] ++ r.control.queue = [({ errand := .resume } : Task)] := by
        simp [unasked.queue]
      exact .pending rfl rfl tasks present ⟨rested.memory, rested.stops, rested.waits⟩ refreshed
        known answered

/-- The task to go on gets its turn. -/
theorem Attached.grant (attached : Attached file lines bs config r d t st k)
    (duty : Duty bs lines r d.monitor st .pending k) (plain : bs.instructions = [])
    {task : Task} {queue : List Task} (asked : r.control.queue = task :: queue) (now : Millis) :
    ∃ c stage waiter, r.control.perform? now .grant = some c ∧
      Busy file lines bs config (r.after c) (.driving stage waiter) (k + 1) := by
  cases duty with
  | @pending task' issued k turn errand tasks present rested refreshed known answered =>
      obtain ⟨none_, rfl, rfl⟩ : r.control.tasks = [] ∧ task = task' ∧ queue = [] := by
        rw [asked] at tasks
        simpa using List.append_eq_singleton_iff.mp tasks
      have sees := attached.sees rested.waits refreshed known plain
        (c := { r.control with queue := [] }) attached.breakpoints now
      have able := attached.able { r.control with queue := [] } now
      have onward : Onward bs lines k
          ((Control.view { r.control with queue := [] } d now).lead r.control.memory .run) := by
        have remembers := rested.memory
        generalize r.control.memory = m at remembers ⊢
        cases remembers with
        | start => exact sees.lead able
        | stop here marked => exact sees.resume able here marked
      have found : r.control.debuggees[0]? = some d := by rw [attached.debuggees]; rfl
      have performed : r.control.perform? now .grant =
          some (Control.follow { r.control with queue := [] } now task 0 d
            ((Control.view { r.control with queue := [] } d now).lead r.control.memory .run)) := by
        simp [Control.perform?, turn, asked, Control.begin, errand, Control.pursuePresent, present,
          Control.debuggee?, found, Control.pursue]
      obtain ⟨stage, waiter, busy⟩ := attached.drive (c := { r.control with queue := [] })
        attached.debuggees attached.breakpoints rfl present ⟨none_, rfl⟩ rested.stops answered
        (Nat.zero_lt_of_lt refreshed) known onward now task
      exact ⟨_, stage, waiter, performed, busy⟩

end

end DebugRun

end DebugAdapter
