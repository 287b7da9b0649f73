import DebugAdapter.Proofs.Control.DebugRun
/-!
# Steps of a debug run

What each step of a run leaves: the task whose turn it is goes on from instruction to instruction,
reports the stops that are due, and comes to the end of the program; the interpreter is then given up,
and the end is reported once.
-/

namespace DebugAdapter

open Control (Decision Errand Memory Notice Onward OnWay Phase Stage StopReason Task Verdict heedful
  isVisit markedLines visits)
open Interpreter (ScriptedInterpreter ScriptedProgram)
open Monitor (InOrder Live Parted Parting Standing Transit)
open Program (Breakpoints)

namespace DebugRun

/-! ## Activities with one interpreter -/

section

variable {c c' : Control} {d : Debuggee} {now : Millis}

theorem perform_debuggee (debuggees : c.debuggees = [d]) {i : Nat} {a : Debuggee.Activity}
    (performed : c.perform? now (.debuggee i a) = some c') :
    ∃ d', d.perform? now a = some d' ∧ c' = { c with debuggees := [d'] } := by
  cases i with
  | succ i => simp [Control.perform?, debuggees] at performed
  | zero =>
      simp only [Control.perform?, debuggees, List.getElem?_cons_zero, Option.bind_eq_bind,
        Option.bind_some, Option.bind_eq_some_iff] at performed
      obtain ⟨d', moved, same⟩ := performed
      refine ⟨d', moved, ?_⟩
      rw [← Option.some.inj same, modifyDebuggee_single debuggees]

theorem perform_hear (debuggees : c.debuggees = [d]) (present : c.present = some 0)
    (performed : c.perform? now .hear = some c') :
    ∃ e news, d.news = e :: news ∧ c' = Control.hear { c with debuggees := [{ d with news }] } e := by
  simp only [Control.perform?, present, debuggees, List.getElem?_cons_zero, Option.bind_eq_bind,
    Option.bind_some, Option.bind_eq_some_iff] at performed
  obtain ⟨⟨e, d'⟩, heard, same⟩ := performed
  simp only [Debuggee.hear?] at heard
  split at heard
  · cases heard
  · rename_i e' news listed
    cases heard
    refine ⟨_, news, listed, ?_⟩
    rw [← Option.some.inj same, modifyDebuggee_single debuggees]

theorem perform_ask {task : Task} (tasks : c.tasks ++ c.queue = [task]) {i : Nat}
    (performed : c.perform? now (.ask i) = some c') :
    c' = { c with tasks := [], queue := [task] } := by
  simp only [Control.perform?, Option.bind_eq_bind, Option.bind_eq_some_iff] at performed
  obtain ⟨asker, found, same⟩ := performed
  obtain ⟨only, none_⟩ | ⟨none_, -⟩ := List.append_eq_singleton_iff.mp tasks |>.symm
  · rw [only] at found same
    cases i with
    | succ i => simp at found
    | zero =>
        cases found
        rw [← Option.some.inj same, none_]
        rfl
  · simp [none_] at found

theorem perform_grant {task : Task} (tasks : c.tasks ++ c.queue = [task])
    (performed : c.perform? now .grant = some c') :
    c.tasks = [] ∧ c.queue = [task] ∧ c' = Control.begin { c with queue := [] } now task := by
  simp only [Control.perform?] at performed
  split at performed
  · rename_i first rest _ queue
    obtain ⟨-, none_⟩ | ⟨none_, only⟩ := List.append_eq_singleton_iff.mp tasks |>.symm
    · rw [none_] at queue
      cases queue
    · cases only.symm.trans queue
      exact ⟨none_, only, (Option.some.inj performed).symm⟩
  · cases performed

theorem queued_or_ask {task : Task} (tasks : c.tasks ++ c.queue = [task]) (now : Millis) :
    c.queue = [task] ∨ c.perform? now (.ask 0) = some { c with tasks := [], queue := [task] } := by
  obtain ⟨only, none_⟩ | ⟨-, only⟩ := List.append_eq_singleton_iff.mp tasks |>.symm
  · refine .inr ?_
    simp [Control.perform?, only, none_]
  · exact .inl only

/-- Nobody asks for a turn when no task is left. -/
theorem Unasked.idle (unasked : Unasked c) (i : Nat) :
    c.perform? now (.ask i) = none ∧ c.perform? now .grant = none := by
  refine ⟨by simp [Control.perform?, unasked.tasks], ?_⟩
  simp only [Control.perform?, unasked.queue]
  cases c.turn <;> rfl

/-- A program is installed when it reports a status, unless the wait has taken too long. -/
theorem advance_status {task : Task} {due : Millis}
    (turn : c.turn = some { task, phase := .status 0 due }) (debuggees : c.debuggees = [d])
    (timely : overdue c now = false) (performed : c.perform? now .advance = some c') :
    0 < d.monitor.refreshed := by
  simp only [overdue, turn, Option.map_some, debuggees, List.getElem?_cons_zero, Option.any_some]
    at timely
  simp only [Control.perform?, Control.advance?, turn, debuggees, List.getElem?_cons_zero,
    Option.bind_eq_bind, Option.bind_some] at performed
  by_cases refreshed : 0 < d.monitor.refreshed
  · exact refreshed
  · simp only [refreshed, decide_false, Bool.not_false, Bool.and_true, decide_eq_false_iff_not]
      at timely
    rw [if_neg refreshed, if_neg timely] at performed
    cases performed

theorem advance_code {task : Task} (turn : c.turn = some { task, phase := .code 0 })
    (debuggees : c.debuggees = [d]) (performed : c.perform? now .advance = some c') :
    d.monitor.codeSettled = true := by
  simp only [Control.perform?, Control.advance?, turn, debuggees, List.getElem?_cons_zero,
    Option.bind_eq_bind, Option.bind_some] at performed
  by_cases known : d.monitor.codeSettled = true
  · exact known
  · rw [if_neg known] at performed
    cases performed

/-- A program goes on when its step shows, unless the wait has taken too long. -/
theorem advance_driving {task : Task} {stage : Stage} {waiter : Monitor.Waiter}
    (turn : c.turn = some { task, phase := .driving 0 stage waiter }) (debuggees : c.debuggees = [d])
    (timely : overdue c now = false) (performed : c.perform? now .advance = some c') :
    d.monitor.hasRefreshed waiter = true ∧
      c' = c.follow now task 0 d ((c.view d now).after c.memory true stage) := by
  simp only [overdue, turn, Option.map_some, debuggees, List.getElem?_cons_zero, Option.any_some]
    at timely
  simp only [Control.perform?, Control.advance?, turn, debuggees, List.getElem?_cons_zero,
    Option.bind_eq_bind, Option.bind_some] at performed
  by_cases refreshed : d.monitor.hasRefreshed waiter = true
  · rw [if_pos refreshed] at performed
    exact ⟨refreshed, (Option.some.inj performed).symm⟩
  · rw [if_neg refreshed] at performed
    simp only [refreshed, Bool.not_false, Bool.and_true, decide_eq_false_iff_not] at timely
    rw [if_neg timely] at performed
    cases performed

end

theorem after_stopped {r : DebugRun} {c : Control} {reason : StopReason}
    (notices : c.notices = r.control.notices ++ [.stopped reason]) :
    r.after c =
      { r with control := c, stops := r.stops ++ [(reason, c.snapshot?.map (·.codePointer))] } := by
  rw [after, stopsBetween, notices, List.drop_left]
  rfl

/-- The end is no stop. -/
theorem after_ended {r : DebugRun} {c : Control} (notices : c.notices = r.control.notices ++ [.ended]) :
    r.after c = { r with control := c } := by
  rw [after, stopsBetween, notices, List.drop_left]
  exact congrArg (fun stops => { r with control := c, stops }) (List.append_nil _)

/-! ## The task that drives the program -/

section

variable {file : String} {lines : List Int} {bs : Breakpoints} {config : Monitor.Config}
  {r r' : DebugRun} {d : Debuggee} {t : Transit} {st : Standing} {post : Post} {k : Nat}

/-- A program that is being driven goes on, stops, or has been executed. -/
theorem Attached.decide (attached : Attached file lines bs config r d t st k) {stage : Stage}
    {waiter : Monitor.Waiter} (duty : Duty bs lines r d.monitor st (.driving stage waiter) k)
    (plain : bs.instructions = []) (shown : d.monitor.hasRefreshed waiter = true) (now : Millis) :
    ∃ c post' k', r.control.perform? now .advance = some c ∧
      Busy file lines bs config (r.after c) post' k' ∧
      rank lines post' k' < rank lines (.driving stage waiter) k := by
  cases duty with
  | @driving task _ _ _ turn unasked present memory onWay stops waits issued refreshed known answered =>
      have late : waiter.issued < d.monitor.refreshed := of_decide_eq_true shown
      have advanced : r.control.perform? now .advance = some (r.control.follow now task 0 d
          ((r.control.view d now).after heedful true stage)) := by
        simp [Control.perform?, Control.advance?, turn, attached.debuggees, shown, memory]
      have sees := attached.sees waits late known plain attached.breakpoints now
      have verdict := sees.after (fun _ => attached.able r.control now) onWay
      have exhibits := sees.exhibits
      generalize (r.control.view d now).after heedful true stage = decision at advanced verdict
      cases verdict with
      | pass onward unmarked =>
          -- The instruction that has just been executed is no visit, so nothing is due for it.
          have early : k < lines.length + 2 := by
            cases onward with
            | execute early _ => exact early
          have before : r.stops = stopsBefore bs lines k := by
            rw [stops, ← stopsBefore_unmarked unmarked, Nat.sub_add_cancel (onWay_pos onWay)]
          obtain ⟨stage', waiter', busy⟩ := attached.drive attached.debuggees attached.breakpoints
            rfl present unasked before answered refreshed known onward now task
          refine ⟨_, _, _, advanced, busy, ?_⟩
          simp only [rank]
          omega
      | @stop i line here arrived marked =>
          subst arrived
          -- The place that is reported is that of the step whose status has been waited for.
          have place : d.monitor.snapshot.codePointer = i := by
            have shows := exhibits.codePointer
            rw [ScriptedProgram.stepAfter_line file here] at shows
            exact shows
          refine ⟨_, .stopped, i + 1, advanced, ?_, ?_⟩
          · rw [after_stopped rfl]
            have snapshot : (r.control.follow now task 0 d
                { memory := Control.stoppedAt line i, notices := [.stopped .breakpoint],
                  next := .finished }).snapshot? = some d.snapshot := by
              simp [Control.follow, Control.finish, Control.notify, Control.snapshot?,
                Control.debuggee?, present, attached.debuggees]
            have stops' : r.stops ++ [(.breakpoint, (some d.snapshot).map (·.codePointer))] =
                stopsBefore bs lines (i + 1) := by
              rw [stopsBefore_marked marked, stops]
              exact congrArg (fun p => _ ++ [(StopReason.breakpoint, some p)]) place
            rw [snapshot]
            refine ⟨d, t, st, { attached with live := attached.live, notices := ?_ }, ?_⟩
            · simp [Control.follow, Control.finish, Control.notify, attached.notices]
            · exact .stopped rfl { unasked with } present ⟨.stop here marked, stops', waits⟩ late
                known (by simp [answered])
          · simp only [rank]
            omega
      | finish last =>
          refine ⟨_, .finished, k, advanced, ?_, ?_⟩
          · have notices : (r.control.follow now task 0 d
                { memory := heedful, notices := [], next := .finished }).notices =
                r.control.notices := List.append_nil _
            have executed : d.monitor.snapshot.state.isTerminal = true := by
              rw [show d.monitor.snapshot.state = _ from exhibits.state, last]
              exact (ScriptedProgram.isTerminal_stepAfter file lines _).mpr (Nat.le_refl _)
            have stops' : r.stops = stopsBefore bs lines k := by
              rw [stops, last]
              exact (stopsBefore_length bs lines 1).trans (stopsBefore_length bs lines 2).symm
            refine busy_after notices
              ⟨d, t, st, { attached with live := attached.live, notices := ?_ }, ?_⟩
            · exact notices.trans attached.notices
            · exact .finished rfl { unasked with } present last stops' refreshed
                (attached.live.announced executed) answered
          · simp only [rank]
            omega

/-- The end of the program is reported only when every instruction has been executed. -/
theorem Attached.ended (attached : Attached file lines bs config r d t st k)
    (duty : Duty bs lines r d.monitor st post k) (reported : d.monitor.doneReported = true) :
    k = lines.length + 2 ∧ 0 < d.monitor.refreshed ∧ Closing bs lines r := by
  obtain ⟨n, before, terminal⟩ := attached.live.finished reported
  have noted := (ScriptedProgram.isTerminal_stepAfter file lines n).mp terminal
  have made := attached.live.noted
  have sent : t.made + Monitor.steps t.orders = k := attached.sent
  have late : lines.length + 2 ≤ k := by omega
  -- Nobody has ordered that many steps but a task that still drives the program, or has just done.
  cases duty with
  | status | code => omega
  | pending _ _ _ _ rested =>
      have inside := rested.memory.inside
      omega
  | stopped _ _ _ rested =>
      have inside := rested.memory.inside
      omega
  | @driving task stage waiter _ turn unasked present memory onWay stops _ _ refreshed _ answered =>
      have last : k = lines.length + 2 := by
        cases onWay with
        | entering => omega
        | crossing before =>
            have inside := (List.getElem?_eq_some_iff.mp before).1
            omega
        | leaving => rfl
        | skipping none_ =>
            rw [none_]
            rfl
      refine ⟨last, refreshed, .inr ⟨task, stage, waiter, k, turn, memory, onWay⟩, unasked, present,
        ?_, answered⟩
      rw [stops, last]
      exact stopsBefore_length bs lines 1
  | finished turn unasked present last stops refreshed _ answered =>
      refine ⟨last, refreshed, .inl turn, unasked, present, ?_, answered⟩
      rw [stops, last]
      exact stopsBefore_length bs lines 2

theorem Closing.moved (closing : Closing bs lines r) (ds : List Debuggee) (s : ScriptedInterpreter)
    (notices : List Notice) :
    Closing bs lines
      { r with control := { r.control with debuggees := ds, notices }, interpreter := s } :=
  { closing with unasked := { closing.unasked with } }

theorem situation_after {c : Control} (notices : c.notices = r.control.notices)
    (situation : Situation file lines bs config { r with control := c }) :
    Situation file lines bs config (r.after c) := by
  rwa [after_same notices]

/-- The interpreter is given up when the end of the program is heard of. -/
theorem Attached.hear (attached : Attached file lines bs config r d t st k)
    (duty : Duty bs lines r d.monitor st post k) (present : r.control.present = some 0)
    {c : Control} {now : Millis} (performed : r.control.perform? now .hear = some c) :
    c.notices = r.control.notices ∧
      ∃ d' t', Leaving file lines bs config { r with control := c } d' t' := by
  obtain ⟨e, news, heard, rfl⟩ := perform_hear attached.debuggees present performed
  -- Nothing but the end of the program is ever heard of while it is being run.
  have listed := attached.news
  rw [heard] at listed
  cases reported : d.monitor.doneReported with
  | false =>
      rw [reported] at listed
      cases listed
  | true =>
      rw [reported] at listed
      cases listed
      obtain ⟨last, refreshed, closing⟩ := attached.ended duty reported
      have parting := (attached.live.hear []).part (ScriptedProgram.isTerminal_stepAfter file lines)
        (attached.sent.trans last) reported refreshed
      have given : Control.hear { r.control with debuggees := [{ d with news := [] }] } .done =
          { r.control with debuggees := [Debuggee.dispose { d with news := [] }] } := by
        simp only [Control.hear, Control.terminate, present]
        rfl
      rw [given]
      exact ⟨rfl, _, _, rfl, closing.moved .., parting, rfl, attached.notices⟩

end

/-! ## Steps -/

section

variable {file : String} {lines : List Int} {bs : Breakpoints} {config : Monitor.Config}
  (fits : (ScriptedProgram.ofLines file lines).Fits)
  (outOfBand : config.channel.delimiting.OutOfBand) (plain : bs.instructions = [])
  {r r' : DebugRun}

include fits

/-- The program is started when it is the task's turn. -/
theorem Asked.launch (asked : Asked file lines bs config r) (queued : r.control.queue ≠ [])
    (now : Millis) :
    ∃ c, r.control.perform? now .grant = some c ∧
      Busy file lines bs config (r.after c) .status 0 := by
  obtain ⟨task, program, errand, tasks⟩ := asked.tasks
  obtain ⟨-, none_⟩ | ⟨none_, only⟩ := List.append_eq_singleton_iff.mp tasks |>.symm
  · exact absurd none_ queued
  · have launched : r.control.perform? now .grant = some { r.control with
        queue := []
        memory := heedful
        launches := r.control.launches ++
          [config.argumentsFor (Path.launched r.control.home program)]
        debuggees := [.start config now]
        turn := some { task, phase := .status 0 (now + config.statusTimeout) } } := by
      simp [Control.perform?, asked.turn, only, Control.begin, errand, Control.launch,
        Control.disposeSession, Control.terminate, asked.absent, asked.willing, asked.debuggees,
        asked.configured, heedful]
    have waits : Monitor.Awaits (Debuggee.start config now).monitor {} 0 0 := by
      intro stage later
      cases later
    refine ⟨_, launched, busy_after rfl ⟨.start config now, {}, {},
      ⟨rfl, asked.breakpoints, ?_, rfl, rfl, ?_⟩,
      .status rfl errand ⟨none_, rfl⟩ asked.absent ⟨.start, asked.stops, waits⟩ ?_⟩⟩
    · rw [asked.interpreter]
      exact Live.start fits config now
    · rw [asked.notices, asked.stops]
      rfl
    · rw [asked.answered, asked.stops]
      rfl

theorem Asked.step (asked : Asked file lines bs config r) (step : Step r r') :
    Situation file lines bs config r' := by
  obtain ⟨task, program, errand, tasks⟩ := asked.tasks
  cases step with
  | serve found => simp [asked.debuggees] at found
  | resume owed => simp [asked.stops] at owed
  | @activity c now a admitted performed =>
      cases a with
      | debuggee i a => simp [Control.perform?, asked.debuggees] at performed
      | hear => simp [Control.perform?, asked.absent] at performed
      | advance => simp [Control.perform?, Control.advance?, asked.turn] at performed
      | ask i =>
          obtain rfl := perform_ask tasks performed
          exact situation_after rfl (.asked { asked with
            tasks := ⟨task, program, errand, List.nil_append _⟩ })
      | grant =>
          obtain ⟨-, only, -⟩ := perform_grant tasks performed
          obtain ⟨c', launched, busy⟩ := asked.launch fits (by simp [only]) now
          cases launched.symm.trans performed
          exact .busy busy

include outOfBand plain

theorem Busy.step {post : Post} {k : Nat} (busy : Busy file lines bs config r post k)
    (step : Step r r') : Situation file lines bs config r' := by
  obtain ⟨d, t, st, attached, duty⟩ := busy
  cases step with
  | @serve d' s line found read =>
      obtain rfl : d = d' := by simpa [attached.debuggees] using found
      obtain ⟨t', st', live, moved⟩ := attached.live.serve fits outOfBand read
      rw [modifyDebuggee_single attached.debuggees]
      exact .busy ⟨_, t', st', attached.moved live moved (List.append_nil _).symm,
        duty.moved attached.sent moved _⟩
  | @resume asker owed =>
      cases duty with
      | status _ _ _ _ _ answered | code _ _ _ _ _ _ answered | pending _ _ _ _ _ _ _ answered
      | driving _ _ _ _ _ _ _ _ _ _ answered | finished _ _ _ _ _ _ _ answered =>
          exact absurd answered (Nat.ne_of_lt owed)
      | stopped turn unasked present rested refreshed known owes =>
          have only : (r.control.tasks ++ [{ errand := .resume, asker }]) ++ r.control.queue =
              [({ errand := .resume, asker } : Control.Task)] := by
            simp [unasked.tasks, unasked.queue]
          exact .busy ⟨d, t, st, { attached with live := attached.live },
            .pending turn (by rfl) only present { rested with } refreshed known owes⟩
  | @activity c now a admitted performed =>
      cases a with
      | debuggee i a =>
          obtain ⟨d', moved, rfl⟩ := perform_debuggee attached.debuggees performed
          obtain ⟨t', st', es, live, moved, news⟩ := attached.live.perform fits outOfBand admitted moved
          exact situation_after rfl (.busy ⟨d', t', st', attached.moved live moved news,
            duty.moved attached.sent moved _⟩)
      | hear =>
          by_cases present : r.control.present = some 0
          · obtain ⟨notices, d', t', leaving⟩ := attached.hear duty present performed
            exact situation_after notices (.leaving leaving)
          · cases duty with
            | status _ _ _ absent => simp [Control.perform?, absent] at performed
            | code | pending | driving | stopped | finished => exact absurd ‹_› present
      | ask i =>
          cases duty with
          | pending turn errand tasks present rested refreshed known answered =>
              obtain rfl := perform_ask tasks performed
              exact situation_after rfl (.busy ⟨d, t, st, { attached with live := attached.live },
                .pending turn errand (List.nil_append _) present { rested with } refreshed known
                  answered⟩)
          | status _ _ unasked | code _ _ unasked | driving _ unasked | stopped _ unasked
          | finished _ unasked => cases (unasked.idle i).1.symm.trans performed
      | grant =>
          cases duty with
          | @pending task issued k turn errand tasks present rested refreshed known answered =>
              obtain ⟨none_, only, -⟩ := perform_grant tasks performed
              obtain ⟨c', stage, waiter, granted, busy⟩ := attached.grant
                (.pending turn errand tasks present rested refreshed known answered) plain only now
              cases granted.symm.trans performed
              exact .busy busy
          | status _ _ unasked | code _ _ unasked | driving _ unasked | stopped _ unasked
          | finished _ unasked => cases (unasked.idle 0).2.symm.trans performed
      | advance =>
          cases duty with
          | @status task program due turn errand unasked absent rested answered =>
              obtain ⟨c', installed, busy⟩ := attached.install
                (.status turn errand unasked absent rested answered)
                (advance_status turn attached.debuggees admitted performed) now
              cases installed.symm.trans performed
              exact .busy busy
          | @code task program turn errand unasked present rested refreshed answered =>
              obtain ⟨c', entered, busy⟩ := attached.enter
                (.code turn errand unasked present rested refreshed answered)
                (advance_code turn attached.debuggees performed) now
              cases entered.symm.trans performed
              exact .busy busy
          | @driving task stage waiter k turn unasked present memory onWay stops waits issued
              refreshed known answered =>
              obtain ⟨shown, -⟩ := advance_driving turn attached.debuggees admitted performed
              obtain ⟨c', post', k', decided, busy, -⟩ := attached.decide
                (.driving turn unasked present memory onWay stops waits issued refreshed known
                  answered) plain shown now
              cases decided.symm.trans performed
              exact .busy busy
          | pending turn | stopped turn | finished turn =>
              simp [Control.perform?, Control.advance?, turn] at performed

omit fits outOfBand plain

/-- A task that still drives the program sees that it has been executed. -/
theorem Closing.advance (closing : Closing bs lines r) {d : Debuggee}
    (debuggees : r.control.debuggees = [d]) (executed : d.monitor.snapshot.state = .codeExecuted)
    {c : Control} {now : Millis} (timely : overdue r.control now = false)
    (performed : r.control.perform? now .advance = some c) :
    Closing bs lines { r with control := c } ∧ c.debuggees = [d] ∧
      c.notices = r.control.notices := by
  obtain none_ | ⟨task, stage, waiter, k, turn, memory, onWay⟩ := closing.turn
  · simp [Control.perform?, Control.advance?, none_] at performed
  · obtain ⟨-, rfl⟩ := advance_driving turn debuggees timely performed
    have seen : (r.control.view d now).snapshot.state = .codeExecuted := executed
    rw [memory, Control.after_executed seen onWay]
    exact ⟨{ closing with turn := .inl rfl, unasked := { closing.unasked with } }, debuggees,
      List.append_nil _⟩

theorem Closing.unowed (closing : Closing bs lines r) : ¬ r.answered < r.stops.length :=
  Nat.not_lt_of_le (Nat.le_of_eq closing.answered.symm)

include fits outOfBand

theorem Leaving.step {d : Debuggee} {t : Transit} (leaving : Leaving file lines bs config r d t)
    (step : Step r r') : Situation file lines bs config r' := by
  obtain ⟨debuggees, closing, parting, news, notices⟩ := leaving
  have final := ScriptedProgram.isTerminal_stepAfter file lines
  cases step with
  | resume owed => exact absurd owed closing.unowed
  | @serve d' s line found read =>
      obtain rfl : d = d' := by simpa [debuggees] using found
      obtain ⟨t', parting'⟩ := parting.serve final fits outOfBand read
      rw [modifyDebuggee_single debuggees]
      exact .leaving ⟨rfl, closing.moved .., parting', news, notices⟩
  | @activity c now a admitted performed =>
      cases a with
      | debuggee i a =>
          obtain ⟨d', moved, rfl⟩ := perform_debuggee debuggees performed
          obtain ⟨same, ⟨t', parting'⟩ | ⟨code, reports, parted⟩⟩ :=
            parting.perform final outOfBand admitted moved
          · exact situation_after rfl
              (.leaving ⟨rfl, closing.moved .., parting', same.trans news, notices⟩)
          · have announcing : Announcing r.stops d'.reports d'.news r.control.notices := by
              rw [reports, same, news, notices]
              exact .reported code
            exact situation_after rfl (.gone ⟨rfl, closing.moved .., parted, announcing⟩)
      | hear =>
          obtain ⟨e, rest, heard, -⟩ := perform_hear debuggees closing.present performed
          cases news.symm.trans heard
      | ask i => cases (closing.unasked.idle i).1.symm.trans performed
      | grant => cases (closing.unasked.idle 0).2.symm.trans performed
      | advance =>
          obtain ⟨closing', kept, same⟩ :=
            closing.advance debuggees parting.concluded.executed admitted performed
          exact situation_after same
            (.leaving ⟨kept, closing', parting, news, same.trans notices⟩)

omit fits outOfBand

theorem Gone.forward {d : Debuggee} (gone : Gone file lines bs config r d) {d' : Debuggee}
    {now : Millis} {a : Debuggee.Activity} (performed : d.perform? now a = some d') :
    Gone file lines bs config { r with control := { r.control with debuggees := [d'] } } d' := by
  obtain ⟨debuggees, closing, parted, announcing⟩ := gone
  obtain ⟨parted', ⟨reports, news⟩ | ⟨e, reports, news⟩⟩ := parted.perform performed
  · refine ⟨rfl, closing.moved .., parted', ?_⟩
    rw [reports, news]
    exact announcing
  · refine ⟨rfl, closing.moved .., parted', ?_⟩
    rw [reports] at announcing
    rw [news]
    generalize d'.reports = rest at announcing ⊢
    generalize d.news = news at announcing ⊢
    change Announcing r.stops rest _ r.control.notices
    generalize r.control.notices = notices at announcing ⊢
    cases announcing
    exact .forwarded _

theorem Gone.hear {d : Debuggee} (gone : Gone file lines bs config r d) {c : Control} {now : Millis}
    (performed : r.control.perform? now .hear = some c) :
    c.notices = r.control.notices ++ [.ended] ∧
      ∃ d', Gone file lines bs config { r with control := c } d' := by
  obtain ⟨debuggees, closing, parted, announcing⟩ := gone
  obtain ⟨e, rest, heard, rfl⟩ := perform_hear debuggees closing.present performed
  obtain ⟨code, rfl, rfl, reports, notices⟩ : ∃ code, e = .closed code ∧ rest = [] ∧
      d.reports = [] ∧ r.control.notices = r.stops.map (.stopped ·.1) := by
    rw [heard] at announcing
    generalize d.reports = reports at announcing ⊢
    generalize r.control.notices = notices at announcing ⊢
    cases announcing with
    | forwarded code => exact ⟨code, rfl, rfl, rfl, rfl⟩
  have announcing' : Announcing r.stops d.reports [] (r.control.notices ++ [.ended]) := by
    rw [reports, notices]
    exact .heard
  exact ⟨rfl, _, rfl, closing.moved .., { parted with }, announcing'⟩

theorem Gone.step {d : Debuggee} (gone : Gone file lines bs config r d) (step : Step r r') :
    Situation file lines bs config r' := by
  cases step with
  | resume owed => exact absurd owed gone.closing.unowed
  | @serve d' s line found read =>
      obtain rfl : d = d' := by simpa [gone.debuggees] using found
      rw [modifyDebuggee_single gone.debuggees]
      exact .gone ⟨rfl, gone.closing.moved .., gone.parted.serve read, gone.announcing⟩
  | @activity c now a admitted performed =>
      cases a with
      | debuggee i a =>
          obtain ⟨d', moved, rfl⟩ := perform_debuggee gone.debuggees performed
          exact situation_after rfl (.gone (gone.forward moved))
      | hear =>
          obtain ⟨notices, d', heard⟩ := gone.hear performed
          rw [after_ended notices]
          exact .gone heard
      | ask i => cases (gone.closing.unasked.idle i).1.symm.trans performed
      | grant => cases (gone.closing.unasked.idle 0).2.symm.trans performed
      | advance =>
          obtain ⟨closing, kept, same⟩ := gone.closing.advance gone.debuggees
            gone.parted.concluded.executed admitted performed
          have announcing : Announcing r.stops d.reports d.news c.notices :=
            same ▸ gone.announcing
          exact situation_after same (.gone ⟨kept, closing, gone.parted, announcing⟩)

include fits outOfBand plain

/-- What can be said of a run at any time is kept by each step. -/
theorem Situation.step (situation : Situation file lines bs config r) (step : Step r r') :
    Situation file lines bs config r' := by
  cases situation with
  | asked asked => exact asked.step fits step
  | busy busy => exact busy.step fits outOfBand plain step
  | leaving leaving => exact leaving.step fits outOfBand step
  | gone gone => exact gone.step step

theorem situation_run (home program : String) (asker : Option Nat)
    (reached : Relation.ReflTransGen Step
      (start config home bs program asker (.ofLines file lines)) r) :
    Situation file lines bs config r := by
  induction reached with
  | refl =>
      exact .asked ⟨⟨_, program, rfl, rfl⟩, rfl, rfl, rfl, rfl, rfl, rfl, rfl, rfl, rfl, rfl⟩
  | tail _ step ih => exact ih.step fits outOfBand plain step

end

end DebugRun

end DebugAdapter
