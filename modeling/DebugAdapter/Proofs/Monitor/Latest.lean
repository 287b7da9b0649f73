import DebugAdapter.Proofs.Monitor.Questions
/-!
# The latest answers

Any number of ticks may be in flight, and the answers to their questions come in any order, cannot be
read, or never come. Still a debuggee shows of the registers, the stack and the call stack the last
that could be read, and the state of the tick that was completed last, be it an older one. The tick
that it counts as its latest is the highest one that was completed, and the end of the program is
reported once, when it is first seen.
-/

namespace DebugAdapter

open Channel (Link RequestError)
open Interpreter (Registers StackDump State)
open Program (Snapshot)

namespace Monitor

/-- A snapshot shows of the program the last answers that could be read, apart from the state. -/
structure Details (log : Log) (s : Snapshot) : Prop where
  registers : (⟨s.basePointer, s.codePointer⟩ : Registers) =
    (log.last? Registers.decoder .registers).getD ⟨-1, -1⟩
  stack : s.stack = (log.last? StackDump.decoder .stack).map (·.stack)
  callStack : s.callStack =
    (log.last? (Decode.list Decode.string) .callStack).map Interpreter.parseCallStack

/-- The state that is shown, and what is kept of the ticks, follow from the ones that were noted. -/
structure Noted (log : Log) (m : Monitor) : Prop where
  state : m.snapshot.state = (log.noted.getLast?.map (·.2)).getD .loading
  refreshed : m.refreshed = (log.noted.map (·.1)).foldl max 0
  doneReported : m.doneReported = log.executed

/-- What is reported when one more question has been settled. -/
def Log.news (log log' : Log) : List Event :=
  if log'.executed && !log.executed then [.done] else []

variable {log : Log}

theorem Details.part {s : Snapshot} (details : Details log s) (tick : Nat) (p : Part)
    (a : Except RequestError Json) :
    Details (log ++ [(.part tick p, a)]) (noteDetail s p a) := by
  obtain ⟨registers, stack, callStack⟩ := details
  cases p with
  | registers =>
      unfold noteDetail
      refine ⟨?_, ?_, ?_⟩
      · rw [log.last?_part]
        cases read? Registers.decoder a with
        | none => exact registers
        | some r => rfl
      · rw [log.last?_other _ a _ (by simp)]
        cases read? Registers.decoder a <;> exact stack
      · rw [log.last?_other _ a _ (by simp)]
        cases read? Registers.decoder a <;> exact callStack
  | stack =>
      unfold noteDetail
      refine ⟨?_, ?_, ?_⟩
      · rw [log.last?_other _ a _ (by simp)]
        cases read? StackDump.decoder a <;> exact registers
      · rw [log.last?_part]
        cases read? StackDump.decoder a with
        | none => exact stack
        | some dump => rfl
      · rw [log.last?_other _ a _ (by simp)]
        cases read? StackDump.decoder a <;> exact callStack
  | callStack =>
      unfold noteDetail
      refine ⟨?_, ?_, ?_⟩
      · rw [log.last?_other _ a _ (by simp)]
        cases read? (Decode.list Decode.string) a <;> exact registers
      · rw [log.last?_other _ a _ (by simp)]
        cases read? (Decode.list Decode.string) a <;> exact stack
      · rw [log.last?_part]
        cases read? (Decode.list Decode.string) a with
        | none => exact callStack
        | some frames => rfl
  | state =>
      refine ⟨?_, ?_, ?_⟩ <;> rw [log.last?_other _ a _ (by simp)]
      · exact registers
      · exact stack
      · exact callStack

theorem Details.other {s : Snapshot} (details : Details log s) {q : Query} (other : q.part? = none)
    (a : Except RequestError Json) : Details (log ++ [(q, a)]) s := by
  have apart (p : Part) (tick : Nat) : q ≠ .part tick p := by
    rintro rfl
    cases other
  constructor <;> rw [log.last?_other _ a _ (apart _)]
  · exact details.registers
  · exact details.stack
  · exact details.callStack

theorem Details.conclude {m : Monitor} (details : Details log m.snapshot) (r : Refresh) :
    Details log (m.conclude r).1.snapshot := by
  obtain ⟨registers, stack, callStack⟩ := details
  unfold Monitor.conclude
  split
  · split <;> exact ⟨registers, stack, callStack⟩
  · exact ⟨registers, stack, callStack⟩

/-- An answer about the compiled code has nothing to do with the ticks. -/
theorem answer_compiler (m : Monitor) {q : Query} (other : q.part? = none)
    (a : Except RequestError Json) :
    ∃ debugInfo code fetch codeSettled, m.answer q a =
      ({ m with snapshot := { m.snapshot with debugInfo, code }, fetch, codeSettled }, []) := by
  cases q with
  | part => cases other
  | debugInfo | code =>
      simp only [answer]
      split
      · unfold noteCode
        split <;> exact ⟨_, _, _, _, rfl⟩
      · exact ⟨_, _, _, _, rfl⟩

/-- An answer is one more of those that are shown. -/
theorem Details.answer {m : Monitor} (details : Details log m.snapshot) (q : Query)
    (a : Except RequestError Json) : Details (log ++ [(q, a)]) (m.answer q a).1.snapshot := by
  have compiler (other : q.part? = none) :
      Details (log ++ [(q, a)]) (m.answer q a).1.snapshot := by
    obtain ⟨debugInfo, code, fetch, codeSettled, same⟩ := m.answer_compiler other a
    obtain ⟨registers, stack, callStack⟩ := details.other other a
    rw [same]
    exact ⟨registers, stack, callStack⟩
  cases q with
  | part tick p =>
      have noted := details.part tick p a
      simp only [Monitor.answer]
      split
      · exact Details.conclude (m := { m with snapshot := noteDetail m.snapshot p a }) noted _
      · exact noted
  | debugInfo | code => exact compiler rfl

/-- No tick is noted. -/
theorem Noted.quiet {m m' : Monitor} (noted : Noted log m) {log' : Log}
    (same : log'.noted = log.noted) (state : m'.snapshot.state = m.snapshot.state)
    (refreshed : m'.refreshed = m.refreshed) (doneReported : m'.doneReported = m.doneReported) :
    Noted log' m' ∧ [] = log.news log' := by
  have executed : log'.executed = log.executed := by rw [Log.executed, same, Log.executed]
  refine ⟨⟨?_, ?_, ?_⟩, ?_⟩
  · rw [state, same, noted.state]
  · rw [refreshed, same, noted.refreshed]
  · rw [doneReported, executed, noted.doneReported]
  · rw [Log.news, executed, Bool.and_not_self]
    rfl

/-- One more tick is noted. -/
theorem Noted.note {m : Monitor} (noted : Noted log m) {log' : Log} {tick : Nat} {state : State}
    (more : log'.noted = log.noted ++ [(tick, state)]) :
    Noted log' (m.noteState tick state).1 ∧ (m.noteState tick state).2 = log.news log' := by
  have executed : log'.executed = (log.executed || state == .codeExecuted) := by
    simp [Log.executed, more]
  have terminal : state.isTerminal = (state == .codeExecuted) := by cases state <;> rfl
  refine ⟨⟨?_, ?_, ?_⟩, ?_⟩
  · rw [more, List.getLast?_concat]
    rfl
  · rw [more, List.map_append, List.foldl_append, ← noted.refreshed]
    rfl
  · rw [executed, ← noted.doneReported, ← terminal]
    change (m.doneReported || state.isTerminal && !m.doneReported) = _
    cases m.doneReported <;> cases state.isTerminal <;> rfl
  · rw [Log.news, executed, ← noted.doneReported, ← terminal]
    change (if state.isTerminal && !m.doneReported then _ else _) = _
    cases m.doneReported <;> cases state.isTerminal <;> rfl

/-- A tick is noted when its last question is settled, if its state could be read. -/
theorem Noted.conclude {m : Monitor} (noted : Noted log m) (tick : Nat) (p : Part)
    (a : Except RequestError Json) :
    Noted (log ++ [(.part tick p, a)])
        (m.conclude (Log.refresh (log ++ [(.part tick p, a)]) tick)).1 ∧
      (m.conclude (Log.refresh (log ++ [(.part tick p, a)]) tick)).2 =
        log.news (log ++ [(.part tick p, a)]) := by
  have more := log.noted_concat (.part tick p) a
  rw [log.completed?_part] at more
  rw [Monitor.conclude, Log.waiting_isEmpty]
  cases whole : Log.completes (log ++ [(.part tick p, a)]) tick with
  | true =>
      rw [whole, if_pos rfl] at more
      rw [if_pos rfl]
      cases read : Log.state? (log ++ [(.part tick p, a)]) tick with
      | none =>
          rw [read, Option.map_none, Option.toList_none, List.append_nil] at more
          simp only [Log.refresh, read]
          exact noted.quiet more rfl rfl rfl
      | some state =>
          rw [read] at more
          simp only [Log.refresh, read]
          exact Noted.note (m := { m with refreshes := m.refreshes.filter (·.tick ≠ tick) })
            ⟨noted.state, noted.refreshed, noted.doneReported⟩ more
  | false =>
      rw [whole, if_neg Bool.false_ne_true, Option.toList_none, List.append_nil] at more
      exact noted.quiet more rfl rfl rfl

theorem conclude_refreshes {m : Monitor} {tick : Nat} {p : Part}
    (fresh : log.settles tick p = false) (a : Except RequestError Json)
    (refreshes : m.refreshes = log.unfinished m.ticksStarted) :
    (m.conclude (Log.refresh (log ++ [(.part tick p, a)]) tick)).1.refreshes =
      Log.unfinished (log ++ [(.part tick p, a)]) m.ticksStarted := by
  rw [Monitor.conclude, Log.waiting_isEmpty]
  cases whole : Log.completes (log ++ [(.part tick p, a)]) tick with
  | true =>
      rw [log.unfinished_complete _ a whole, ← refreshes, if_pos rfl]
      simp only [Log.refresh]
      split <;> rfl
  | false =>
      rw [log.unfinished_settle fresh _ a whole, ← refreshes]
      rfl

/-- What a monitor shows and keeps is what the settled questions say. -/
structure Current (log : Log) (m : Monitor) : Prop where
  details : Details log m.snapshot
  noted : Noted log m
  refreshes : m.refreshes = log.unfinished m.ticksStarted

namespace Current

variable {m : Monitor}

/-- Nothing has been asked yet. -/
theorem start (config : Config) (now : Millis) : Current [] (.start config now) where
  details := by constructor <;> rw [Log.last?_nil] <;> rfl
  noted := ⟨rfl, rfl, rfl⟩
  refreshes := rfl

/-- A question of a tick is settled. -/
theorem part (current : Current log m) {tick : Nat} {p : Part}
    (started : 1 ≤ tick ∧ tick ≤ m.ticksStarted) (fresh : log.settles tick p = false)
    (a : Except RequestError Json) :
    Current (log ++ [(.part tick p, a)]) (m.answer (.part tick p) a).1 ∧
      (m.answer (.part tick p) a).2 = log.news (log ++ [(.part tick p, a)]) := by
  have found := log.find?_unfinished fresh started
  rw [← current.refreshes] at found
  have detail : Noted log { m with snapshot := noteDetail m.snapshot p a } :=
    ⟨(noteDetail_kept ..).1.trans current.noted.state, current.noted.refreshed,
      current.noted.doneReported⟩
  obtain ⟨noted, news⟩ := detail.conclude tick p a
  have details := current.details.answer (.part tick p) a
  simp only [answer, found, log.refresh_settle fresh a] at details ⊢
  refine ⟨⟨details, noted, ?_⟩, news⟩
  rw [(conclude_asks ..).ticksStarted]
  exact conclude_refreshes (m := { m with snapshot := noteDetail m.snapshot p a }) fresh a
    current.refreshes

/-- A question about the compiled code is settled. -/
theorem compiler (current : Current log m) {q : Query} (other : q.part? = none)
    (a : Except RequestError Json) :
    Current (log ++ [(q, a)]) (m.answer q a).1 ∧ (m.answer q a).2 = log.news (log ++ [(q, a)]) := by
  obtain ⟨debugInfo, code, fetch, codeSettled, answered⟩ := answer_compiler m other a
  have same := log.noted_concat q a
  rw [log.completed?_other q a other, Option.toList_none, List.append_nil] at same
  have details := current.details.answer q a
  rw [answered] at details ⊢
  obtain ⟨noted, news⟩ := current.noted.quiet (m := m) same rfl rfl rfl
  refine ⟨⟨details, ⟨noted.state, noted.refreshed, noted.doneReported⟩, ?_⟩, news⟩
  rw [log.unfinished_other q a _ other]
  exact current.refreshes

/-- A question is settled that has not been settled before. -/
theorem answer (current : Current log m) (q : Query) (a : Except RequestError Json)
    (fresh : ∀ tick p, q = .part tick p →
      (1 ≤ tick ∧ tick ≤ m.ticksStarted) ∧ ∀ a', (.part tick p, a') ∉ log) :
    Current (log ++ [(q, a)]) (m.answer q a).1 ∧ (m.answer q a).2 = log.news (log ++ [(q, a)]) := by
  cases q with
  | part tick p =>
      obtain ⟨started, fresh⟩ := fresh tick p rfl
      exact current.part started (log.settles_eq_false fresh) a
  | debugInfo | code => exact current.compiler rfl a

theorem congr (current : Current log m) {m' : Monitor} (alike : Alike m m') : Current log m' := by
  obtain ⟨details, ⟨state, refreshed, doneReported⟩, refreshes⟩ := current
  refine ⟨alike.snapshot ▸ details, ⟨?_, ?_, ?_⟩, ?_⟩
  · rw [alike.snapshot, state]
  · rw [alike.refreshed, refreshed]
  · rw [alike.doneReported, doneReported]
  · rw [alike.refreshes, alike.ticksStarted, refreshes]

/-- A tick begins. -/
theorem begin (current : Current log m) (fresh : ∀ p, log.settles (m.ticksStarted + 1) p = false) :
    Current log { m with
      ticksStarted := m.ticksStarted + 1
      refreshes := m.refreshes ++ [{ tick := m.ticksStarted + 1, waiting := parts }] } where
  details := current.details
  noted := ⟨current.noted.state, current.noted.refreshed, current.noted.doneReported⟩
  refreshes := by
    rw [log.unfinished_succ fresh, ← current.refreshes]

end Current

end Monitor

namespace Debuggee

open Monitor (Current Details Log Noted Query)

/-- What a debuggee shows, whatever has happened. -/
structure Latest (t : History) : Prop where
  /-- Each question of the ticks that have begun has been settled once, or is on its way. -/
  asked : (((settlements t.entries).map (·.1)).filterMap Query.part? ++ t.state.awaitedParts).Perm
    (questions t.state.monitor.ticksStarted)
  details : Details (settlements t.entries) t.state.snapshot
  noted : Noted (settlements t.entries) t.state.monitor
  advancing : ∀ e ∈ t.entries, e.before.monitor.refreshed ≤ e.after.monitor.refreshed
  /-- The end of the program is reported when it is seen for the first time. -/
  first : ∀ front e, front ++ [e] <+: t.entries → e.reported.countP (·.isDone) =
    if Log.executed (settlements (front ++ [e])) && !Log.executed (settlements front) then 1 else 0
  once : (t.entries.flatMap (·.reported)).countP (·.isDone) =
    if Log.executed (settlements t.entries) then 1 else 0

/-- What each happening keeps. -/
structure Upkept (t : History) : Prop extends Latest t, Placed t where
  current : Current (settlements t.entries) t.state.monitor

/-- The latest tick that has been noted never goes back. -/
theorem refreshed_le (e : Entry) (numbered : e.before.link.channel.Numbered) :
    e.before.monitor.refreshed ≤ e.after.monitor.refreshed := by
  cases ticking e numbered with
  | aside _ monitor | begin _ monitor => exact monitor.refreshed.ge
  | settle q a _ monitor =>
      rw [monitor]
      exact (Monitor.answer_grows ..).refreshed

namespace Upkept

variable {t : History}

/-- What an entry means to what is shown and reported. -/
theorem current_next (upkept : Upkept t) (e : Entry) (before : e.before = t.state) :
    Current (settlements (t.entries ++ [e])) e.after.monitor ∧
      e.reported.countP (·.isDone) =
        if Log.executed (settlements (t.entries ++ [e])) && !Log.executed (settlements t.entries)
        then 1 else 0 := by
  have current := upkept.current
  rw [← before] at current
  rw [settlements_append]
  have quiet : (if Log.executed (settlements t.entries) && !Log.executed (settlements t.entries)
      then 1 else 0) = 0 := by
    rw [Bool.and_not_self]
    rfl
  cases ticking e (before ▸ upkept.numbered) with
  | aside settled monitor _ silent =>
      rw [settled, Option.toList_none, List.append_nil, quiet]
      exact ⟨current.congr monitor, List.countP_eq_zero.mpr fun x mem => by simp [silent x mem]⟩
  | begin settled monitor _ silent =>
      rw [settled, Option.toList_none, List.append_nil, quiet, silent]
      refine ⟨(current.begin fun p => Log.settles_eq_false _ fun a mem => ?_).congr monitor, rfl⟩
      have past := (upkept.begun mem).2
      rw [before] at past
      exact Nat.not_succ_le_self _ past
  | settle q a settled monitor _ reported =>
      rw [settled, Option.toList_some, monitor, reported]
      have answered := current.answer q a fun tick p part => by
        subst part
        exact before ▸ upkept.fresh before settled
      refine ⟨answered.1, ?_⟩
      rw [answered.2, Log.news]
      split <;> rfl

theorem next (upkept : Upkept t) (h : Happening) : Upkept (t.next advance h) := by
  let e : Entry := ⟨t.state, h⟩
  obtain ⟨current, reported⟩ := upkept.current_next e rfl
  have placed := upkept.toPlaced.next h
  refine { placed with
    asked := placed.placed
    details := current.details
    noted := current.noted
    current, advancing := ?_, first := ?_, once := ?_ }
  · intro e' mem
    cases List.mem_append.mp mem with
    | inl past => exact upkept.advancing e' past
    | inr now =>
        cases List.mem_singleton.mp now
        exact refreshed_le e upkept.numbered
  · intro front e' part
    cases List.prefix_concat_iff.mp part with
    | inl here =>
        obtain ⟨rfl, same⟩ := List.append_inj' here rfl
        cases List.singleton_inj.mp same
        exact reported
    | inr past => exact upkept.first front e' past
  · change ((t.entries ++ [e]).flatMap (·.reported)).countP _ =
      if Log.executed (settlements (t.entries ++ [e])) then 1 else 0
    rw [List.flatMap_append, List.flatMap_singleton, List.countP_append, upkept.once, reported]
    have kept : Log.executed (settlements t.entries) = true →
        Log.executed (settlements (t.entries ++ [e])) = true := by
      rw [settlements_append]
      cases e.settled? with
      | none => exact (List.append_nil _).symm ▸ id
      | some x => exact Log.executed_concat _ x.1 x.2
    cases before : Log.executed (settlements t.entries) with
    | true => simp [kept before]
    | false => simp

end Upkept

theorem upkept_start (config : Monitor.Config) (now : Millis) (link : Link Query)
    (pending : link.channel.requests.pending = []) (commands : link.commands = []) :
    Upkept { state := { start config now with link } } := by
  have placed := Placed.start config now link pending commands
  have current : Current (settlements []) ({ start config now with link } : Debuggee).monitor :=
    Current.start config now
  refine { placed with
    current
    asked := placed.placed
    details := current.details
    noted := current.noted
    advancing := ?_, first := ?_, once := rfl }
  · intro e mem
    cases mem
  · intro front e part
    exact absurd (List.prefix_nil.mp part) (by simp)

/-- However many ticks are in flight, and in whatever order their questions are answered, or time out,
or are cut off: what is shown of the program is what was read last, its state is that of the tick
completed last, the latest tick never goes back, and the end is reported once, when first seen. -/
theorem run_latest (config : Monitor.Config) (now : Millis) (happenings : List Happening) :
    Latest (Trace.run advance (start config now) happenings) ∧
      Latest (Trace.run advance { start config now with link := .overProcess config.channel }
        happenings) := by
  have latest (link : Link Query) (pending : link.channel.requests.pending = [])
      (commands : link.commands = []) :
      Latest (Trace.run advance { start config now with link } happenings) :=
    (Trace.run_invariant (P := Upkept) advance (upkept_start config now link pending commands)
      (fun _ h upkept => upkept.next h) happenings).toLatest
  exact ⟨latest (.overPipe config.channel) rfl rfl, latest (.overProcess config.channel) rfl rfl⟩

/-- The second of two ticks is completed first: the state of the first one is shown in the end. -/
example :
    let m := ((Monitor.start {} 0).poll 1000 .running).1.poll 2000 .running |>.1
    let answers tick state : Log :=
      Monitor.parts.map fun p => (.part tick p, .ok (.string state))
    let m' := (answers 2 "CallUpdate" ++ answers 1 "CallCodeEntry").foldl
      (fun m x => (m.answer x.1 x.2).1) m
    m'.snapshot.state = .callCodeEntry ∧ m'.refreshed = 2 := by
  decide +kernel

end Debuggee

end DebugAdapter
