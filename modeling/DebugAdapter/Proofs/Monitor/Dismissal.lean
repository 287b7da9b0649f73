import DebugAdapter.Monitor.Debuggee
/-!
# Dismissed interpreters

An interpreter is dismissed when its monitor has stopped asking and its channel has ended or will end
when it comes to the command to stop. Nothing takes that back.
-/

namespace DebugAdapter

open Channel (Command Input Link Move Effect RequestError)
open Monitor (Query)

namespace Channel.Link

variable {ρ : Type} {l l' : Link ρ} {effects : List (Effect ρ)}

/-- Whether the channel has ended or is going to. -/
def Leaving (l : Link ρ) : Prop := l.channel.ended = true ∨ Command.stop ∈ l.commands

theorem leaving_send (leaving : l.Leaving) (c : Command ρ) : ((l.send? c).getD l).Leaving := by
  cases ended : l.channel.ended with
  | true => exact .inl (by simp [send?, ended])
  | false =>
      obtain gone | waits := leaving
      · exact absurd gone (by simp [ended])
      · exact .inr (by simp [send?, ended, waits])

theorem leaving_send_stop (l : Link ρ) : ((l.send? .stop).getD l).Leaving := by
  cases ended : l.channel.ended with
  | true => exact .inl (by simp [send?, ended])
  | false => exact .inr (by simp [send?, ended])

theorem leaving_step {now : Millis} {input : Input ρ} (waits : Command.stop ∈ l.commands)
    (h : l.step now input = (l', effects)) : l'.Leaving := by
  rw [show l' = (l.step now input).1 by rw [h]]
  cases ended : (l.channel.step (l.surroundings now) input).1.ended with
  | true => exact .inl ended
  | false =>
      refine .inr ?_
      have commands : (l.step now input).1.commands = l.commands := by
        simp only [step, ended, Bool.false_eq_true, if_false]
      rwa [commands]

theorem leaving_stop {now : Millis} (live : l.channel.ended = false) :
    (l.step now (.command .stop)).1.Leaving := by
  refine .inl ?_
  simp only [step, Channel.step, live, Bool.false_eq_true, if_false, Channel.command,
    Channel.shutdown]

theorem leaving_command {now : Millis} (live : l.channel.ended = false)
    (waits : Command.stop ∈ l.commands) (h : l.perform? now .command = some (l', effects)) :
    l'.Leaving := by
  simp only [perform?, live, Bool.false_eq_true, if_false] at h
  split at h
  · rename_i c rest commands
    rw [commands, List.mem_cons] at waits
    cases h
    obtain rfl | later := waits
    · exact leaving_stop (l := { l with commands := rest }) live
    · exact leaving_step (l := { l with commands := rest }) later (Prod.eta _).symm
  · rename_i none_
    rw [none_] at waits
    cases waits

/-- No move keeps a channel from ending. -/
theorem leaving_perform {now : Millis} {move : Move} (leaving : l.Leaving)
    (h : l.perform? now move = some (l', effects)) : l'.Leaving := by
  cases ended : l.channel.ended with
  | true =>
      cases move with
      | complain =>
          simp only [perform?, complain?] at h
          split at h <;> cases h
          exact .inl ended
      | command | read | reap => simp [perform?, ended] at h
      | flush | expire =>
          simp only [perform?, ended] at h
          split at h <;> simp at h
  | false =>
      have waits : Command.stop ∈ l.commands := leaving.resolve_left (by simp [ended])
      cases move with
      | command => exact leaving_command ended waits h
      | read =>
          simp only [perform?] at h
          split at h
          · cases h
          · split at h
            · split at h <;> cases h
              exact .inr waits
            · refine leaving_step ?_ (Option.some.inj h)
              exact waits
            · refine leaving_step ?_ (Option.some.inj h)
              exact waits
      | complain =>
          simp only [perform?, complain?] at h
          split at h <;> cases h
          exact .inr waits
      | reap =>
          simp only [perform?] at h
          split at h
          · cases h
          · obtain ⟨code, -, step⟩ := Option.map_eq_some_iff.mp h
            exact leaving_step waits step
      | flush | expire =>
          simp only [perform?] at h
          split at h
          · split at h
            · exact leaving_step waits (Option.some.inj h)
            · cases h
          · cases h

end Channel.Link

namespace Monitor

/-- What no question touches in a monitor: what it shows, the latest tick that was noted, and whether
it still asks. -/
structure Knows (m m' : Monitor) : Prop where
  snapshot : m'.snapshot = m.snapshot
  refreshed : m'.refreshed = m.refreshed
  disposed : m'.disposed = m.disposed

theorem poll_knows (m : Monitor) (now : Millis) (status : Channel.Status) :
    Knows m (m.poll now status).1 := by
  unfold poll
  split
  · exact ⟨rfl, rfl, rfl⟩
  · split <;> exact ⟨rfl, rfl, rfl⟩

theorem fetchCode_knows (m : Monitor) (status : Channel.Status) :
    Knows m (m.fetchCode status).1 := by
  unfold fetchCode
  split <;> exact ⟨rfl, rfl, rfl⟩

/-- What no answer touches in a monitor: whether it still asks, and how often it has asked. -/
structure Asks (m m' : Monitor) : Prop where
  disposed : m'.disposed = m.disposed
  ticksStarted : m'.ticksStarted = m.ticksStarted

theorem conclude_asks (m : Monitor) (r : Refresh) : Asks m (m.conclude r).1 := by
  unfold conclude
  split
  · cases r.state <;> exact ⟨rfl, rfl⟩
  · exact ⟨rfl, rfl⟩

theorem noteCode_asks (m : Monitor) (info : Option (Option (List Interpreter.DebugInfo)))
    (code : Option (Option (List Interpreter.Instruction))) : Asks m (m.noteCode info code) := by
  cases info <;> cases code <;> exact ⟨rfl, rfl⟩

theorem answer_asks (m : Monitor) (q : Query) (a : Except RequestError Json) :
    Asks m (m.answer q a).1 := by
  cases q with
  | part tick p =>
      simp only [answer]
      split
      · have concluded := conclude_asks { m with snapshot := noteDetail m.snapshot p a }
        exact ⟨(concluded _).disposed, (concluded _).ticksStarted⟩
      · exact ⟨rfl, rfl⟩
  | debugInfo | code =>
      simp only [answer]
      split
      · exact noteCode_asks ..
      · exact ⟨rfl, rfl⟩

end Monitor

namespace Debuggee

variable {d d' : Debuggee}

/-- What an activity does. -/
inductive Performs (d : Debuggee) (now : Millis) : Activity → Debuggee → Prop where
  | link {move : Move} {l : Link Query} {effects : List (Effect Query)}
      (moved : d.link.perform? now move = some (l, effects)) :
      Performs d now (.link move) ({ d with link := l }.absorb effects)
  | forward {e : Channel.Event} {reports : List Channel.Event} (waiting : d.reports = e :: reports) :
      Performs d now .forward
        { d with reports, news := d.news ++ (Monitor.eventOfChannel? e).toList }
  | settle {i : Nat} {q : Query} {a : Except RequestError Json}
      (answered : d.answers[i]? = some (q, a)) :
      Performs d now (.settle i)
        { d with
          monitor := (d.monitor.answer q a).1
          answers := d.answers.eraseIdx i
          news := d.news ++ (d.monitor.answer q a).2 }
  | poll {due : Millis} (scheduled : d.monitor.nextPoll = some due) (come : due ≤ now) :
      Performs d now .poll
        ({ d with
          monitor := (d.monitor.poll now d.status).1
          news := d.news ++ (d.monitor.poll now d.status).2.2 }.askAll
            (d.monitor.poll now d.status).2.1)
  | fetch {due : Millis} (waiting : d.monitor.fetch = .waiting due) (come : due ≤ now) :
      Performs d now .fetch
        ({ d with monitor := (d.monitor.fetchCode d.status).1 }.askAll
          (d.monitor.fetchCode d.status).2)

theorem performs {now : Millis} {a : Activity} (h : d.perform? now a = some d') :
    Performs d now a d' := by
  cases a with
  | link move =>
      obtain ⟨⟨l, effects⟩, moved, rfl⟩ := Option.map_eq_some_iff.mp h
      exact .link moved
  | forward =>
      simp only [perform?] at h
      split at h <;> cases h
      exact .forward ‹_›
  | settle i =>
      simp only [perform?] at h
      split at h <;> cases h
      exact .settle ‹_›
  | poll =>
      simp only [perform?] at h
      split at h
      · split at h <;> cases h
        exact .poll ‹_› ‹_›
      · cases h
  | fetch =>
      simp only [perform?] at h
      split at h
      · split at h <;> cases h
        exact .fetch ‹_› ‹_›
      · cases h

/-- Whether nobody asks the interpreter any more and its channel has ended or is going to. -/
structure Dismissed (d : Debuggee) : Prop where
  disposed : d.monitor.disposed = true
  leaving : d.link.Leaving

theorem dismissed_dispose (d : Debuggee) : d.dispose.Dismissed :=
  ⟨rfl, d.link.leaving_send_stop⟩

theorem dismissed_ask (dismissed : d.Dismissed) (q : Query) : (d.ask q).Dismissed := by
  have leaving := Channel.Link.leaving_send dismissed.leaving
    (.request q q.type .null (some (d.monitor.patience q)))
  unfold ask
  split
  · rename_i link sent
    rw [sent] at leaving
    exact ⟨dismissed.disposed, leaving⟩
  · exact ⟨dismissed.disposed, dismissed.leaving⟩

theorem dismissed_askAll (dismissed : d.Dismissed) (qs : List Query) : (d.askAll qs).Dismissed := by
  induction qs generalizing d with
  | nil => exact dismissed
  | cons q qs ih => exact ih (dismissed_ask dismissed q)

theorem dismissed_send (dismissed : d.Dismissed) (type : String) (data : Json)
    (h : d.send? type data = some d') : d'.Dismissed := by
  obtain ⟨link, sent, rfl⟩ := Option.map_eq_some_iff.mp h
  have leaving := Channel.Link.leaving_send dismissed.leaving (.send type data none)
  rw [sent] at leaving
  exact ⟨dismissed.disposed, leaving⟩

theorem dismissed_hear {e : Monitor.Event} (dismissed : d.Dismissed) (h : d.hear? = some (e, d')) :
    d'.Dismissed := by
  unfold hear? at h
  split at h <;> cases h
  exact ⟨dismissed.disposed, dismissed.leaving⟩

/-- A dismissed interpreter stays dismissed. -/
theorem dismissed_perform (now : Millis) (a : Activity) (dismissed : d.Dismissed)
    (h : d.perform? now a = some d') : d'.Dismissed := by
  cases performs h with
  | link moved =>
      exact ⟨dismissed.disposed, Channel.Link.leaving_perform dismissed.leaving moved⟩
  | forward => exact ⟨dismissed.disposed, dismissed.leaving⟩
  | settle =>
      exact ⟨(Monitor.answer_asks ..).disposed.trans dismissed.disposed, dismissed.leaving⟩
  | poll =>
      apply dismissed_askAll
      exact ⟨(Monitor.poll_knows ..).disposed.trans dismissed.disposed, dismissed.leaving⟩
  | fetch =>
      apply dismissed_askAll
      exact ⟨(Monitor.fetchCode_knows ..).disposed.trans dismissed.disposed, dismissed.leaving⟩

/-- A dismissed interpreter executes nothing. -/
theorem execute?_dismissed (now : Millis) (dismissed : d.Dismissed) : d.execute? now = none := by
  simp only [execute?, dismissed.disposed, Bool.true_or, if_true]

end Debuggee

end DebugAdapter
