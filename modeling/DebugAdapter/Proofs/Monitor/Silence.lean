import DebugAdapter.Proofs.Channel.Link
import DebugAdapter.Proofs.Channel.Queue
import DebugAdapter.Proofs.Monitor.Dismissal
/-!
# Interpreters that execute nothing more

An interpreter is spent when its monitor has been disposed of or its channel has found it dead.
Nothing takes that back, and no command to execute an instruction is sent to it any more. Whoever has
heard of the end of an interpreter knows that it is spent.
-/

namespace DebugAdapter

open Channel (Command Effect Input Link Move Occasion RequestError)
open Monitor (Query Waiter)

/-! ## Channels without a child process -/

namespace Channel

variable {ρ : Type}

theorem closeIfDone_hasChild (c : Channel ρ) : c.closeIfDone.1.hasChild = c.hasChild := by
  obtain kept | ⟨code, -, -, -, done⟩ := c.closeIfDone_eq
  · rw [kept]
  · rw [done]

theorem flush_hasChild (c : Channel ρ) (env : Surroundings) :
    (c.flush env).1.hasChild = c.hasChild := by
  simp only [flush]
  split <;> rfl

namespace Occasion

/-- Where there is no process to wait for, the end is reported only of an interpreter that is not
running. -/
theorem childless_step (o : Occasion ρ) (childless : o.before.hasChild = false) :
    o.after.hasChild = false ∧ (o.effects.any Effect.isClosed = true → o.after.isRunning = false) := by
  obtain ⟨c, env, input⟩ := o
  replace childless : c.hasChild = false := childless
  cases live : c.ended with
  | true => simp [after, effects, step, live, childless]
  | false =>
      -- Only the end of the output and a stop report the end, and both take note of it.
      have stopped : (c.shutdown env).1.hasChild = false ∧ (c.shutdown env).1.isRunning = false := by
        rw [shutdown_eq]
        exact ⟨rfl, rfl⟩
      have flushed (c' : Channel ρ) (same : c'.hasChild = false) :
          (c'.flush env).1.hasChild = false ∧
            ((c'.flush env).2.any Effect.isClosed = true → (c'.flush env).1.isRunning = false) := by
        refine ⟨(c'.flush_hasChild env).trans same, fun reported => ?_⟩
        rw [(c'.flush_shows env).2] at reported
        cases reported
      cases input with
      | command command =>
          cases command with
          | send type data reply =>
              simp [after, effects, step, live, Channel.command, enqueue, childless]
          | request asker type data timeout =>
              simp only [after, effects, step, live, Channel.command]
              cases c.closed || !c.isRunning <;> simp [enqueue, childless, Effect.isClosed]
          | stop =>
              simp only [after, effects, step, live, Channel.command, Bool.false_eq_true, if_false]
              exact ⟨stopped.1, fun _ => stopped.2⟩
      | released =>
          simp only [after, effects, step, live, Bool.false_eq_true, if_false]
          exact ⟨stopped.1, fun _ => stopped.2⟩
      | frame f =>
          cases f with
          | error bad => simp [after, effects, step, live, childless, Effect.isClosed]
          | ok m =>
              simp only [after, effects, step, live, dispatch, Bool.false_eq_true, if_false]
              split
              · exact flushed _ childless
              · split
                · simp [childless, Effect.isClosed]
                · split <;> simp [childless, Effect.isClosed]
      | endOfOutput =>
          simp only [after, effects, step, live, endOfOutput, childless, Bool.false_eq_true, if_false]
          refine ⟨closeIfDone_hasChild _, fun _ => ?_⟩
          rw [isRunning, (closeIfDone_queue _).2.2.2.2.1]
          rfl
      | readFailed => simp [after, effects, step, live, childless, Effect.isClosed]
      | exit code =>
          simp only [after, effects, step, live, Channel.exit, Bool.false_eq_true, if_false]
          refine ⟨closeIfDone_hasChild _, fun _ => ?_⟩
          rw [isRunning, (closeIfDone_queue _).2.2.2.2.1]
          cases c.status <;> rfl
      | flush =>
          simp only [after, effects, step, live, Bool.false_eq_true, if_false]
          exact flushed c childless
      | expire => simp [after, effects, step, live, expire, childless, Effect.isClosed]

end Occasion

namespace Link

variable {l l' : Link ρ} {now : Millis} {move : Move} {effects : List (Effect ρ)}

/-- What a move does to the life of the interpreter. -/
theorem childless_perform (h : l.perform? now move = some (l', effects))
    (childless : l.channel.hasChild = false) :
    l'.channel.hasChild = false ∧ (l'.channel.isRunning = true → l.channel.isRunning = true) ∧
      (effects.any Effect.isClosed = true → l'.channel.isRunning = false) := by
  obtain ⟨none_, -⟩ | ⟨l₁, effects₁, performed, moved⟩ := l.perform?_moved now move
  · rw [none_] at h
    cases h
  · cases h.symm.trans performed
    cases moved with
    | heard o left occasion channel _ _ _ _ reported =>
        obtain ⟨before, -, -⟩ := occasion?_eq occasion
        obtain ⟨child, idle⟩ := o.childless_step (before ▸ childless)
        rw [channel, reported, ← before]
        exact ⟨child, o.queueStep.running, idle⟩
    | unheard _ channel _ _ silent =>
        rw [channel, silent]
        exact ⟨childless, id, nofun⟩

theorem commands_step (now : Millis) (input : Input ρ) :
    (l.step now input).1.commands <:+ l.commands := by
  simp only [step]
  split
  · exact List.nil_suffix
  · exact List.suffix_refl _

theorem commands_perform (h : l.perform? now move = some (l', effects)) :
    l'.commands <:+ l.commands := by
  have link {l₁ : Link ρ × List (Effect ρ)} {l₂ : Link ρ} (same : some l₁ = some (l', effects))
      (suffix : l₁.1.commands <:+ l₂.commands) : l'.commands <:+ l₂.commands := by
    cases same
    exact suffix
  cases move with
  | command =>
      simp only [perform?] at h
      split at h
      · cases h
      · split at h
        · rename_i c rest commands
          refine List.IsSuffix.trans
            (link h (commands_step (l := { l with commands := rest }) now (.command c))) ?_
          rw [commands]
          exact List.suffix_cons ..
        · split at h
          · exact link h (commands_step now _)
          · cases h
  | read =>
      simp only [perform?] at h
      split at h
      · cases h
      · split at h
        · split at h
          · cases h
          · exact link h (List.suffix_refl _)
        · exact link h (commands_step (l := { l with intake := _, line := _ }) now _)
        · exact link h (commands_step (l := { l with intake := _, line := _ }) now _)
  | complain =>
      simp only [perform?, complain?] at h
      split at h
      · cases h
      · exact link h (List.suffix_refl _)
  | reap =>
      simp only [perform?] at h
      split at h
      · cases h
      · obtain ⟨code, -, stepped⟩ := Option.map_eq_some_iff.mp h
        exact link (congrArg some stepped) (commands_step now _)
  | flush | expire =>
      simp only [perform?] at h
      split at h
      · split at h
        · exact link h (commands_step now _)
        · cases h
      · cases h

end Link

end Channel

/-! ## Monitors -/

/-- The only news in an answer is that the program has been executed. -/
theorem Monitor.answer_news (m : Monitor) (q : Query) (a : Except RequestError Json) :
    ∀ e ∈ (m.answer q a).2, e = .done := by
  cases q with
  | part tick p =>
      simp only [answer]
      split
      · simp only [conclude]
        split
        · split
          · simp only [noteState]
            split <;> simp
          · simp
        · simp
      · simp
  | debugInfo | code =>
      simp only [answer]
      split <;> simp

theorem Monitor.eventOfChannel?_closed {e : Channel.Event} {code : Option Int}
    (h : Monitor.eventOfChannel? e = some (.closed code)) : e = .closed code := by
  cases e with
  | closed code' => simpa [eventOfChannel?] using h
  | message m =>
      simp only [eventOfChannel?, Option.some.injEq, eventOfMessage] at h
      repeat' split at h
      all_goals cases h
  | spawned | exited | failed | complaint | unreadable => simp [eventOfChannel?] at h

/-! ## Interpreters -/

namespace Debuggee

variable {d d' : Debuggee}

/-- Whether the interpreter is told nothing any more, or has been found dead. -/
def Spent (d : Debuggee) : Prop := d.monitor.disposed = true ∨ d.isRunning = false

theorem Dismissed.spent (dismissed : d.Dismissed) : d.Spent := .inl dismissed.disposed

theorem Spent.execute? (spent : d.Spent) (now : Millis) : d.execute? now = none := by
  obtain disposed | idle := spent
  · simp only [Debuggee.execute?, disposed, Bool.true_or, if_true]
  · simp only [Debuggee.execute?, idle, Bool.not_false, Bool.or_true, if_true]

/-- Whether what is reported of the end is true; there is no process that could outlive its pipes. -/
structure Candid (d : Debuggee) : Prop where
  childless : d.link.channel.hasChild = false
  reports : ∀ code, .closed code ∈ d.reports → d.isRunning = false
  news : ∀ code, .closed code ∈ d.news → d.isRunning = false

theorem candid_start (config : Monitor.Config) (now : Millis) : (start config now).Candid where
  childless := rfl
  reports := by simp [start]
  news := by simp [start]

/-- The commands to execute an instruction that the channel has not looked at yet. -/
def stepOrders (d : Debuggee) : Nat :=
  d.link.commands.countP fun c =>
    match c with
    | .send type _ _ => type == Interpreter.stepCommand
    | .request .. | .stop => false

/-- What happens to an interpreter that nobody drives. -/
structure Wanes (d d' : Debuggee) : Prop where
  candid : d.Candid → d'.Candid
  spent : d.Candid → d.Spent → d'.Spent
  dismissed : d.Dismissed → d'.Dismissed
  stepOrders : d'.stepOrders ≤ d.stepOrders

theorem Wanes.refl (d : Debuggee) : Wanes d d := ⟨id, fun _ => id, id, Nat.le_refl _⟩

theorem Wanes.trans {d₁ d₂ d₃ : Debuggee} (first : Wanes d₁ d₂) (second : Wanes d₂ d₃) :
    Wanes d₁ d₃ where
  candid := second.candid ∘ first.candid
  spent := fun candid spent => second.spent (first.candid candid) (first.spent candid spent)
  dismissed := second.dismissed ∘ first.dismissed
  stepOrders := second.stepOrders.trans first.stepOrders

/-- A change that leaves the channel, the commands and the reports alone. -/
theorem wanes_of_same (channel : d'.link.channel = d.link.channel)
    (commands : d'.link.commands = d.link.commands) (disposed : d'.monitor.disposed = d.monitor.disposed)
    (reports : ∀ code, .closed code ∈ d'.reports → .closed code ∈ d.reports)
    (news : ∀ code, .closed code ∈ d'.news → .closed code ∈ d.news ∨ .closed code ∈ d.reports) :
    Wanes d d' := by
  have running : d'.isRunning = d.isRunning := by rw [isRunning, channel, isRunning]
  refine ⟨fun candid => ⟨?_, ?_, ?_⟩, ?_, ?_, ?_⟩
  · rw [channel]
    exact candid.childless
  · exact fun code reported => running.trans (candid.reports code (reports code reported))
  · intro code heard
    exact running.trans ((news code heard).elim (candid.news code) (candid.reports code))
  · rintro - (gone | idle)
    · exact .inl (disposed.trans gone)
    · exact .inr (running.trans idle)
  · intro dismissed
    refine ⟨disposed.trans dismissed.disposed, ?_⟩
    rw [Channel.Link.Leaving, channel, commands]
    exact dismissed.leaving
  · rw [Debuggee.stepOrders, commands, Debuggee.stepOrders]

/-- A command other than one to execute an instruction. -/
theorem wanes_link {link : Link Query} (channel : link.channel = d.link.channel)
    {c : Command Query} (commands : link.commands = d.link.commands ++ [c])
    (other : ∀ data reply, c ≠ .send Interpreter.stepCommand data reply) :
    Wanes d { d with link } := by
  refine ⟨fun candid => ⟨?_, ?_, ?_⟩, fun _ spent => ?_, fun dismissed => ⟨dismissed.disposed, ?_⟩, ?_⟩
  · rw [channel]
    exact candid.childless
  · simpa only [isRunning, channel] using candid.reports
  · simpa only [isRunning, channel] using candid.news
  · simpa only [Spent, isRunning, channel] using spent
  · rw [Channel.Link.Leaving, channel, commands]
    exact dismissed.leaving.imp_right (List.mem_append_left _)
  · have none_ : [c].countP (fun c =>
        match c with
        | .send type _ _ => type == Interpreter.stepCommand
        | .request .. | .stop => false) = 0 := by
      rw [List.countP_eq_zero]
      intro c' member
      cases List.mem_singleton.mp member
      cases c with
      | send type data reply =>
          simp only [beq_iff_eq]
          rintro rfl
          exact other data reply rfl
      | request | stop => simp
    simp only [Debuggee.stepOrders, commands, List.countP_append, none_, Nat.add_zero, Nat.le_refl]

theorem wanes_ask (d : Debuggee) (q : Query) : Wanes d (d.ask q) := by
  unfold ask Channel.Link.send?
  cases d.link.channel.ended with
  | true => exact wanes_of_same rfl rfl rfl (fun _ => id) fun _ => .inl
  | false => exact wanes_link rfl rfl (by simp)

theorem wanes_askAll (d : Debuggee) (qs : List Query) : Wanes d (d.askAll qs) := by
  induction qs generalizing d with
  | nil => exact .refl d
  | cons q qs ih => exact (d.wanes_ask q).trans (ih (d.ask q))

theorem wanes_send {type : String} {data : Json} (other : type ≠ Interpreter.stepCommand)
    (h : d.send? type data = some d') : Wanes d d' := by
  simp only [send?, Channel.Link.send?] at h
  split at h <;> cases h
  exact wanes_link rfl rfl (by simp [other])

theorem wanes_dispose (d : Debuggee) : Wanes d d.dispose := by
  have stopped : Wanes d { d with link := (d.link.send? .stop).getD d.link } := by
    unfold Channel.Link.send?
    cases d.link.channel.ended with
    | true => exact .refl d
    | false => exact wanes_link rfl rfl (by simp)
  exact { stopped with
    candid := fun candid => { stopped.candid candid with }
    spent := fun _ _ => .inl rfl
    dismissed := fun _ => d.dismissed_dispose }

theorem wanes_hear {e : Monitor.Event} (h : d.hear? = some (e, d')) : Wanes d d' := by
  unfold hear? at h
  split at h <;> cases h
  rename_i news
  refine wanes_of_same rfl rfl rfl (fun _ => id) fun code heard => .inl ?_
  rw [news]
  exact List.mem_cons_of_mem _ heard

theorem wanes_move {l : Link Query} {effects : List (Effect Query)} {now : Millis} {move : Move}
    (h : d.link.perform? now move = some (l, effects)) :
    Wanes d ({ d with link := l }.absorb effects) := by
  refine ⟨fun candid => ?_, fun candid => ?_, fun dismissed => ?_, ?_⟩
  · obtain ⟨childless, running, idle⟩ := Channel.Link.childless_perform h candid.childless
    have still (gone : d.isRunning = false) : l.channel.isRunning = false := by
      rw [← Bool.not_eq_true] at gone ⊢
      exact gone ∘ running
    refine ⟨childless, fun code reported => ?_, fun code heard => still (candid.news code heard)⟩
    obtain before | now_ := List.mem_append.mp reported
    · exact still (candid.reports code before)
    · refine idle (List.any_eq_true.mpr ?_)
      obtain ⟨effect, member, emitted⟩ := List.mem_filterMap.mp now_
      refine ⟨effect, member, ?_⟩
      split at emitted
      · cases emitted
        rfl
      · cases emitted
  · rintro (gone | idle)
    · exact .inl gone
    · obtain ⟨-, running, -⟩ := Channel.Link.childless_perform h candid.childless
      refine .inr ?_
      rw [← Bool.not_eq_true] at idle ⊢
      exact idle ∘ running
  · exact ⟨dismissed.disposed, Channel.Link.leaving_perform dismissed.leaving h⟩
  · exact (Channel.Link.commands_perform h).sublist.countP_le

theorem wanes_perform {now : Millis} {a : Activity} (h : d.perform? now a = some d') :
    Wanes d d' := by
  cases performs h with
  | link moved => exact wanes_move moved
  | @forward e reports waiting =>
      refine wanes_of_same rfl rfl rfl (fun code => ?_) fun code heard => ?_
      · rw [waiting]
        exact List.mem_cons_of_mem _
      · refine (List.mem_append.mp heard).imp_right fun passed => ?_
        rw [waiting, Monitor.eventOfChannel?_closed (Option.mem_toList.mp passed)]
        exact List.mem_cons_self
  | settle =>
      refine wanes_of_same rfl rfl (Monitor.answer_asks ..).disposed (fun _ => id) fun code heard => ?_
      refine .inl ((List.mem_append.mp heard).resolve_right fun settled => ?_)
      cases Monitor.answer_news _ _ _ _ settled
  | poll =>
      have polled : Wanes d { d with
          monitor := (d.monitor.poll now d.status).1
          news := d.news ++ (d.monitor.poll now d.status).2.2 } := by
        refine wanes_of_same rfl rfl (Monitor.poll_knows ..).disposed (fun _ => id) fun code heard => ?_
        refine .inl ((List.mem_append.mp heard).resolve_right fun polled => ?_)
        unfold Monitor.poll at polled
        repeat' split at polled
        all_goals simp at polled
      exact polled.trans (wanes_askAll _ _)
  | fetch =>
      have fetched : Wanes d { d with monitor := (d.monitor.fetchCode d.status).1 } :=
        wanes_of_same rfl rfl (Monitor.fetchCode_knows ..).disposed (fun _ => id) fun _ => .inl
      exact fetched.trans (wanes_askAll _ _)

theorem wanes_outside (d : Debuggee) (line : Framing.Line) (complaints : Framing.Pipe)
    (fate : Option (Option Int)) :
    Wanes d { d with link := { d.link with line, complaints, fate } } :=
  wanes_of_same rfl rfl rfl (fun _ => id) fun _ => .inl

/-- An interpreter is told to execute an instruction. -/
theorem candid_execute {now : Millis} {w : Waiter} (h : d.execute? now = some (w, d'))
    (candid : d.Candid) : d'.Candid := by
  simp only [execute?, send?, Channel.Link.send?] at h
  split at h
  · cases h
  · split at h <;> cases h
    exact { candid with }

end Debuggee

end DebugAdapter
