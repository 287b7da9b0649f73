import DebugAdapter.Proofs.Channel.Finality
import DebugAdapter.Proofs.Framing.Exhaustion
import DebugAdapter.Proofs.Monitor.Silence
/-!
# What is to be heard of an interpreter

What the channel to an interpreter reports waits in one queue and then in another until it is heard.
Nothing is lost or overtaken on the way. The end is reported once, and it is reported for certain if
the channel has been told to stop, or if nobody writes to it any more.
-/

namespace DebugAdapter

open Channel (Command Effect Input Link Move Numbered Occasion)
open Monitor (Event Query Waiter)

/-! ## Queues -/

section

variable {α : Type} {p : α → Bool} {a : α} {as as' : List α}

theorem findIdx_cons_lt (other : p a = false) : as.findIdx p < (a :: as).findIdx p := by
  simp [List.findIdx_cons, other]

theorem findIdx_of_part (part : as <+: as') (waits : ∃ a ∈ as, p a = true) :
    as'.findIdx p = as.findIdx p :=
  part.findIdx_eq_of_findIdx_lt_length (List.findIdx_lt_length_of_exists waits)

/-- An element of two lists in a row stands in the first one or in the second one. -/
theorem split_append {bs front back : List α} (split : as ++ bs = front ++ a :: back) :
    (∃ rest, as = front ++ a :: rest ∧ back = rest ++ bs) ∨
      ∃ more, front = as ++ more ∧ bs = more ++ a :: back := by
  obtain ⟨more, before, later⟩ | ⟨rest, before, later⟩ := List.append_eq_append_iff.mp split
  · exact .inr ⟨more, before, later⟩
  · cases rest with
    | nil => exact .inr ⟨[], by simpa using before.symm, later.symm⟩
    | cons x rest =>
        obtain ⟨rfl, rfl⟩ := List.cons.inj (later.trans List.cons_append)
        exact .inl ⟨rest, before, rfl⟩

theorem exists_of_part (part : as <+: as') (waits : ∃ a ∈ as, p a = true) :
    ∃ a ∈ as', p a = true := by
  obtain ⟨a, member, holds⟩ := waits
  exact ⟨a, part.subset member, holds⟩

end

/-! ## Channels -/

namespace Channel

variable {ρ : Type}

namespace Occasion

variable {o : Occasion ρ} (live : o.before.ended = false)
include live

theorem countP_closed (consistent : Consistent o.before) (possible : o.Possible) :
    o.events.countP Channel.Event.isClosed + o.before.closed.toNat = o.after.closed.toNat := by
  cases closed : o.before.closed with
  | true =>
      rw [(silent_of_closed live consistent possible closed).1, o.closed_of_closed live closed]
      rfl
  | false =>
      obtain ⟨open_, none_⟩ | ⟨ends, -, front, code, events, none_, -⟩ :=
        closing live consistent closed
      · have zero : o.events.countP Channel.Event.isClosed = 0 :=
          List.countP_eq_zero.mpr fun e member => by simp [none_ e member]
        rw [zero, open_, Nat.zero_add]
      · have zero : front.countP Channel.Event.isClosed = 0 :=
          List.countP_eq_zero.mpr fun e member => by simp [none_ e member]
        rw [events, List.countP_append, zero, ends]
        rfl

/-- Where there is no process, the end of the output closes the channel. -/
theorem closed_of_endOfOutput (consistent : Consistent o.before)
    (childless : o.before.hasChild = false) (ends : o.input = .endOfOutput) :
    o.after.closed = true := by
  obtain ⟨c, env, input⟩ := o
  cases ends
  have waitsNot : c.exitCode ≠ none := fun none_ =>
    absurd (consistent.child.mpr none_) (by simp [show c.hasChild = false from childless])
  obtain ⟨code, exited⟩ := Option.ne_none_iff_exists'.mp waitsNot
  have live : c.ended = false := live
  simp only [after, step, live, endOfOutput, closeIfDone, exited]
  cases closed : c.closed <;> simp [failAll]

theorem drained_after (consistent : Consistent o.before) (childless : o.before.hasChild = false)
    (drained : o.before.readerOpen = false → o.before.closed = true)
    (ends : o.after.readerOpen = false) : o.after.closed = true := by
  cases open_ : o.before.readerOpen with
  | false => exact o.closed_of_closed live (drained open_)
  | true => exact closed_of_endOfOutput live consistent childless (output_seen live open_ ends)

/-- A channel ends when its interpreter is killed. -/
theorem killed_after (consistent : Consistent o.before) (ended : o.after.ended = true) :
    o.after.status = .killed := by
  cases o.course live with
  | steady same =>
      have same : o.after.ended = o.before.ended := congrArg Standing.ended same
      cases ended.symm.trans (same.trans live)
  | learns c first learns step =>
      have after : o.after = c.closeIfDone.1 := congrArg (·.1) step
      rw [after, c.closeIfDone_queue.2.2.2.2.2, (learns.learned consistent).ended] at ended
      cases ended.symm.trans live
  | stops _ step =>
      have after : o.after = (o.before.shutdown o.env).1 := congrArg Prod.fst step
      rw [after, shutdown_eq]

end Occasion

namespace Link

variable {l l' : Link ρ} {now : Millis} {move : Move} {effects : List (Effect ρ)}

/-- A channel takes a step in a move, or only passes on complaints. -/
theorem moves (h : l.perform? now move = some (l', effects)) :
    (∃ o : Occasion ρ, o.before = l.channel ∧ l'.channel = o.after ∧ o.before.ended = false ∧
        l.Hears now move o.input ∧ o.Possible ∧ effects.filterMap Effect.event? = o.events) ∨
      l'.channel = l.channel ∧ l'.commands = l.commands ∧
        ∀ e ∈ effects.filterMap Effect.event?, ∃ text, e = .complaint text := by
  obtain ⟨none_, -⟩ | ⟨l₁, effects₁, performed, moved⟩ := l.perform?_moved now move
  · cases h.symm.trans none_
  · cases h.symm.trans performed
    cases moved with
    | heard o left occasion channel _ _ _ _ _ events =>
        obtain ⟨before, live, -⟩ := occasion?_eq occasion
        obtain ⟨input, heard, rfl⟩ := Option.map_eq_some_iff.mp occasion
        have hears := Link.hears heard
        exact .inl ⟨_, before, channel, live, hears, hears.possible rfl, events⟩
    | unheard _ channel commands _ _ complaints =>
        refine .inr ⟨channel, commands, fun e member => ?_⟩
        obtain ⟨effect, member, reported⟩ := List.mem_filterMap.mp member
        obtain ⟨text, rfl⟩ := complaints effect member
        exact ⟨text, (Option.some.inj reported).symm⟩

/-- What holds of a link to an interpreter that has no process of its own, from its start on. -/
structure Regular (l : Link ρ) : Prop where
  consistent : Consistent l.channel
  childless : l.channel.hasChild = false
  drained : l.channel.readerOpen = false → l.channel.closed = true
  killed : l.channel.ended = true → l.channel.status = .killed
  numbered : Numbered l.channel
  sized : l.intake.Sized

theorem regular_overPipe (config : Config) : (overPipe config : Link ρ).Regular where
  consistent := consistent_overPipe config
  childless := rfl
  drained := nofun
  killed := nofun
  numbered := .of_pending_nil rfl
  sized := Framing.Intake.sized_start _

/-- The same link, with more commands at most. -/
structure Fed (l l' : Link ρ) : Prop where
  channel : l'.channel = l.channel
  intake : l'.intake = l.intake
  line : l'.line = l.line
  commands : l.commands <+: l'.commands

theorem Fed.refl (l : Link ρ) : Fed l l := ⟨rfl, rfl, rfl, List.prefix_refl _⟩

theorem Fed.trans {l₁ l₂ l₃ : Link ρ} (first : Fed l₁ l₂) (second : Fed l₂ l₃) : Fed l₁ l₃ where
  channel := second.channel.trans first.channel
  intake := second.intake.trans first.intake
  line := second.line.trans first.line
  commands := first.commands.trans second.commands

theorem fed_send (l : Link ρ) (c : Command ρ) : Fed l ((l.send? c).getD l) := by
  unfold send?
  cases l.channel.ended with
  | true => exact .refl l
  | false => exact ⟨rfl, rfl, rfl, List.prefix_append _ _⟩

theorem Fed.regular (fed : Fed l l') (regular : l.Regular) : l'.Regular := by
  obtain ⟨consistent, childless, drained, killed, numbered, sized⟩ := regular
  rw [← fed.channel] at consistent childless drained killed numbered
  exact ⟨consistent, childless, drained, killed, numbered, fed.intake ▸ sized⟩

theorem Fed.leaving (fed : Fed l l') (leaving : l.Leaving) : l'.Leaving :=
  leaving.imp (fun ended => fed.channel ▸ ended) (fed.commands.subset ·)

theorem step_rest (l : Link ρ) (now : Millis) (input : Input ρ)
    (live : (l.step now input).1.channel.ended = false) :
    (l.step now input).1.line.inbound = l.line.inbound ∧
      (l.step now input).1.commands = l.commands := by
  simp only [step] at live ⊢
  simp [live]

/-- What a move does, told by the step that the channel takes. -/
inductive Performs (l : Link ρ) (now : Millis) : Move → Link ρ → Prop
  | command {c : Command ρ} {rest : List (Command ρ)} (commands : l.commands = c :: rest)
      (live : l.channel.ended = false) :
      Performs l now .command (({ l with commands := rest } : Link ρ).step now (.command c)).1
  | waits {intake : Framing.Intake} {inbound : Framing.Pipe}
      (taken : l.intake.take l.line.inbound = (.nothing, intake, inbound)) :
      Performs l now .read { l with intake, line := { l.line with inbound } }
  | read {t : Framing.Taken} {intake : Framing.Intake} {inbound : Framing.Pipe} {input : Input ρ}
      (taken : l.intake.take l.line.inbound = (t, intake, inbound)) (live : l.channel.ended = false)
      (ends : t = .over → input = .endOfOutput) :
      Performs l now .read
        (({ l with intake, line := { l.line with inbound } } : Link ρ).step now input).1
  | complain {complaints : Framing.Pipe} : Performs l now .complain { l with complaints }
  | other {move : Move} {input : Input ρ} (notRead : move ≠ .read)
      (notCommand : move = .command → l.commands = []) :
      Performs l now move (l.step now input).1

theorem performs (h : l.perform? now move = some (l', effects)) : l.Performs now move l' := by
  have reached {l₁ : Link ρ} {input : Input ρ} (h : some (l₁.step now input) = some (l', effects)) :
      (l₁.step now input).1 = l' := congrArg Prod.fst (Option.some.inj h)
  cases move with
  | command =>
      simp only [perform?] at h
      split at h
      · cases h
      · rename_i live
        rw [Bool.not_eq_true] at live
        split at h
        · rename_i c rest commands
          cases h
          exact .command commands live
        · rename_i none_
          split at h
          · rw [← reached h]
            exact .other (by simp) fun _ => none_
          · cases h
  | read =>
      simp only [perform?] at h
      split at h
      · cases h
      · rename_i ready
        have live : l.channel.ended = false := by
          rw [Bool.not_eq_true, Bool.or_eq_false_iff] at ready
          exact ready.1
        rcases taken : l.intake.take l.line.inbound with ⟨f | _ | _, intake, inbound⟩ <;>
          rw [taken] at h <;> dsimp only at h
        · rw [← reached h]
          exact .read taken live (by simp)
        · rw [← reached h]
          exact .read taken live fun _ => rfl
        · split at h <;> cases h
          exact .waits taken
  | complain =>
      simp only [perform?, complain?] at h
      split at h <;> cases h
      exact .complain
  | reap =>
      simp only [perform?] at h
      split at h
      · cases h
      · obtain ⟨code, -, stepped⟩ := Option.map_eq_some_iff.mp h
        rw [← reached (congrArg some stepped)]
        exact .other (by simp) (by simp)
  | flush | expire =>
      simp only [perform?] at h
      split at h
      · split at h
        · rw [← reached h]
          exact .other (by simp) (by simp)
        · cases h
      · cases h

theorem regular_perform (regular : l.Regular) (h : l.perform? now move = some (l', effects)) :
    l'.Regular := by
  have sized : l'.intake.Sized := by
    cases performs h with
    | waits taken | read taken =>
        have sized := Framing.Intake.sized_take (p := l.line.inbound) regular.sized
        rwa [taken] at sized
    | command | complain | other => exact regular.sized
  obtain ⟨o, before, channel, live, -, -, -⟩ | ⟨channel, -, -⟩ := moves h
  · obtain ⟨consistent, childless, drained, -, numbered, -⟩ := regular
    rw [← before] at consistent childless drained numbered
    refine ⟨?_, ?_, ?_, ?_, ?_, sized⟩
    · exact channel ▸ Occasion.consistent_after consistent
    · exact channel ▸ (o.childless_step childless).1
    · exact channel ▸ Occasion.drained_after live consistent childless drained
    · exact channel ▸ Occasion.killed_after live consistent
    · exact channel ▸ numbered.after
  · exact ⟨channel ▸ regular.consistent, channel ▸ regular.childless, channel ▸ regular.drained,
      channel ▸ regular.killed, channel ▸ regular.numbered, sized⟩

/-- The end is reported when the channel closes. -/
theorem countP_closed (regular : l.Regular) (h : l.perform? now move = some (l', effects)) :
    (effects.filterMap Effect.event?).countP Channel.Event.isClosed + l.channel.closed.toNat =
      l'.channel.closed.toNat := by
  obtain ⟨o, before, channel, live, -, possible, events⟩ | ⟨channel, -, complaints⟩ := moves h
  · rw [events, channel, ← before]
    exact Occasion.countP_closed live (before ▸ regular.consistent) possible
  · have zero : (effects.filterMap Effect.event?).countP Channel.Event.isClosed = 0 := by
      refine List.countP_eq_zero.mpr fun e member => ?_
      obtain ⟨text, rfl⟩ := complaints e member
      simp [Channel.Event.isClosed]
    rw [zero, channel, Nat.zero_add]

theorem live_of_open (regular : l.Regular) (open_ : l.channel.closed = false) :
    l.channel.ended = false := by
  cases ended : l.channel.ended with
  | false => rfl
  | true => cases open_.symm.trans (regular.consistent.ended ended)

/-! ### The way to the end -/

/-- How many commands come before the one to stop. -/
def stopAt (l : Link ρ) : Nat :=
  l.commands.findIdx fun c =>
    match c with
    | .stop => true
    | _ => false

theorem Fed.stopAt (fed : Fed l l') (waits : Command.stop ∈ l.commands) : l'.stopAt = l.stopAt :=
  findIdx_of_part fed.commands ⟨_, waits, rfl⟩

/-- A channel that has ended has ended for good. -/
theorem live_before (h : l.perform? now move = some (l', effects))
    (live : l'.channel.ended = false) : l.channel.ended = false := by
  obtain ⟨o, before, -, live, -⟩ | ⟨channel, -⟩ := moves h
  · rwa [before] at live
  · rwa [channel] at live

theorem command_possible {c : Command ρ} (live : l.channel.ended = false) (waits : c ∈ l.commands) :
    l.perform? now .command ≠ none := by
  cases commands : l.commands with
  | nil =>
      rw [commands] at waits
      cases waits
  | cons => simp [perform?, live, commands]

/-- A channel that is to stop ends, or comes nearer to the command. -/
theorem nears_stop (leaving : l.Leaving) (h : l.perform? now move = some (l', effects))
    (live' : l'.channel.ended = false) :
    l'.Leaving ∧ l'.stopAt ≤ l.stopAt ∧ (move = .command → l'.stopAt < l.stopAt) := by
  have live := live_before h live'
  refine ⟨leaving_perform leaving h, ?_⟩
  have same (commands : l'.commands = l.commands) (other : move ≠ .command) :
      l'.stopAt ≤ l.stopAt ∧ (move = .command → l'.stopAt < l.stopAt) := by
    rw [stopAt, commands]
    exact ⟨Nat.le_refl _, fun is => absurd is other⟩
  cases performs h with
  | @command c rest commands =>
      have going : c ≠ .stop := by
        rintro rfl
        simp [step, Channel.step, live, Channel.command, shutdown_eq] at live'
      have lower : (({ l with commands := rest } : Link ρ).step now (.command c)).1.stopAt
          < l.stopAt := by
        rw [stopAt, (step_rest _ now _ live').2, stopAt, commands]
        refine findIdx_cons_lt ?_
        cases c <;> first | rfl | exact absurd rfl going
      exact ⟨lower.le, fun _ => lower⟩
  | waits => exact same rfl (by simp)
  | read => exact same (step_rest _ _ _ live').2 (by simp)
  | complain => exact same rfl (by simp)
  | other _ notCommand =>
      refine same (step_rest _ _ _ live').2 fun command => ?_
      have waits : Command.stop ∈ l.commands := leaving.resolve_left (by simp [live])
      rw [notCommand command] at waits
      cases waits

/-- How many octets from the interpreter have not been read. -/
def unread (l : Link ρ) : Nat := l.intake.left l.line.inbound

theorem read_possible (regular : l.Regular) (open_ : l.channel.closed = false)
    (gone : l.line.inbound.writerGone = true) : l.perform? now .read ≠ none := by
  have live := live_of_open regular open_
  have reads : l.channel.readerOpen = true := by
    cases reads : l.channel.readerOpen with
    | true => rfl
    | false => cases open_.symm.trans (regular.drained reads)
  have exhausts := Framing.Intake.take_exhausts regular.sized gone
  rcases taken : l.intake.take l.line.inbound with ⟨t, intake, inbound⟩
  rw [taken] at exhausts
  cases exhausts <;> simp [perform?, live, reads, taken]

/-- A channel to which nobody writes any more closes, or comes nearer to the end of the stream. -/
theorem nears_end (regular : l.Regular) (gone : l.line.inbound.writerGone = true)
    (h : l.perform? now move = some (l', effects)) (open_ : l'.channel.closed = false) :
    l'.line.inbound.writerGone = true ∧ l'.unread ≤ l.unread ∧
      (move = .read → l'.unread < l.unread) := by
  have live' := live_of_open (regular_perform regular h) open_
  have same (intake : l'.intake = l.intake) (inbound : l'.line.inbound = l.line.inbound)
      (other : move ≠ .read) : l'.line.inbound.writerGone = true ∧ l'.unread ≤ l.unread ∧
        (move = .read → l'.unread < l.unread) := by
    rw [unread, intake, inbound]
    exact ⟨gone, Nat.le_refl _, fun is => absurd is other⟩
  have exhausts := Framing.Intake.take_exhausts regular.sized gone
  cases performs h with
  | command => exact same rfl (step_rest _ _ _ live').1 (by simp)
  | waits taken =>
      rw [taken] at exhausts
      cases exhausts
  | @read t intake inbound input taken live ends =>
      rw [taken] at exhausts
      have inbound' := (step_rest _ now input live').1
      cases exhausts with
      | frame sized gone fewer =>
          rw [unread, inbound']
          exact ⟨gone, fewer.le, fun _ => fewer⟩
      | ended =>
          cases ends rfl
          -- The end of the output would have closed the channel.
          have closed := Occasion.closed_of_endOfOutput
            (o := ⟨l.channel, ({ l with intake, line := { l.line with inbound } } : Link ρ).surroundings now,
              .endOfOutput⟩) live regular.consistent regular.childless rfl
          cases open_.symm.trans closed
  | complain => exact same rfl rfl (by simp)
  | other notRead => exact same rfl (step_rest _ _ _ live').1 notRead

end Link

end Channel

/-! ## Events -/

namespace Monitor

/-- Whether an event passes on what the channel has reported. -/
def Event.isForwarded : Event → Bool
  | .done | .failed _ => false
  | _ => true

/-- Whether an event tells of the end. -/
def Event.isClosed : Event → Bool
  | .closed _ => true
  | _ => false

theorem eventOfMessage_passes (m : Interpreter.Message) :
    (eventOfMessage m).isForwarded = true ∧ (eventOfMessage m).isClosed = false := by
  unfold eventOfMessage
  split
  · split <;> exact ⟨rfl, rfl⟩
  · exact ⟨rfl, rfl⟩
  · exact ⟨rfl, rfl⟩
  · exact ⟨rfl, rfl⟩

theorem isForwarded_eventOfChannel? {e : Channel.Event} {x : Event}
    (passed : eventOfChannel? e = some x) : x.isForwarded = true := by
  cases e with
  | message m =>
      cases passed
      exact (eventOfMessage_passes m).1
  | exited => cases passed
  | spawned | closed | failed | complaint | unreadable => cases passed; rfl

theorem countP_eventOfChannel? (es : List Channel.Event) :
    (es.filterMap eventOfChannel?).countP Event.isClosed = es.countP Channel.Event.isClosed := by
  induction es with
  | nil => rfl
  | cons e es ih =>
      cases e with
      | message m =>
          have passes := (eventOfMessage_passes m).2
          simpa [eventOfChannel?, List.countP_cons, passes, Channel.Event.isClosed] using ih
      | exited | spawned | closed | failed | complaint | unreadable =>
          simpa [eventOfChannel?, List.filterMap_cons, List.countP_cons, Event.isClosed,
            Channel.Event.isClosed] using ih

end Monitor

/-! ## Interpreters -/

namespace Debuggee

variable {d d' : Debuggee} {now : Millis}

/-- What has been reported and not been heard. -/
def toCome (d : Debuggee) : List Event :=
  d.news.filter Event.isForwarded ++ d.reports.filterMap Monitor.eventOfChannel?

/-- What the channel reports when something is done. -/
def reported (d : Debuggee) (now : Millis) : Activity → List Channel.Event
  | .link move =>
    ((d.link.perform? now move).map fun (_, effects) => effects.filterMap Effect.event?).getD []
  | .forward | .settle _ | .poll | .fetch => []

/-- An interpreter that is told something: its channel has not looked at it yet. -/
structure Told (d d' : Debuggee) : Prop where
  link : d.link.Fed d'.link
  reports : d'.reports = d.reports
  news : d'.news = d.news
  snapshot : d'.snapshot = d.snapshot

theorem Told.refl (d : Debuggee) : Told d d := ⟨.refl _, rfl, rfl, rfl⟩

theorem Told.trans {d₁ d₂ d₃ : Debuggee} (first : Told d₁ d₂) (second : Told d₂ d₃) : Told d₁ d₃ :=
  ⟨first.link.trans second.link, second.reports.trans first.reports, second.news.trans first.news,
    second.snapshot.trans first.snapshot⟩

theorem Told.toCome (told : Told d d') : d'.toCome = d.toCome := by
  rw [Debuggee.toCome, told.news, told.reports, Debuggee.toCome]

theorem told_ask (d : Debuggee) (q : Query) : Told d (d.ask q) := by
  have fed := d.link.fed_send (.request q q.type .null (some (d.monitor.patience q)))
  unfold ask
  split
  · rename_i link sent
    rw [sent] at fed
    exact ⟨fed, rfl, rfl, rfl⟩
  · exact ⟨.refl _, rfl, rfl, rfl⟩

theorem told_askAll (d : Debuggee) (qs : List Query) : Told d (d.askAll qs) := by
  induction qs generalizing d with
  | nil => exact .refl d
  | cons q qs ih => exact (d.told_ask q).trans (ih (d.ask q))

theorem told_send {type : String} {data : Json} (h : d.send? type data = some d') : Told d d' := by
  obtain ⟨link, sent, rfl⟩ := Option.map_eq_some_iff.mp h
  have fed := d.link.fed_send (.send type data none)
  rw [sent] at fed
  exact ⟨fed, rfl, rfl, rfl⟩

theorem told_execute {w : Waiter} (h : d.execute? now = some (w, d')) : Told d d' := by
  simp only [execute?] at h
  split at h
  · cases h
  · obtain ⟨sent, told, same⟩ := Option.map_eq_some_iff.mp h
    cases same
    exact told_send told

theorem told_dispose (d : Debuggee) : Told d d.dispose := ⟨d.link.fed_send .stop, rfl, rfl, rfl⟩

/-! ### Reports -/

theorem filter_answer (m : Monitor) (q : Query) (a : Except Channel.RequestError Json) :
    (m.answer q a).2.filter Event.isForwarded = [] := by
  refine List.filter_eq_nil_iff.mpr fun e member => ?_
  rw [m.answer_news q a e member]
  exact Bool.false_ne_true

theorem filter_poll (m : Monitor) (now : Millis) (status : Channel.Status) :
    (m.poll now status).2.2.filter Event.isForwarded = [] := by
  unfold Monitor.poll
  split
  · rfl
  · split <;> rfl

theorem absorb_reports (d : Debuggee) (effects : List (Effect Query)) :
    (d.absorb effects).reports = d.reports ++ effects.filterMap Effect.event? := by
  refine congrArg (d.reports ++ ·) (List.filterMap_congr fun effect _ => ?_)
  cases effect <;> rfl

/-- What is reported comes behind what is to be heard; nothing else does. -/
theorem toCome_perform {a : Activity} (h : d.perform? now a = some d') :
    d'.toCome = d.toCome ++ (d.reported now a).filterMap Monitor.eventOfChannel? := by
  cases performs h with
  | @link move l effects moved =>
      simp only [toCome, absorb_reports, reported, moved, List.filterMap_append, Option.map_some,
        Option.getD_some, List.append_assoc]
      rfl
  | @forward e reports waiting =>
      have passed : (Monitor.eventOfChannel? e).toList.filter Event.isForwarded =
          (Monitor.eventOfChannel? e).toList :=
        List.filter_eq_self.mpr fun x member =>
          Monitor.isForwarded_eventOfChannel? (Option.mem_toList.mp member)
      cases event : Monitor.eventOfChannel? e <;> simp_all [toCome, reported]
  | settle => simp [toCome, reported, filter_answer]
  | poll => rw [(told_askAll _ _).toCome]; simp [toCome, reported, filter_poll]
  | fetch => rw [(told_askAll _ _).toCome]; simp [toCome, reported]

theorem reported_impossible {a : Activity} (h : d.perform? now a = none) : d.reported now a = [] := by
  cases a with
  | link move =>
      rw [perform?, Option.map_eq_none_iff] at h
      rw [reported, h]
      rfl
  | _ => rfl

/-- The report that becomes news when something is done. -/
def forwarded (d : Debuggee) : Activity → List Channel.Event
  | .forward => d.reports.take 1
  | .link _ | .settle _ | .poll | .fetch => []

/-- Reports become news one by one, in order. -/
theorem reports_perform {a : Activity} (h : d.perform? now a = some d') :
    d.forwarded a ++ d'.reports = d.reports ++ d.reported now a := by
  cases performs h with
  | @link move l effects moved =>
      rw [absorb_reports, reported, moved]
      rfl
  | forward first =>
      rw [forwarded, first, reported]
      exact (List.append_nil _).symm
  | settle => exact (List.append_nil _).symm
  | poll | fetch =>
      rw [(told_askAll _ _).reports]
      exact (List.append_nil _).symm

theorem forwarded_impossible {a : Activity} (h : d.perform? now a = none) : d.forwarded a = [] := by
  cases a with
  | forward =>
      cases reports : d.reports with
      | nil => rw [forwarded, reports, List.take_nil]
      | cons => simp [perform?, reports] at h
  | link | settle | poll | fetch => rfl

theorem news_perform {a : Activity} (h : d.perform? now a = some d') : d.news <+: d'.news := by
  cases performs h with
  | link => exact List.prefix_refl _
  | forward | settle => exact List.prefix_append _ _
  | poll =>
      rw [(told_askAll _ _).news]
      exact List.prefix_append _ _
  | fetch => rw [(told_askAll _ _).news]

theorem hear?_eq {e : Event} (h : d.hear? = some (e, d')) :
    ∃ news, d.news = e :: news ∧ d' = { d with news } := by
  unfold hear? at h
  split at h <;> cases h
  exact ⟨_, ‹_›, rfl⟩

theorem toCome_hear {e : Event} (h : d.hear? = some (e, d')) :
    d.toCome = [e].filter Event.isForwarded ++ d'.toCome := by
  obtain ⟨news, first, rfl⟩ := hear?_eq h
  simp only [toCome, first, ← List.append_assoc, ← List.filter_append]
  rfl

theorem link_perform {a : Activity} (h : d.perform? now a = some d') :
    (∃ move effects, a = .link move ∧ d.link.perform? now move = some (d'.link, effects)) ∨
      (∀ move, a ≠ .link move) ∧ d.link.Fed d'.link := by
  cases performs h with
  | link moved => exact .inl ⟨_, _, rfl, moved⟩
  | forward | settle => exact .inr ⟨by simp, .refl _⟩
  | poll | fetch => exact .inr ⟨by simp, { (told_askAll _ _).link with }⟩

theorem regular_perform {a : Activity} (regular : d.link.Regular) (h : d.perform? now a = some d') :
    d'.link.Regular := by
  obtain ⟨move, effects, -, moved⟩ | ⟨-, fed⟩ := link_perform h
  · exact Channel.Link.regular_perform regular moved
  · exact fed.regular regular

/-- The end is reported when the channel closes. -/
theorem closed_perform {a : Activity} (regular : d.link.Regular) (h : d.perform? now a = some d') :
    (d.reported now a).countP Channel.Event.isClosed + d.link.channel.closed.toNat =
      d'.link.channel.closed.toNat := by
  cases performs h with
  | @link move l effects moved =>
      rw [reported, moved]
      exact Channel.Link.countP_closed regular moved
  | forward | settle => exact Nat.zero_add _
  | poll | fetch =>
      rw [(told_askAll _ _).link.channel]
      exact Nat.zero_add _

end Debuggee

end DebugAdapter
