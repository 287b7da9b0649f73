import DebugAdapter.Control.Notice
import DebugAdapter.Proofs.Channel.Routing
import DebugAdapter.Proofs.Monitor.Reports
/-!
# Pushes

What an interpreter writes without being asked: a message for the console, or a text for one of the
output streams. It is taken for a push unless it names a request that waits. The channel reports
each push once, in the order in which they are taken, and none after the end.
-/

namespace DebugAdapter

open Channel (Effect Link Move Occasion)
open Control (Category)
open Interpreter (ConsoleOut Message Severity)
open Monitor (Event Query)

namespace Monitor

/-- A text that an interpreter pushes, and where it belongs. -/
structure Push where
  category : Category
  text : String
deriving DecidableEq, Repr

/-- Where a message for the console belongs. -/
def categoryOf : Severity → Category
  | .debug => .stdout
  | .warning => .important
  | .error => .stderr
  | _ => .console

/-- What a message pushes, if anything. A message for the console that cannot be read does not. -/
def pushOf? (m : Message) : Option Push :=
  match m.type with
  | "console/out" =>
    (m.payload ConsoleOut.decoder).toOption.map fun out => ⟨categoryOf out.severity, out.message⟩
  | "stdout" => some ⟨.stdout, pushedText m.data⟩
  | "stderr" => some ⟨.stderr, pushedText m.data⟩
  | _ => none

/-- The push that an event passes on. -/
def Event.push? : Event → Option Push
  | .console text severity _ => some ⟨categoryOf severity, text⟩
  | .stdout text => some ⟨.stdout, text⟩
  | .stderr text => some ⟨.stderr, text⟩
  | _ => none

theorem push?_eventOfMessage (m : Message) : (eventOfMessage m).push? = pushOf? m := by
  obtain ⟨type, id, reply, data⟩ := m
  unfold eventOfMessage
  dsimp only
  split
  · simp only [pushOf?]
    cases Message.payload ConsoleOut.decoder ⟨"console/out", id, reply, data⟩ <;> rfl
  · rfl
  · rfl
  · simp [pushOf?, Event.push?]

/-- The pushes among what a channel reports. -/
def pushesOf (es : List Channel.Event) : List Push :=
  (es.filterMap Channel.Event.message?).filterMap pushOf?

theorem pushesOf_append (es es' : List Channel.Event) :
    pushesOf (es ++ es') = pushesOf es ++ pushesOf es' := by
  simp [pushesOf]

theorem pushesOf_complaints {es : List Channel.Event}
    (complaints : ∀ e ∈ es, ∃ text, e = .complaint text) : pushesOf es = [] := by
  have none_ : es.filterMap Channel.Event.message? = [] := by
    refine List.filterMap_eq_nil_iff.mpr fun e member => ?_
    obtain ⟨text, rfl⟩ := complaints e member
    rfl
  rw [pushesOf, none_]
  rfl

theorem pushesOf_eq (es : List Channel.Event) :
    (es.filterMap eventOfChannel?).filterMap Event.push? = pushesOf es := by
  rw [pushesOf, List.filterMap_filterMap, List.filterMap_filterMap]
  refine List.filterMap_congr fun e _ => ?_
  cases e with
  | message m => exact push?_eventOfMessage m
  | _ => rfl

theorem filterMap_isForwarded (es : List Event) :
    (es.filter Event.isForwarded).filterMap Event.push? = es.filterMap Event.push? := by
  rw [List.filterMap_filter]
  refine List.filterMap_congr fun e _ => ?_
  cases e <;> rfl

end Monitor

open Monitor (Push pushesOf)

/-! ## Channels -/

namespace Channel

variable {ρ : Type}

/-- What is left of the messages that the channel looks at. -/
theorem Occasion.pushOf?_unclaimed (o : Occasion ρ) :
    o.unclaimed?.bind Monitor.pushOf? = o.received?.bind fun m =>
      if o.before.requests.pending.any fun p => m.reply == some p.id then none
      else Monitor.pushOf? m := by
  unfold unclaimed?
  cases o.received? with
  | none => rfl
  | some m =>
      have aside (type : m.type = Message.pingRequest ∨ m.type = Message.pingResponse) :
          Monitor.pushOf? m = none := by
        obtain type | type := type <;> simp [Monitor.pushOf?, type, Message.pingRequest,
          Message.pingResponse]
      simp only [Option.filter_some, Option.bind_some]
      generalize (o.before.requests.pending.any fun p => m.reply == some p.id) = named
      by_cases type : m.type = Message.pingRequest ∨ m.type = Message.pingResponse
      · obtain same | same := type <;> simp [same, aside]
      · obtain ⟨ping, pong⟩ := not_or.mp type
        cases named <;> simp [ping, pong]

namespace Link

variable {l l' : Link ρ} {now : Millis} {move : Move} {effects : List (Effect ρ)}

/-- The push that is taken in a move, if one is. A message that names a request that waits is the
answer to it. -/
def push? (l : Link ρ) (now : Millis) (move : Move) : Option Push :=
  match l.heard? now move with
  | some (.frame (.ok m)) =>
    if l.channel.requests.pending.any fun p => m.reply == some p.id then none else Monitor.pushOf? m
  | _ => none

/-- What is reported in a move. -/
def reported (l : Link ρ) (now : Millis) (move : Move) : List Channel.Event :=
  ((l.perform? now move).map fun (_, effects) => effects.filterMap Effect.event?).getD []

theorem reported_eq (h : l.perform? now move = some (l', effects)) :
    l.reported now move = effects.filterMap Effect.event? := by
  rw [reported, h]
  rfl

theorem push?_eq {o : Occasion ρ} (occasion : l.occasion? now move = some o) :
    l.push? now move = o.unclaimed?.bind Monitor.pushOf? := by
  obtain ⟨-, live, -⟩ := occasion?_eq occasion
  obtain ⟨input, heard, rfl⟩ := Option.map_eq_some_iff.mp occasion
  rw [Occasion.pushOf?_unclaimed, push?, heard, Occasion.received?, live]
  cases input with
  | frame f => cases f <;> rfl
  | _ => rfl

/-- Every push that is taken is reported, and nothing else is reported as one. -/
theorem pushes_reported (regular : l.Regular) (now : Millis) (move : Move) :
    pushesOf (l.reported now move) = (l.push? now move).toList := by
  obtain ⟨impossible, unheard⟩ | ⟨l', effects, performed, moved⟩ := l.perform?_moved now move
  · rw [reported, impossible, push?, Option.map_eq_none_iff.mp unheard]
    rfl
  · rw [reported_eq performed]
    cases moved with
    | heard o left occasion channel _ _ _ _ _ events =>
        obtain ⟨before, -, -⟩ := occasion?_eq occasion
        have messages := o.messages_eq (before ▸ regular.numbered)
        rw [push?_eq occasion, events, pushesOf, ← Occasion.messages, messages]
        cases o.unclaimed? with
        | none => rfl
        | some m => cases pushed : Monitor.pushOf? m <;> simp [pushed]
    | unheard unheard _ _ _ _ complaints =>
        rw [push?, Option.map_eq_none_iff.mp unheard]
        refine Monitor.pushesOf_complaints fun e member => ?_
        obtain ⟨effect, member, same⟩ := List.mem_filterMap.mp member
        obtain ⟨text, rfl⟩ := complaints effect member
        exact ⟨text, (Option.some.inj same).symm⟩

theorem push?_closed (regular : l.Regular) (closed : l.channel.closed = true) (now : Millis)
    (move : Move) : l.push? now move = none := by
  rw [← Option.toList_eq_nil_iff, ← pushes_reported regular]
  cases performed : l.perform? now move with
  | none =>
      rw [reported, performed]
      rfl
  | some after =>
      rw [reported_eq performed]
      obtain ⟨o, before, -, live, -, possible, events⟩ | ⟨-, -, complaints⟩ := moves performed
      · rw [events, (Occasion.silent_of_closed live (before ▸ regular.consistent) possible
          (before ▸ closed)).1]
        rfl
      · exact Monitor.pushesOf_complaints complaints

/-- The end is the last thing that is reported in a move, and closes the channel. -/
theorem reported_closed (regular : l.Regular) (h : l.perform? now move = some (l', effects))
    {front back : List Channel.Event} {e : Channel.Event}
    (reported : l.reported now move = front ++ e :: back) (ends : e.isClosed = true) :
    l'.channel.closed = true ∧ back = [] := by
  rw [reported_eq h] at reported
  have member : e ∈ effects.filterMap Effect.event? := by simp [reported]
  obtain ⟨o, before, channel, live, -, possible, events⟩ | ⟨-, -, complaints⟩ := moves h
  · rw [events] at reported member
    cases closed : o.before.closed with
    | true =>
        rw [(Occasion.silent_of_closed live (before ▸ regular.consistent) possible closed).1] at member
        cases member
    | false =>
        obtain ⟨-, none_⟩ | ⟨closes, -, first, code, events, none_, -⟩ :=
          Occasion.closing live (before ▸ regular.consistent) closed
        · cases ends.symm.trans (none_ e member)
        · refine ⟨channel ▸ closes, ?_⟩
          rw [events] at reported
          obtain rfl | ⟨others, last, rfl⟩ := List.eq_nil_or_concat back
          · rfl
          · -- Then the end would stand before the last event.
            rw [List.concat_eq_append, ← List.cons_append, ← List.append_assoc] at reported
            have early : e ∈ first := by
              rw [(List.append_inj' reported rfl).1]
              exact List.mem_append_right _ List.mem_cons_self
            cases ends.symm.trans (none_ e early)
  · obtain ⟨text, rfl⟩ := complaints e member
    cases ends

end Link

end Channel

/-! ## Interpreters -/

namespace Debuggee

variable {d d' : Debuggee}

/-- The push that is taken when something is done. -/
def taken? (d : Debuggee) (now : Millis) : Activity → Option Push
  | .link move => d.link.push? now move
  | .forward | .settle _ | .poll | .fetch => none

theorem pushes_reported (regular : d.link.Regular) (now : Millis) (a : Activity) :
    pushesOf (d.reported now a) = (d.taken? now a).toList := by
  cases a with
  | link move => exact Channel.Link.pushes_reported regular now move
  | forward | settle | poll | fetch => rfl

theorem taken?_closed (regular : d.link.Regular) (closed : d.link.channel.closed = true)
    (now : Millis) (a : Activity) : d.taken? now a = none := by
  cases a with
  | link move => exact Channel.Link.push?_closed regular closed now move
  | forward | settle | poll | fetch => rfl

theorem reported_closed {now : Millis} {a : Activity} (regular : d.link.Regular)
    (h : d.perform? now a = some d') {front back : List Channel.Event} {e : Channel.Event}
    (reported : d.reported now a = front ++ e :: back) (ends : e.isClosed = true) :
    d'.link.channel.closed = true ∧ back = [] := by
  cases performs h with
  | link moved => exact Channel.Link.reported_closed regular moved reported ends
  | forward | settle | poll | fetch => simp [Debuggee.reported] at reported

/-- The pushes that have been reported and not been heard. -/
def pushesToCome (d : Debuggee) : List Push := d.toCome.filterMap Event.push?

/-- The end is to come only once the channel has closed, and no push is to come after it. -/
structure Sequenced (d : Debuggee) : Prop where
  regular : d.link.Regular
  last : ∀ front e back, d.toCome = front ++ e :: back → e.isClosed = true →
    d.link.channel.closed = true ∧ back.filterMap Event.push? = []

/-- The channel has closed, and every push has been heard. -/
structure Silent (d : Debuggee) : Prop where
  closed : d.link.channel.closed = true
  pushes : d.pushesToCome = []

theorem sequenced_start (config : Monitor.Config) (now : Millis) : (start config now).Sequenced where
  regular := Channel.Link.regular_overPipe _
  last front e back split := by
    have none_ : (start config now).toCome = [] := rfl
    simp [none_] at split

theorem Told.sequenced (told : Told d d') (sequenced : d.Sequenced) : d'.Sequenced where
  regular := told.link.regular sequenced.regular
  last front e back toCome ends := by
    rw [told.link.channel]
    exact sequenced.last front e back (told.toCome ▸ toCome) ends

theorem Told.silent (told : Told d d') (silent : d.Silent) : d'.Silent :=
  ⟨told.link.channel ▸ silent.closed, by rw [pushesToCome, told.toCome]; exact silent.pushes⟩

/-- Something is heard of an interpreter, and something is reported. -/
theorem Sequenced.next {heard : List Event} {new : List Channel.Event} (sequenced : d.Sequenced)
    (regular : d'.link.Regular)
    (toCome : heard ++ d'.toCome = d.toCome ++ new.filterMap Monitor.eventOfChannel?)
    (stays : d.link.channel.closed = true → d'.link.channel.closed = true ∧ pushesOf new = [])
    (closes : ∀ front e back, new = front ++ e :: back → e.isClosed = true →
      d'.link.channel.closed = true ∧ back = []) : d'.Sequenced where
  regular := regular
  last front e back split ends := by
    have reported {more : List Event}
        (split : new.filterMap Monitor.eventOfChannel? = more ++ e :: back) :
        d'.link.channel.closed = true ∧ back.filterMap Event.push? = [] := by
      obtain ⟨before, later, rfl, -, rest⟩ := List.filterMap_eq_append_iff.mp split
      obtain ⟨others, r, last, rfl, -, passed, rfl⟩ := List.filterMap_eq_cons_iff.mp rest
      have ends' : r.isClosed = true := by
        cases e with
        | closed code => rw [Monitor.eventOfChannel?_closed passed]; rfl
        | _ => cases ends
      obtain ⟨closed, rfl⟩ := closes (before ++ others) r last (by simp) ends'
      exact ⟨closed, rfl⟩
    rw [split, ← List.append_assoc] at toCome
    obtain ⟨rest, before, rfl⟩ | ⟨more, -, later⟩ := split_append toCome.symm
    · obtain ⟨closed, none_⟩ := sequenced.last _ e rest before ends
      obtain ⟨closed', silent⟩ := stays closed
      rw [List.filterMap_append, none_, Monitor.pushesOf_eq, silent]
      exact ⟨closed', rfl⟩
    · exact reported later

end Debuggee

end DebugAdapter
