import DebugAdapter.Proofs.Channel.Link
import DebugAdapter.Proofs.Monitor.Dismissal
import DebugAdapter.Proofs.Monitor.Log
/-!
# Where the questions are

Whatever happens to an interpreter under a monitor, in whatever order: a question of a tick has still
not been looked at by the channel, or waits for a reply, or has been completed, until it is settled.
It is settled once, and none is lost, also if the interpreter never answers or is gone.
-/

namespace DebugAdapter

open Channel (Effect Link Numbered RequestError)

namespace Monitor

/-- Whether the end of the program is reported. -/
def Event.isDone : Event → Bool
  | .done => true
  | _ => false

/-- Whether a monitor knows the same of its ticks. -/
structure Alike (m m' : Monitor) : Prop where
  snapshot : m'.snapshot = m.snapshot
  doneReported : m'.doneReported = m.doneReported
  ticksStarted : m'.ticksStarted = m.ticksStarted
  refreshed : m'.refreshed = m.refreshed
  refreshes : m'.refreshes = m.refreshes

theorem Alike.refl (m : Monitor) : Alike m m := ⟨rfl, rfl, rfl, rfl, rfl⟩

end Monitor

namespace Debuggee

open Monitor (Alike Event Part Query parts)

/-! ## What happens -/

/-- What can happen to a debuggee. -/
inductive Happening where
  | activity (now : Millis) (a : Activity)
  /-- Others leave the pipes, the process and the number of holders like this. -/
  | outside (line : Framing.Line) (complaints : Framing.Pipe) (fate : Option (Option Int))
      (holders : Nat)
  | send (type : String) (data : Json)
  | execute (now : Millis)
  | dispose
  | hear

/-- Something that happened, and what was there before. -/
structure Entry where
  before : Debuggee
  happening : Happening

namespace Entry

def after (e : Entry) : Debuggee :=
  let d := e.before
  match e.happening with
  | .activity now a => (d.perform? now a).getD d
  | .outside line complaints fate holders =>
    { d with link := { d.link with line, complaints, fate, holders } }
  | .send type data => (d.send? type data).getD d
  | .execute now => ((d.execute? now).map (·.2)).getD d
  | .dispose => d.dispose
  | .hear => (d.hear?.map (·.2)).getD d

/-- The question that is settled, and what has come of it. -/
def settled? (e : Entry) : Option (Query × Except RequestError Json) :=
  match e.happening with
  | .activity _ (.settle i) => e.before.answers[i]?
  | _ => none

/-- What is reported. -/
def reported (e : Entry) : List Event := e.after.news.drop e.before.news.length

end Entry

/-- The questions that have not been settled. -/
def awaited (d : Debuggee) : List Query :=
  d.answers.map (·.1) ++ d.link.channel.requests.pending.map (·.asker) ++ d.link.askers

/-- The questions of ticks among them. -/
def awaitedParts (d : Debuggee) : List (Nat × Part) := d.awaited.filterMap Query.part?

/-- What an entry means to the ticks. -/
inductive Ticking (e : Entry) : Prop where
  | aside (settled : e.settled? = none) (monitor : Alike e.before.monitor e.after.monitor)
      (awaited : e.after.awaitedParts.Perm e.before.awaitedParts)
      (silent : ∀ x ∈ e.reported, x.isDone = false)
  | begin (settled : e.settled? = none)
      (monitor : Alike { e.before.monitor with
        ticksStarted := e.before.monitor.ticksStarted + 1
        refreshes := e.before.monitor.refreshes ++
          [{ tick := e.before.monitor.ticksStarted + 1, waiting := parts }] } e.after.monitor)
      (awaited : e.after.awaitedParts.Perm
        (e.before.awaitedParts ++ parts.map (e.before.monitor.ticksStarted + 1, ·)))
      (silent : e.reported = [])
  | settle (q : Query) (a : Except RequestError Json) (settled : e.settled? = some (q, a))
      (monitor : e.after.monitor = (e.before.monitor.answer q a).1)
      (awaited : e.before.awaited.Perm (q :: e.after.awaited))
      (reported : e.reported = (e.before.monitor.answer q a).2)

/-! ## Questions that are asked -/

/-- Some questions are asked. -/
structure Asked (d d' : Debuggee) (qs : List Query) : Prop where
  monitor : d'.monitor = d.monitor
  news : d'.news = d.news
  channel : d'.link.channel = d.link.channel
  awaited : d'.awaited.Perm (d.awaited ++ qs)

theorem asked_ask (d : Debuggee) (q : Query) : Asked d (d.ask q) [q] := by
  cases ended : d.link.channel.ended with
  | true =>
      have turnedAway : d.ask q = { d with answers := d.answers ++ [(q, .error .closed)] } := by
        simp only [ask, Link.send?, ended, if_true]
      rw [turnedAway]
      refine ⟨rfl, rfl, rfl, ?_⟩
      simp only [awaited, List.map_append, List.map_cons, List.map_nil]
      rw [← Multiset.coe_eq_coe]
      simp only [← Multiset.coe_add]
      abel
  | false =>
      have queued : d.ask q = { d with link := { d.link with commands := d.link.commands ++
          [.request q q.type .null (some (d.monitor.patience q))] } } := by
        simp only [ask, Link.send?, ended, Bool.false_eq_true, if_false]
      rw [queued]
      refine ⟨rfl, rfl, rfl, ?_⟩
      simp only [awaited, Link.askers, List.filterMap_append, List.append_assoc]
      exact .refl _

theorem asked_askAll (d : Debuggee) (qs : List Query) : Asked d (d.askAll qs) qs := by
  induction qs generalizing d with
  | nil => exact ⟨rfl, rfl, rfl, by rw [List.append_nil]; exact .refl _⟩
  | cons q qs ih =>
      have first := asked_ask d q
      have rest := ih (d.ask q)
      refine ⟨rest.monitor.trans first.monitor, rest.news.trans first.news,
        rest.channel.trans first.channel, rest.awaited.trans ?_⟩
      rw [List.append_cons]
      exact first.awaited.append_right qs

theorem Asked.parts {d d' : Debuggee} {qs : List Query} (asked : Asked d d' qs) :
    d'.awaitedParts.Perm (d.awaitedParts ++ qs.filterMap Query.part?) := by
  rw [awaitedParts, awaitedParts, ← List.filterMap_append]
  exact asked.awaited.filterMap _

/-! ## Moves of the link -/

theorem absorb_answers (d : Debuggee) (effects : List (Effect Query)) :
    (d.absorb effects).answers = d.answers ++ effects.filterMap Effect.completion? := by
  refine congrArg (d.answers ++ ·) (List.filterMap_congr fun effect _ => ?_)
  cases effect <;> rfl

theorem awaited_move {d : Debuggee} {l : Link Query} {effects : List (Effect Query)} {now : Millis}
    {move : Channel.Move} (h : d.link.perform? now move = some (l, effects))
    (numbered : Numbered d.link.channel) :
    (({ d with link := l } : Debuggee).absorb effects).awaited.Perm d.awaited := by
  have here := Link.askers_perform h numbered
  simp only [awaited, absorb_answers, List.map_append, List.append_assoc] at here ⊢
  exact here.append_left _

/-! ## One entry -/

/-- The channel reports nothing of the program. -/
theorem isDone_eventOfChannel? {e : Channel.Event} {x : Event}
    (h : Monitor.eventOfChannel? e = some x) : x.isDone = false := by
  cases e with
  | message m =>
      cases h
      unfold Monitor.eventOfMessage
      split
      · split <;> rfl
      · rfl
      · rfl
      · rfl
  | exited => cases h
  | spawned | closed | failed | complaint | unreadable => cases h; rfl

theorem Entry.after_send (d : Debuggee) (type : String) (data : Json) :
    Entry.after ⟨d, .send type data⟩ =
      { d with link := (d.link.send? (.send type data none)).getD d.link } := by
  simp only [Entry.after, send?]
  cases d.link.send? (.send type data none) <;> rfl

theorem after_execute (d : Debuggee) (now : Millis) :
    Entry.after ⟨d, .execute now⟩ = d ∨ Entry.after ⟨d, .execute now⟩ =
      { d with link := (d.link.send? (.send Interpreter.stepCommand .null none)).getD d.link } := by
  simp only [Entry.after, execute?, send?]
  split
  · exact .inl rfl
  · cases d.link.send? (.send Interpreter.stepCommand .null none) with
    | none => exact .inl rfl
    | some link => exact .inr rfl

/-- Something that is queued and is no question. -/
theorem awaitedParts_send (d : Debuggee) {c : Channel.Command Query} (other : c.asker? = none) :
    ({ d with link := (d.link.send? c).getD d.link } : Debuggee).awaitedParts = d.awaitedParts := by
  obtain ⟨channel, askers, -⟩ := d.link.send?_other other
  simp only [awaitedParts, awaited, channel, askers]

variable (d : Debuggee) (now : Millis)

/-- An entry that leaves the monitor and its questions alone and reports nothing. -/
theorem ticking_aside (h : Happening) (settled : Entry.settled? ⟨d, h⟩ = none)
    (monitor : Alike d.monitor (Entry.after ⟨d, h⟩).monitor)
    (awaited : (Entry.after ⟨d, h⟩).awaitedParts = d.awaitedParts)
    (news : (Entry.after ⟨d, h⟩).news.length ≤ d.news.length) : Ticking ⟨d, h⟩ := by
  refine .aside settled monitor (.of_eq awaited) ?_
  rw [Entry.reported, List.drop_eq_nil_of_le news]
  nofun

theorem ticking_perform {a : Activity} {d' : Debuggee} (h : d.perform? now a = some d')
    (numbered : Numbered d.link.channel) : Ticking ⟨d, .activity now a⟩ := by
  have after : Entry.after ⟨d, .activity now a⟩ = d' := congrArg (·.getD d) h
  have reported (es : List Event) (news : d'.news = d.news ++ es) :
      Entry.reported ⟨d, .activity now a⟩ = es := by
    rw [Entry.reported, after, news, List.drop_left]
  cases performs h with
  | link moved =>
      refine .aside rfl ?_ ?_ ?_
      · rw [after]
        exact .refl _
      · rw [after]
        exact (awaited_move moved numbered).filterMap _
      · rw [reported [] (List.append_nil _).symm]
        nofun
  | forward =>
      refine .aside rfl ?_ ?_ ?_
      · rw [after]
        exact .refl _
      · rw [after]
        exact .refl _
      · rw [reported _ rfl]
        intro x mem
        exact isDone_eventOfChannel? (Option.mem_toList.mp mem)
  | @settle i q a answered =>
      refine .settle q a answered ?_ ?_ ?_
      · rw [after]
      · rw [after]
        obtain ⟨inside, here⟩ := List.getElem?_eq_some_iff.mp answered
        have taken := (List.getElem_cons_eraseIdx_perm inside).map (·.1)
        rw [here] at taken
        exact (taken.symm.append_right _).append_right _
      · exact reported _ rfl
  | poll scheduled =>
      have asked := asked_askAll { d with
        monitor := (d.monitor.poll now d.status).1
        news := d.news ++ (d.monitor.poll now d.status).2.2 } (d.monitor.poll now d.status).2.1
      have here := asked.parts
      by_cases running : d.status = .running
      · simp only [Monitor.poll, scheduled, running, if_true] at here reported asked after
        refine .begin rfl ?_ ?_ ?_
        · rw [after, asked.monitor]
          exact ⟨rfl, rfl, rfl, rfl, rfl⟩
        · rw [after]
          exact here
        · exact reported _ asked.news
      · simp only [Monitor.poll, scheduled, running, if_false] at here reported asked after
        refine .aside rfl ?_ ?_ ?_
        · rw [after, asked.monitor]
          exact ⟨rfl, rfl, rfl, rfl, rfl⟩
        · rw [after]
          exact .refl _
        · rw [reported _ asked.news]
          simp [Monitor.Event.isDone]
  | fetch =>
      have asked := asked_askAll { d with monitor := (d.monitor.fetchCode d.status).1 }
        (d.monitor.fetchCode d.status).2
      refine .aside rfl ?_ ?_ ?_
      · rw [after, asked.monitor]
        unfold Monitor.fetchCode
        split <;> exact ⟨rfl, rfl, rfl, rfl, rfl⟩
      · have other : (d.monitor.fetchCode d.status).2.filterMap Query.part? = [] := by
          unfold Monitor.fetchCode
          split <;> rfl
        have here := asked.parts
        rw [other, List.append_nil] at here
        rw [after]
        exact here
      · rw [reported [] (asked.news.trans (List.append_nil _).symm)]
        nofun

/-- An entry begins a tick, or settles a question, or has nothing to do with the ticks. -/
theorem ticking (e : Entry) (numbered : Numbered e.before.link.channel) : Ticking e := by
  obtain ⟨d, happening⟩ := e
  cases happening with
  | activity now a =>
      cases performed : d.perform? now a with
      | some d' => exact ticking_perform d now performed numbered
      | none =>
          have after : Entry.after ⟨d, .activity now a⟩ = d := congrArg (·.getD d) performed
          have settled : Entry.settled? ⟨d, .activity now a⟩ = none := by
            cases a with
            | settle i =>
                simp only [perform?] at performed
                split at performed
                · cases performed
                · assumption
            | link | forward | poll | fetch => rfl
          apply ticking_aside d _ settled <;> rw [after]
          exact .refl _
  | outside line complaints fate holders =>
      exact ticking_aside d _ rfl (.refl _) rfl (Nat.le_refl _)
  | send type data =>
      apply ticking_aside d _ rfl <;> rw [Entry.after_send]
      · exact .refl _
      · exact d.awaitedParts_send rfl
  | execute now =>
      obtain after | after := d.after_execute now <;> apply ticking_aside d _ rfl <;> rw [after]
      · exact .refl _
      · exact .refl _
      · exact d.awaitedParts_send rfl
  | dispose =>
      apply ticking_aside d _ rfl
      · exact ⟨rfl, rfl, rfl, rfl, rfl⟩
      · exact d.awaitedParts_send (c := .stop) rfl
      · exact Nat.le_refl _
  | hear =>
      cases news : d.news with
      | nil =>
          have after : Entry.after ⟨d, .hear⟩ = d := by simp only [Entry.after, hear?, news]; rfl
          apply ticking_aside d _ rfl <;> rw [after]
          exact .refl _
      | cons x rest =>
          have after : Entry.after ⟨d, .hear⟩ = { d with news := rest } := by
            simp only [Entry.after, hear?, news]
            rfl
          apply ticking_aside d _ rfl <;> rw [after]
          · exact .refl _
          · rfl
          · rw [news]
            exact Nat.le_succ _

theorem numbered_perform {a : Activity} {d' : Debuggee} (h : d.perform? now a = some d')
    (numbered : Numbered d.link.channel) : Numbered d'.link.channel := by
  cases performs h with
  | link moved => exact Link.numbered_perform moved numbered
  | forward | settle => exact numbered
  | poll | fetch =>
      rw [(asked_askAll _ _).channel]
      exact numbered

theorem numbered_send {c : Channel.Command Query} (other : c.asker? = none)
    (numbered : Numbered d.link.channel) : Numbered ((d.link.send? c).getD d.link).channel := by
  rw [(d.link.send?_other other).1]
  exact numbered

theorem numbered_after (e : Entry) (numbered : Numbered e.before.link.channel) :
    Numbered e.after.link.channel := by
  obtain ⟨d, happening⟩ := e
  cases happening with
  | activity now a =>
      cases performed : d.perform? now a with
      | some d' =>
          rw [show Entry.after ⟨d, .activity now a⟩ = d' from congrArg (·.getD d) performed]
          exact numbered_perform d now performed numbered
      | none =>
          rw [show Entry.after ⟨d, .activity now a⟩ = d from congrArg (·.getD d) performed]
          exact numbered
  | outside => exact numbered
  | send type data =>
      rw [Entry.after_send]
      exact d.numbered_send rfl numbered
  | execute now =>
      obtain after | after := d.after_execute now <;> rw [after]
      · exact numbered
      · exact d.numbered_send rfl numbered
  | dispose => exact d.numbered_send (c := .stop) rfl numbered
  | hear =>
      simp only [Entry.after, hear?]
      split <;> exact numbered

/-! ## What has happened -/

/-- Something happens, and it is remembered. -/
def advance (d : Debuggee) (h : Happening) : Debuggee × Entry := (Entry.after ⟨d, h⟩, ⟨d, h⟩)

/-- What has happened to a debuggee. -/
abbrev History := Trace Debuggee Entry

/-- The questions that have been settled, in order, and what has come of them. -/
def settlements (es : List Entry) : Monitor.Log :=
  es.filterMap Entry.settled?

theorem settlements_append (es : List Entry) (e : Entry) :
    settlements (es ++ [e]) = settlements es ++ e.settled?.toList := by
  rw [settlements, List.filterMap_append]
  cases settled : e.settled? <;> simp [settlements, settled]

/-- The questions of the first `n` ticks. -/
def questions (n : Nat) : List (Nat × Part) :=
  (List.range' 1 n).flatMap fun tick => parts.map (tick, ·)

theorem questions_succ (n : Nat) :
    questions (n + 1) = questions n ++ parts.map (n + 1, ·) := by
  rw [questions, List.range'_1_concat, List.flatMap_append, List.flatMap_singleton, Nat.add_comm 1 n]
  rfl

theorem mem_questions {n tick : Nat} {p : Part} :
    (tick, p) ∈ questions n ↔ 1 ≤ tick ∧ tick ≤ n := by
  have all : p ∈ parts := by cases p <;> decide
  simp only [questions, List.mem_flatMap, List.mem_range'_1, List.mem_map, Prod.mk.injEq]
  constructor
  · rintro ⟨tick', bounds, p', -, rfl, -⟩
    omega
  · rintro ⟨first, last⟩
    exact ⟨tick, ⟨first, by omega⟩, p, all, rfl, rfl⟩

theorem nodup_questions (n : Nat) : (questions n).Nodup := by
  induction n with
  | zero => exact List.nodup_nil
  | succ n ih =>
      rw [questions_succ, List.nodup_append]
      have apart : (parts.map (n + 1, ·)).Nodup := by
        refine List.Nodup.map (fun p p' same => (Prod.mk.inj same).2) ?_
        decide
      refine ⟨ih, apart, ?_⟩
      rintro ⟨tick, p⟩ old x new rfl
      obtain ⟨p', -, same⟩ := List.mem_map.mp new
      have := (mem_questions.mp old).2
      cases same
      omega

/-- Each question of the ticks that have begun has been settled, or is on its way. -/
structure Placed (t : History) : Prop where
  numbered : Numbered t.state.link.channel
  placed : (((settlements t.entries).map (·.1)).filterMap Query.part? ++ t.state.awaitedParts).Perm
    (questions t.state.monitor.ticksStarted)

namespace Placed

variable {t : History}

theorem next (placed : Placed t) (h : Happening) : Placed (t.next advance h) := by
  let e : Entry := ⟨t.state, h⟩
  refine ⟨numbered_after e placed.numbered, ?_⟩
  change (((settlements (t.entries ++ [e])).map (·.1)).filterMap Query.part? ++
    e.after.awaitedParts).Perm (questions e.after.monitor.ticksStarted)
  have before := placed.placed
  rw [settlements_append]
  cases ticking e placed.numbered with
  | aside settled monitor awaited =>
      rw [settled, Option.toList_none, List.append_nil, monitor.ticksStarted]
      exact (awaited.append_left _).trans before
  | begin settled monitor awaited =>
      rw [settled, Option.toList_none, List.append_nil, monitor.ticksStarted, questions_succ]
      refine (awaited.append_left _).trans ?_
      rw [← List.append_assoc]
      exact before.append_right _
  | settle q a settled monitor awaited =>
      rw [settled, monitor, (Monitor.answer_asks ..).ticksStarted]
      refine .trans ?_ before
      rw [Option.toList_some, List.map_append, List.filterMap_append, List.append_assoc]
      refine .append_left _ ?_
      rw [awaitedParts, ← List.filterMap_append]
      exact (awaited.filterMap Query.part?).symm

/-- Nothing has been asked yet. -/
theorem start (config : Monitor.Config) (now : Millis) (link : Link Query)
    (pending : link.channel.requests.pending = []) (commands : link.commands = []) :
    Placed { state := { Debuggee.start config now with link } } where
  numbered := .of_pending_nil pending
  placed := by
    have none_ : ({ Debuggee.start config now with link } : Debuggee).awaitedParts = [] := by
      simp only [awaitedParts, awaited, Link.askers, pending, commands]
      rfl
    rw [none_]
    exact .refl _

/-- A question that has been settled belongs to a tick that has begun. -/
theorem begun (placed : Placed t) {tick : Nat} {p : Part} {a : Except RequestError Json}
    (settled : (.part tick p, a) ∈ settlements t.entries) :
    1 ≤ tick ∧ tick ≤ t.state.monitor.ticksStarted := by
  apply mem_questions.mp
  apply placed.placed.mem_iff.mp
  exact List.mem_append_left _ (List.mem_filterMap.mpr ⟨_, List.mem_map_of_mem settled, rfl⟩)

/-- A question that is about to be settled belongs to a tick that has begun, and has not been settled
before. -/
theorem fresh (placed : Placed t) {e : Entry} (before : e.before = t.state) {tick : Nat} {p : Part}
    {a : Except RequestError Json} (settled : e.settled? = some (.part tick p, a)) :
    (1 ≤ tick ∧ tick ≤ t.state.monitor.ticksStarted) ∧
      ∀ a', (.part tick p, a') ∉ settlements t.entries := by
  have waits : (tick, p) ∈ t.state.awaitedParts := by
    rw [← before]
    cases ticking e (before ▸ placed.numbered) with
    | aside none_ | begin none_ => cases settled.symm.trans none_
    | settle q a same _ awaited =>
        cases settled.symm.trans same
        exact List.mem_filterMap.mpr ⟨_, awaited.mem_iff.mpr List.mem_cons_self, rfl⟩
  constructor
  · exact mem_questions.mp (placed.placed.mem_iff.mp (List.mem_append_right _ waits))
  · intro a' past
    have distinct := placed.placed.nodup_iff.mpr (nodup_questions _)
    refine (List.nodup_append.mp distinct).2.2 _ ?_ _ waits rfl
    exact List.mem_filterMap.mpr ⟨_, List.mem_map_of_mem past, rfl⟩

end Placed

end Debuggee

end DebugAdapter
