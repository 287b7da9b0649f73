import DebugAdapter.Proofs.Monitor.Transit
/-!
# What is on its way between a monitor and a scripted interpreter

While a channel works and no deadline passes, every order can be found in one of a few places, and
so can every answer. Nothing is lost or overtaken on the way, so a question is answered as the
program reports after the steps that were ordered before it.
-/

namespace DebugAdapter.Monitor

open Channel (Effect Link RequestError)
open Framing (Line)
open Interpreter (Carried Message ScriptedInterpreter ScriptedProgram)

/-- An answer to a question after some steps. -/
structure Answer where
  query : Query
  stage : Nat
  data : Json

/-- Whether an answer is what a program reports, after no more than `made` steps. -/
structure Answer.Right (p : ScriptedProgram) (made : Nat) (a : Answer) : Prop where
  past : a.stage ≤ made
  reported : p.answer? a.stage a.query.type = some a.data

/-- An answer on its way, with the number of its question. -/
structure Reply where
  number : Nat
  id : String
  answer : Answer

/-- The message that carries an answer. -/
def Reply.message (r : Reply) : Message :=
  { type := r.answer.query.type, id := r.id, reply := some (toString r.number),
    data := r.answer.data }

/-- What is on its way: the answers that have come, those in the pipe from the interpreter, the
orders in the pipe to it, in the queue and among the commands of the channel. -/
structure Transit where
  answered : List Answer := []
  replied : List Reply := []
  written : List Order := []
  queued : List Order := []
  ordered : List Order := []
  /-- Whether the last of the commands is to stop. -/
  stopping : Bool := false
  /-- The number of the first message in the pipe. -/
  first : Nat := 1
  /-- How many steps have been made. -/
  made : Nat := 0

namespace Transit

/-- The answers that nobody has settled. -/
def answers (t : Transit) : List Answer := t.answered ++ t.replied.map (·.answer)

/-- The orders that the interpreter has not read. -/
def orders (t : Transit) : List Order := t.written ++ t.queued ++ t.ordered

/-- The questions that nobody has settled, with the steps after which they are answered. -/
def owed (t : Transit) : List (Query × Nat) :=
  t.answers.map (fun a => (a.query, a.stage)) ++ staged t.made t.orders

/-- How many steps have been ordered. -/
def sent (t : Transit) : Nat := t.made + steps t.orders

/-- The requests that will be answered. -/
def questions (t : Transit) : List (Nat × Query) :=
  t.replied.map (fun r => (r.number, r.answer.query)) ++ asked t.first (t.written ++ t.queued)

/-- The commands of the channel. -/
def commands (t : Transit) (config : Config) : List (Channel.Command Query) :=
  t.ordered.map (Order.command config) ++ if t.stopping then [.stop] else []

end Transit

/-- Whether a link works: nothing has ended, and somebody holds it. -/
structure Working (config : Channel.Config) (l : Link Query) : Prop where
  config : l.channel.config = config
  running : l.channel.status = .running
  readerOpen : l.channel.readerOpen = true
  childless : l.channel.hasChild = false
  closed : l.channel.closed = false
  ended : l.channel.ended = false
  held : l.holders ≠ 0
  uncomplaining : l.complaints.octets = []
  heard : l.line.outbound.readerGone = false
  speaking : l.line.outbound.writerGone = false
  hearing : l.line.inbound.readerGone = false
  spoken : l.line.inbound.writerGone = false

/-- The link with octets written behind the others. -/
def wrote (l : Link Query) (bs : Bytes) : Link Query :=
  { l with line := { l.line with
      outbound := { l.line.outbound with octets := l.line.outbound.octets ++ bs } } }

/-- A step of a working link that does not end. -/
theorem Working.step {config : Channel.Config} {l : Link Query} (working : Working config l)
    (now : Millis) {input : Channel.Input Query} {c : Channel Query} {effects : List (Effect Query)}
    (stepped : l.channel.step (l.surroundings now) input = (c, effects)) (ended : c.ended = false) :
    l.step now input =
      ({ wrote l (Link.written c.config effects) with channel := c }, effects) := by
  simp only [Link.step, stepped, ended, Framing.Pipe.write?, working.heard, working.speaking,
    Bool.or_self, Bool.false_eq_true, if_false, Option.getD_some, wrote]

/-- The requests of a channel after it has sent a message with the number `n`. -/
def Order.register (config : Config) (now : Millis) (n : Nat) (rs : Channel.Requests Query) :
    Order → Channel.Requests Query
  | .step => rs
  | .ask q => rs.insert now (toString n) q (some (q.patience config))

theorem Registered.order {rs : Channel.Requests Query} {questions : List (Nat × Query)} {next : Nat}
    (registered : Registered rs.pending questions next) (config : Config) (now : Millis)
    (o : Order) :
    Registered (o.register config now next rs).pending (questions ++ asked next [o]) (next + 1) := by
  cases o with
  | step =>
      rw [asked, asked, List.append_nil]
      exact registered.skip
  | ask q => exact registered.insert _ rfl

/-- The channel after it has carried out an order. -/
def queue (config : Config) (now : Millis) (c : Channel Query) (o : Order) : Channel Query :=
  { c with
    lastId := c.lastId + 1
    outbox := c.outbox ++ [o.message (c.lastId + 1)]
    flushDue := c.flushDue.or (some (now + c.config.writeDelay))
    requests := o.register config now (c.lastId + 1) c.requests }

theorem Working.command {config : Config} {l : Link Query} (working : Working config.channel l)
    (env : Channel.Surroundings) (o : Order) :
    l.channel.step env (.command (o.command config)) = (queue config env.now l.channel o, []) := by
  cases o with
  | step =>
      simp only [Channel.step, working.ended, Bool.false_eq_true, if_false, Order.command,
        Channel.command, Channel.enqueue, queue, Order.register]
      rfl
  | ask q =>
      simp only [Channel.step, working.ended, Bool.false_eq_true, if_false, Order.command,
        Channel.command, working.closed, Channel.isRunning, working.running, beq_self_eq_true,
        Bool.not_true, Bool.or_self, Channel.enqueue, queue, Order.register]
      rfl

section

variable {config : Channel.Config} (outOfBand : config.delimiting.OutOfBand) {ms : List Message}
  (carried : ∀ m ∈ ms, Carried 126 m.data)

include outOfBand carried

theorem map_writeEffect {accepts : Message → Bool} (accepted : ∀ m, accepts m = true) :
    ms.map (Channel.writeEffect config accepts) = ms.map (Effect.write (ρ := Query)) := by
  refine List.map_congr_left fun m member => ?_
  rw [Channel.writeEffect, encode_carried outOfBand (carried m member)]
  simp only [accepted, if_true]

theorem written_writes :
    Link.written config (ms.map (Effect.write (ρ := Query))) =
      ms.flatMap (wire config.delimiting) := by
  rw [Link.written, List.flatMap_map]
  refine List.flatMap_congr fun m member => ?_
  simp only [encode_carried outOfBand (carried m member)]

end

theorem absorb_complete (d : Debuggee) (q : Query) (a : Except RequestError Json) :
    d.absorb [.complete q a] = { d with answers := d.answers ++ [(q, a)] } := by
  simp [Debuggee.absorb]

theorem absorb_writes (d : Debuggee) (ms : List Message) : d.absorb (ms.map .write) = d := by
  simp [Debuggee.absorb, List.filterMap_map]

theorem wrote_nil (l : Link Query) : wrote l [] = l := by
  simp only [wrote, List.append_nil]

/-- An interpreter that somebody reads writes whatever comes through. -/
theorem send_eq {s : ScriptedInterpreter} {l : Line} {d : Framing.Delimiting}
    (outOfBand : d.OutOfBand) (alive : s.ended = false) (delimiting : s.intake.reader.delimiting = d)
    (hearing : l.inbound.readerGone = false) (spoken : l.inbound.writerGone = false)
    (type : String) (reply : Option String) {data : Json} (carried : Carried 126 data) :
    s.send l type none reply data =
      ({ s with written := s.written + 1 },
        { l with inbound := { l.inbound with
            octets := l.inbound.octets ++
              wire d { type, id := "stub-" ++ toString (s.written + 1), reply, data } } }) := by
  simp only [ScriptedInterpreter.send, alive, Bool.false_eq_true, if_false, delimiting,
    Option.getD_none]
  rw [encode_carried outOfBand carried]
  simp only [ScriptedInterpreter.write, Framing.Pipe.write?, hearing, spoken, Bool.or_self,
    Bool.false_eq_true, if_false]

/-- What is on its way is where it should be. -/
structure Flow (p : ScriptedProgram) (config : Config) (d : Debuggee) (s : ScriptedInterpreter)
    (t : Transit) : Prop where
  configured : d.monitor.config = config
  working : Working config.channel d.link
  commands : d.link.commands = t.commands config
  outbox : d.link.channel.outbox = messages (t.first + t.written.length) t.queued
  numbered : d.link.channel.lastId + 1 = t.first + (t.written ++ t.queued).length
  due : t.queued ≠ [] → ∃ due, d.link.channel.flushDue = some due
  outbound : s.intake.Carries config.channel.delimiting d.link.line.outbound
    (messages t.first t.written)
  inbound : d.link.intake.Carries config.channel.delimiting d.link.line.inbound
    (t.replied.map Reply.message)
  answers : d.answers = t.answered.map fun a => (a.query, .ok a.data)
  right : ∀ a ∈ t.answers, a.Right p t.made
  reports : d.reports = []
  registered : Registered d.link.channel.requests.pending t.questions (d.link.channel.lastId + 1)
  script : s.script.At p t.made
  alive : s.ended = false

namespace Flow

variable {p : ScriptedProgram} {config : Config} {d : Debuggee} {s : ScriptedInterpreter}
  {t : Transit}

/-! ## The monitor -/

/-- What a monitor keeps to itself, and what it reports, changes nothing. -/
theorem of_monitor (flow : Flow p config d s t) {m : Monitor} (same : m.config = d.monitor.config)
    (news : List Event) : Flow p config { d with monitor := m, news } s t :=
  { flow with configured := same.trans flow.configured }

/-- The first answer is settled. -/
theorem settled {a : Answer} {rest : List Answer} (flow : Flow p config d s t)
    (answered : t.answered = a :: rest) :
    d.answers[0]? = some (a.query, .ok a.data) ∧ a.Right p t.made ∧
      Flow p config { d with answers := d.answers.eraseIdx 0 } s { t with answered := rest } := by
  have answers := flow.answers
  rw [answered, List.map_cons] at answers
  have right := flow.right
  rw [Transit.answers, answered, List.cons_append, List.forall_mem_cons] at right
  refine ⟨by rw [answers]; rfl, right.1, ?_⟩
  exact { flow with
    answers := by rw [answers]; rfl
    right := right.2 }

/-! ## Orders -/

theorem order (flow : Flow p config d s t) (going : t.stopping = false) (os : List Order) :
    Flow p config
      { d with link := { d.link with
          commands := d.link.commands ++ os.map (Order.command config) } }
      s { t with ordered := t.ordered ++ os } :=
  { flow with
    working := { flow.working with }
    commands := by
      simp [flow.commands, Transit.commands, going] }

theorem ask_eq (flow : Flow p config d s t) (q : Query) :
    d.ask q = { d with link := { d.link with
      commands := d.link.commands ++ [(Order.ask q).command config] } } := by
  have patient : d.monitor.patience q = q.patience config := by
    cases q <;> simp only [Monitor.patience, Query.patience, flow.configured]
  simp only [Debuggee.ask, Link.send?, flow.working.ended, patient]
  rfl

theorem askAll (flow : Flow p config d s t) (going : t.stopping = false) (qs : List Query) :
    Flow p config (d.askAll qs) s { t with ordered := t.ordered ++ qs.map .ask } ∧
      (d.askAll qs).monitor = d.monitor ∧ (d.askAll qs).news = d.news := by
  induction qs generalizing d t with
  | nil =>
      rw [List.map_nil, List.append_nil]
      exact ⟨flow, rfl, rfl⟩
  | cons q qs ih =>
      have next := flow.order going [.ask q]
      rw [List.map_singleton, ← flow.ask_eq q] at next
      obtain ⟨later, monitor, news⟩ := ih next going
      rw [Debuggee.askAll, List.foldl_cons, List.map_cons]
      rw [List.append_assoc] at later
      refine ⟨later, monitor.trans ?_, news.trans ?_⟩
      · rw [flow.ask_eq q]
      · rw [flow.ask_eq q]

/-! ## The channel -/

/-- The number of the next message. -/
theorem next_number (flow : Flow p config d s t) :
    d.link.channel.lastId + 1 = t.first + t.written.length + t.queued.length := by
  rw [flow.numbered, List.length_append, Nat.add_assoc]

/-- An order goes into the queue. -/
theorem carry (flow : Flow p config d s t) {o : Order} {rest : List Order}
    (ordered : t.ordered = o :: rest) (now : Millis) :
    ∃ l', d.link.perform? now .command = some (l', []) ∧
      Flow p config { d with link := l' } s
        { t with queued := t.queued ++ [o], ordered := rest } := by
  have working := flow.working
  have commands := flow.commands
  have number := flow.next_number
  rw [Transit.commands, ordered, List.map_cons, List.cons_append] at commands
  have stepped := fun left => Working.step (l := { d.link with commands := left })
    { working with } now (Working.command { working with } _ o) working.ended
  refine ⟨{ d.link with
    channel := queue config now d.link.channel o
    commands := rest.map (Order.command config) ++ if t.stopping then [.stop] else [] }, ?_, ?_⟩
  · simp only [Link.perform?, working.ended, Bool.false_eq_true, if_false, commands, stepped]
    simp only [queue, working.ended, Bool.false_eq_true, if_false, List.append_nil, Link.written,
      List.flatMap_nil, wrote_nil]
    rfl
  · exact { flow with
      working := { working with }
      commands := rfl
      outbox := by
        rw [messages_append, ← flow.outbox, ← number]
        rfl
      numbered := by
        rw [queue, number]
        simp only [List.length_append, List.length_singleton]
        omega
      due := by
        intro _
        cases due : d.link.channel.flushDue with
        | some at_ => exact ⟨at_, by rw [queue, due, Option.some_or]⟩
        | none => exact ⟨_, by rw [queue, due, Option.none_or]⟩
      registered := by
        have last : Transit.questions { t with queued := t.queued ++ [o], ordered := rest } =
            t.questions ++ asked (d.link.channel.lastId + 1) [o] := by
          rw [Transit.questions, Transit.questions, flow.numbered, ← List.append_assoc t.written,
            asked_append, List.append_assoc]
        rw [last]
        exact flow.registered.order config now o
      right := flow.right }

/-- The queue goes into the pipe. -/
theorem flush (flow : Flow p config d s t) (outOfBand : config.channel.delimiting.OutOfBand)
    {due now : Millis} (scheduled : d.link.channel.flushDue = some due) (come : due ≤ now) :
    ∃ l', d.link.perform? now .flush = some (l', d.link.channel.outbox.map .write) ∧
      (t.queued ≠ [] → l'.line.outbound.octets ≠ []) ∧
      Flow p config { d with link := l' } s
        { t with written := t.written ++ t.queued, queued := [] } := by
  have working := flow.working
  have listed := messages_carried (t.first + t.written.length) t.queued
  rw [← flow.outbox] at listed
  have stepped : d.link.channel.step (d.link.surroundings now) .flush =
      ({ d.link.channel with flushDue := none, outbox := [] },
        d.link.channel.outbox.map .write) := by
    simp only [Channel.step, working.ended, Bool.false_eq_true, if_false, Channel.flush,
      Channel.isRunning, working.running, beq_self_eq_true, if_true, working.config]
    rw [map_writeEffect outOfBand listed]
    simp only [Link.surroundings, working.heard, Bool.not_false, implies_true]
  refine ⟨{ wrote d.link (d.link.channel.outbox.flatMap (wire config.channel.delimiting)) with
    channel := { d.link.channel with flushDue := none, outbox := [] } }, ?_, ?_, ?_⟩
  · simp only [Link.perform?, scheduled, come, working.ended, decide_true, Bool.not_false,
      Bool.and_self, if_true]
    rw [working.step now stepped working.ended]
    simp only [working.config, working.ended, written_writes outOfBand listed]
  · intro some_
    obtain ⟨o, os, queued⟩ := List.exists_cons_of_ne_nil some_
    rw [flow.outbox, queued, messages, List.flatMap_cons]
    simp [wrote, wire]
  · have wires := holds_wires outOfBand _ listed
    refine
      { flow with
        working := { working with }
        commands := flow.commands
        outbox := rfl
        numbered := ?_
        due := fun none_ => absurd rfl none_
        outbound := ?_
        inbound := flow.inbound
        right := flow.right
        registered := ?_ }
    · rw [List.append_nil]
      exact flow.numbered
    · have more := flow.outbound.write working.speaking wires
      rw [messages_append, ← flow.outbox]
      exact more
    · have questions := flow.registered
      rw [Transit.questions] at questions ⊢
      rw [List.append_nil]
      exact questions

/-- A reply finds its request. -/
theorem dispatch (flow : Flow p config d s t) {r : Reply} {rest : List Reply}
    (replied : t.replied = r :: rest) (env : Channel.Surroundings) :
    d.link.channel.step env (.frame (.ok r.message)) =
        ({ d.link.channel with requests :=
            d.link.channel.requests.erase (toString r.number) },
          [.complete r.answer.query (.ok r.answer.data)]) ∧
      Registered (d.link.channel.requests.erase (toString r.number)).pending
        (Transit.questions { t with replied := rest }) (d.link.channel.lastId + 1) := by
  have registered := flow.registered
  rw [Transit.questions, replied, List.map_cons, List.cons_append] at registered
  obtain ⟨x, found, id, asker⟩ := registered.find
  have silent : r.message.isPing = false := beq_false_of_ne r.answer.query.type_ne_ping
  have answers : d.link.channel.answered? r.message = some x := found
  refine ⟨?_, registered.erase⟩
  simp only [Channel.step, flow.working.ended, Bool.false_eq_true, if_false, Channel.dispatch,
    silent, answers, id, asker]
  rfl

/-- What the channel reads. -/
inductive Reading (p : ScriptedProgram) (config : Config) (d : Debuggee) (s : ScriptedInterpreter)
    (t : Transit) : Option (Link Query × List (Effect Query)) → Prop where
  | idle (waiting : d.link.line.inbound.octets ≠ [] → t.replied = []) : Reading p config d s t none
  | nothing {l : Link Query} (waiting : d.link.line.inbound.octets ≠ [] → t.replied = [])
      (left : Flow p config { d with link := l } s t) : Reading p config d s t (some (l, []))
  | reply {l : Link Query} {r : Reply} {rest : List Reply} (replied : t.replied = r :: rest)
      (left : Flow p config
        { d with link := l, answers := d.answers ++ [(r.answer.query, .ok r.answer.data)] } s
        { t with replied := rest, answered := t.answered ++ [r.answer] }) :
      Reading p config d s t (some (l, [.complete r.answer.query (.ok r.answer.data)]))

theorem read (flow : Flow p config d s t) (now : Millis) :
    Reading p config d s t (d.link.perform? now .read) := by
  have working := flow.working
  have taking := flow.inbound.take
  simp only [Link.perform?, working.ended, working.readerOpen, Bool.not_true, Bool.or_self,
    Bool.false_eq_true, if_false]
  generalize d.link.intake.take d.link.line.inbound = attempt at taking
  cases taking with
  | @nothing k octets left waiting =>
      have waiting : d.link.line.inbound.octets ≠ [] → t.replied = [] := fun some_ =>
        List.map_eq_nil_iff.mp (waiting some_)
      dsimp only
      split
      · exact .idle waiting
      · refine .nothing waiting ?_
        exact { flow with working := { working with }, inbound := left, right := flow.right }
  | ended gone _ _ => exact absurd gone (by simp [working.spoken])
  | @first k m rest octets messages left =>
      obtain ⟨r, replied, same, rfl, rfl⟩ := List.map_eq_cons_iff.mp messages
      obtain ⟨-, registered⟩ := flow.dispatch same {}
      have stepped := Working.step
        (l := { d.link with
          intake := k
          line := { d.link.line with inbound := { d.link.line.inbound with octets } } })
        { working with } now (flow.dispatch same _).1 working.ended
      dsimp only
      rw [stepped]
      simp only [Link.written, List.flatMap_cons, List.flatMap_nil, List.append_nil, wrote_nil]
      refine .reply same ?_
      refine
        { flow with
          working := { working with }
          commands := flow.commands
          inbound := left
          answers := ?_
          right := ?_
          registered := registered }
      · rw [flow.answers, List.map_append, List.map_singleton]
      · have right := flow.right
        rw [Transit.answers, same, List.map_cons] at right
        rw [Transit.answers, List.append_assoc]
        exact right

/-! ## The interpreter -/

/-- What the interpreter reads. -/
inductive Serving (p : ScriptedProgram) (config : Config) (d : Debuggee) (t : Transit) :
    Option (ScriptedInterpreter × Line) → Prop where
  | idle (waiting : d.link.line.outbound.octets ≠ [] → t.written = []) : Serving p config d t none
  | nothing {s : ScriptedInterpreter} {line : Line}
      (waiting : d.link.line.outbound.octets ≠ [] → t.written = [])
      (left : Flow p config { d with link := { d.link with line } } s t) :
      Serving p config d t (some (s, line))
  | step {s : ScriptedInterpreter} {line : Line} {rest : List Order}
      (written : t.written = .step :: rest)
      (left : Flow p config { d with link := { d.link with line } } s
        { t with written := rest, first := t.first + 1, made := t.made + 1 }) :
      Serving p config d t (some (s, line))
  | answer {s : ScriptedInterpreter} {line : Line} {q : Query} {rest : List Order} {id : String}
      {data : Json} (written : t.written = .ask q :: rest)
      (reported : p.answer? t.made q.type = some data) (heard : line.inbound.octets ≠ [])
      (left : Flow p config { d with link := { d.link with line } } s
        { t with
          written := rest
          first := t.first + 1
          replied := t.replied ++ [⟨t.first, id, q, t.made, data⟩] }) :
      Serving p config d t (some (s, line))
  | silence {s : ScriptedInterpreter} {line : Line} {q : Query} {rest : List Order}
      (written : t.written = .ask q :: rest) (unreported : p.answer? t.made q.type = none)
      (left : Flow p config { d with link := { d.link with line } } s
        { t with written := rest, first := t.first + 1 }) :
      Serving p config d t (some (s, line))

/-- The first order in the pipe is read, and answered by `more`. -/
theorem taken (flow : Flow p config d s t) {o : Order} {rest : List Order} (more : List Reply)
    {made : Nat} (s' : ScriptedInterpreter) {sent received : Bytes} (written : t.written = o :: rest)
    (outbound : s'.intake.Carries config.channel.delimiting
      { d.link.line.outbound with octets := sent } (messages (t.first + 1) rest))
    (inbound : d.link.intake.Carries config.channel.delimiting
      { d.link.line.inbound with octets := received } ((t.replied ++ more).map Reply.message))
    (alive : s'.ended = false) (script : s'.script.At p made) (later : t.made ≤ made)
    (right : ∀ r ∈ more, r.answer.Right p made)
    (part : (more.map (fun r => (r.number, r.answer.query)) ++
      asked (t.first + 1) (rest ++ t.queued)).Sublist (asked t.first (o :: rest ++ t.queued))) :
    Flow p config
      { d with link := { d.link with
          line := { inbound := { d.link.line.inbound with octets := received }
                    outbound := { d.link.line.outbound with octets := sent } } } }
      s' { t with written := rest, first := t.first + 1, made, replied := t.replied ++ more } := by
  have number := flow.next_number
  rw [written, List.length_cons] at number
  refine
    { flow with
      working := { flow.working with }
      outbox := ?_
      numbered := ?_
      outbound := outbound
      inbound := inbound
      right := ?_
      registered := ?_
      script := script
      alive := alive }
  · have outbox := flow.outbox
    rw [written, List.length_cons,
      show t.first + (rest.length + 1) = t.first + 1 + rest.length by omega] at outbox
    exact outbox
  · show d.link.channel.lastId + 1 = t.first + 1 + (rest ++ t.queued).length
    rw [List.length_append]
    omega
  · intro a member
    rw [Transit.answers, List.map_append, ← List.append_assoc] at member
    obtain old | new := List.mem_append.mp member
    · obtain ⟨past, reported⟩ := flow.right a old
      exact ⟨past.trans later, reported⟩
    · obtain ⟨r, listed, rfl⟩ := List.mem_map.mp new
      exact right r listed
  · have registered := flow.registered
    rw [Transit.questions, written] at registered
    refine registered.sublist ?_
    rw [Transit.questions, List.map_append, List.append_assoc]
    exact (List.Sublist.refl _).append part

theorem serve (flow : Flow p config d s t) (fits : p.Fits)
    (outOfBand : config.channel.delimiting.OutOfBand) :
    Serving p config d t (s.read? d.link.line) := by
  have working := flow.working
  have taking := flow.outbound.take
  simp only [ScriptedInterpreter.read?, flow.alive, Bool.false_eq_true, if_false]
  generalize s.intake.take d.link.line.outbound = attempt at taking
  cases taking with
  | @nothing k octets left waiting =>
      have waiting : d.link.line.outbound.octets ≠ [] → t.written = [] := by
        intro some_
        have none_ := waiting some_
        cases written : t.written with
        | nil => rfl
        | cons o os =>
            rw [written] at none_
            cases none_
      dsimp only
      split
      · exact .idle waiting
      · refine .nothing waiting ?_
        exact { flow with
          working := { working with }
          outbound := left
          right := flow.right
          script := flow.script
          alive := rfl }
  | ended gone _ _ => exact absurd gone (by simp [working.speaking])
  | @first k m rest octets messages left =>
      dsimp only
      cases written : t.written with
      | nil =>
          rw [written] at messages
          cases messages
      | cons o os =>
          rw [written] at messages
          cases messages
          obtain ⟨here, answered⟩ := flow.script.receive (o.message t.first)
          simp only [ScriptedInterpreter.receive, answered]
          generalize (s.script.receive (o.message t.first)).1 = script at here
          generalize (if ScriptedInterpreter.isNotable (o.message t.first) then
            s.noted ++ [o.message t.first] else s.noted) = noted
          have quiet : d.link.intake.Carries config.channel.delimiting d.link.line.inbound
              ((t.replied ++ []).map Reply.message) := by
            rw [List.append_nil]
            exact flow.inbound
          cases o with
          | step =>
              simp only [Order.message, Order.type, if_true] at here ⊢
              rw [ScriptedProgram.answer?_step]
              refine .step written ?_
              have left := flow.taken [] { s with script, intake := k, noted }
                written left quiet flow.alive here (Nat.le_succ _) (by simp) (List.Sublist.refl _)
              rw [List.append_nil, flow.alive] at left
              exact left
          | ask q =>
              have other := q.type_ne_step
              simp only [Order.message, Order.type, other, if_false] at here ⊢
              cases reported : p.answer? t.made q.type with
              | some data =>
                  have carried := ScriptedProgram.answer?_carried fits reported
                  have sent := send_eq (s := { s with script, intake := k, noted })
                    (l := { d.link.line with outbound := { d.link.line.outbound with octets } })
                    outOfBand flow.alive left.delimiting working.hearing working.spoken q.type
                    (some (toString t.first)) carried
                  rw [flow.alive] at sent
                  dsimp only at sent ⊢
                  rw [sent]
                  refine @Serving.answer _ _ _ _ _ _ q os ("stub-" ++ toString (s.written + 1)) data
                    written reported (by simp [wire]) ?_
                  -- The request leaves one pipe, and its reply enters the other under its number.
                  refine flow.taken [_] _ written left ?_ rfl here (Nat.le_refl _) ?_ (List.Sublist.refl _)
                  · rw [List.map_append]
                    refine flow.inbound.write working.spoken (holds_wire outOfBand carried)
                  · intro r member
                    cases List.mem_singleton.mp member
                    exact ⟨Nat.le_refl _, reported⟩
              | none =>
                  -- No reply is written: the question stays among those that wait.
                  refine .silence written reported ?_
                  have left := flow.taken [] { s with script, intake := k, noted }
                    written left quiet flow.alive here (Nat.le_refl _) (by simp)
                    (List.sublist_cons_self ..)
                  rw [List.append_nil, flow.alive] at left
                  exact left

theorem start (fits : p.Fits) (config : Config) (now : Millis) :
    Flow p config (.start config now)
      (.start p.script config.channel.delimiting) {} where
  configured := rfl
  working := by constructor <;> simp [Debuggee.start, Link.overPipe, Channel.overPipe]
  commands := rfl
  outbox := rfl
  numbered := rfl
  due := fun some_ => absurd rfl some_
  outbound := Framing.Intake.carries_start _
  inbound := Framing.Intake.carries_start _
  answers := rfl
  right := by simp [Transit.answers]
  reports := rfl
  registered := Registered.nil _
  script := Interpreter.Script.at_start fits.nonempty
  alive := rfl

end Flow

end DebugAdapter.Monitor
