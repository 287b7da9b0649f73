import DebugAdapter.Proofs.Monitor.Flow
/-!
# What each activity means to what is on its way

An activity moves something one place further, adds questions at the end of what is owed, or settles
the first of it. Only the interpreter can drop a question, one that it never answers.
-/

namespace DebugAdapter.Monitor

open Channel (Effect Link RequestError)
open Framing (Line)
open Interpreter (ScriptedInterpreter ScriptedProgram)

/-- Activities that let no deadline pass and settle the answers in the order in which they came. -/
def InOrder : Debuggee.Activity → Prop
  | .link move => move ≠ .expire
  | .settle i => i = 0
  | .forward | .poll | .fetch => True

/-- What an activity means to the monitor, to what is owed to it, and to what it reports. -/
inductive Turn (p : ScriptedProgram) (now : Millis) (m : Monitor) (t : Transit) :
    Monitor → Transit → List Event → Prop where
  | pass {t' : Transit} (owed : t'.owed = t.owed) (sent : t'.sent = t.sent)
      (made : t.made ≤ t'.made) : Turn p now m t m t' []
  | drop {t' : Transit} {front back : List (Query × Nat)} {q : Query} {n : Nat}
      (unreported : p.answer? n q.type = none) (before : t.owed = front ++ (q, n) :: back)
      (after : t'.owed = front ++ back) (sent : t'.sent = t.sent) (made : t'.made = t.made) :
      Turn p now m t m t' []
  | poll {t' : Transit} (polling : m.nextPoll ≠ none)
      (owed : t'.owed = t.owed ++ parts.map fun q => (.part (m.ticksStarted + 1) q, t.sent))
      (sent : t'.sent = t.sent) (made : t'.made = t.made) :
      Turn p now m t (m.poll now .running).1 t' []
  | fetch {t' : Transit} {due : Millis} (waiting : m.fetch = .waiting due)
      (owed : t'.owed = t.owed ++ [(.debugInfo, t.sent), (.code, t.sent)])
      (sent : t'.sent = t.sent) (made : t'.made = t.made) :
      Turn p now m t (m.fetchCode .running).1 t' []
  | settle {t' : Transit} (a : Answer) (right : a.Right p t.made)
      (owed : t.owed = (a.query, a.stage) :: t'.owed) (sent : t'.sent = t.sent)
      (made : t'.made = t.made) :
      Turn p now m t (m.answer a.query (.ok a.data)).1 t' (m.answer a.query (.ok a.data)).2

theorem Turn.same {p : ScriptedProgram} (now : Millis) {m : Monitor} {t t' : Transit}
    (answers : t'.answers = t.answers) (orders : t'.orders = t.orders) (made : t'.made = t.made) :
    Turn p now m t m t' [] := by
  refine .pass ?_ ?_ (Nat.le_of_eq made.symm)
  · rw [Transit.owed, Transit.owed, answers, orders, made]
  · rw [Transit.sent, Transit.sent, orders, made]

section

variable {p : ScriptedProgram} (now : Millis) {m : Monitor} {t : Transit} {q : Query}
  {rest : List Order}

theorem Turn.step (written : t.written = .step :: rest) :
    Turn p now m t m { t with written := rest, first := t.first + 1, made := t.made + 1 } [] := by
  refine .pass ?_ ?_ (Nat.le_succ _)
  · simp only [Transit.owed, Transit.answers, Transit.orders, written, List.cons_append, staged]
  · simp only [Transit.sent, Transit.orders, written, List.cons_append, steps]
    omega

theorem Turn.reply {n : Nat} {id : String} {data : Json} (written : t.written = .ask q :: rest) :
    Turn p now m t m { t with
      written := rest
      first := t.first + 1
      replied := t.replied ++ [⟨n, id, q, t.made, data⟩] } [] := by
  refine .pass ?_ ?_ (Nat.le_refl _)
  · simp only [Transit.owed, Transit.answers, Transit.orders, written, List.cons_append, staged,
      List.map_append, List.append_assoc, List.map_cons, List.map_nil, List.nil_append]
  · simp only [Transit.sent, Transit.orders, written, List.cons_append, steps]

theorem Turn.silence (written : t.written = .ask q :: rest)
    (unreported : p.answer? t.made q.type = none) :
    Turn p now m t m { t with written := rest, first := t.first + 1 } [] := by
  refine @Turn.drop _ _ _ _ _ (t.answers.map fun a => (a.query, a.stage)) _ _ _ unreported ?_ rfl ?_ rfl
  · simp only [Transit.owed, Transit.orders, written, List.cons_append, staged]
  · simp only [Transit.sent, Transit.orders, written, List.cons_append, steps]

end

/-! ## What no activity takes back -/

/-- Whether a monitor has reported the end of the program if it knows of it. -/
def Announced (m : Monitor) : Prop := m.snapshot.state.isTerminal = true → m.doneReported = true

/-- What stays as it is in a monitor while it watches an interpreter, and what only grows. -/
structure Grows (m m' : Monitor) : Prop where
  config : m'.config = m.config
  disposed : m'.disposed = m.disposed
  started : m.ticksStarted ≤ m'.ticksStarted
  refreshed : m.refreshed ≤ m'.refreshed
  codeSettled : m.codeSettled = true → m'.codeSettled = true
  polling : m.nextPoll ≠ none → m'.nextPoll ≠ none
  doneReported : m.doneReported = true → m'.doneReported = true
  fetched : (∀ due, m.fetch ≠ .waiting due) → ∀ due, m'.fetch ≠ .waiting due
  announced : Announced m → Announced m'

theorem Grows.refl (m : Monitor) : Grows m m where
  config := rfl
  disposed := rfl
  started := Nat.le_refl _
  refreshed := Nat.le_refl _
  codeSettled := id
  polling := id
  doneReported := id
  fetched := id
  announced := id

section

variable (m : Monitor)

theorem poll_grows (now : Millis) : Grows m (m.poll now .running).1 := by
  unfold poll
  cases scheduled : m.nextPoll with
  | none => exact .refl m
  | some due => exact { Grows.refl m with started := Nat.le_succ _, polling := by simp }

theorem fetchCode_grows : Grows m (m.fetchCode .running).1 :=
  { Grows.refl m with fetched := by simp [fetchCode] }

theorem noteState_grows (tick : Nat) (state : Interpreter.State) :
    Grows m (m.noteState tick state).1 :=
  { Grows.refl m with
    refreshed := Nat.le_max_left ..
    doneReported := fun reported => by simp [noteState, reported]
    announced := fun _ terminal => by
      replace terminal : state.isTerminal = true := terminal
      cases m.doneReported <;> simp [noteState, terminal] }

theorem conclude_grows (r : Refresh) : Grows m (m.conclude r).1 := by
  unfold conclude
  split
  · split
    · exact { noteState_grows { m with refreshes := _ } r.tick _ with }
    · exact { Grows.refl m with }
  · exact { Grows.refl m with }

theorem noteCode_grows (info : Option (Option (List Interpreter.DebugInfo)))
    (code : Option (Option (List Interpreter.Instruction))) : Grows m (m.noteCode info code) := by
  unfold noteCode
  split
  · exact { Grows.refl m with codeSettled := fun _ => rfl, fetched := by simp }
  · exact { Grows.refl m with fetched := by simp }

/-- The state is noted when a tick is over, and the compiled code is not asked for in a tick. -/
theorem noteDetail_kept (s : Program.Snapshot) (q : Part) (a : Except RequestError Json) :
    (noteDetail s q a).state = s.state ∧ (noteDetail s q a).debugInfo = s.debugInfo := by
  cases q with
  | registers =>
      unfold noteDetail
      cases read? Interpreter.Registers.decoder a <;> exact ⟨rfl, rfl⟩
  | stack =>
      unfold noteDetail
      cases read? Interpreter.StackDump.decoder a <;> exact ⟨rfl, rfl⟩
  | callStack =>
      unfold noteDetail
      cases read? (Decode.list Decode.string) a <;> exact ⟨rfl, rfl⟩
  | state => exact ⟨rfl, rfl⟩

theorem answer_grows (q : Query) (a : Except RequestError Json) : Grows m (m.answer q a).1 := by
  cases q with
  | part tick q =>
      have noted (announced : Announced m) :
          Announced { m with snapshot := noteDetail m.snapshot q a } := by
        rwa [Announced, (noteDetail_kept ..).1]
      simp only [answer]
      split
      · have concluded := conclude_grows { m with snapshot := noteDetail m.snapshot q a }
        exact { concluded _ with announced := fun announced => (concluded _).announced (noted announced) }
      · exact { Grows.refl m with announced := noted }
  | debugInfo | code =>
      simp only [answer]
      split
      · exact noteCode_grows ..
      · exact .refl m

end

theorem Turn.grows {p : ScriptedProgram} {now : Millis} {m m' : Monitor} {t t' : Transit}
    {es : List Event} (turn : Turn p now m t m' t' es) : Grows m m' := by
  cases turn with
  | pass | drop => exact .refl m
  | poll => exact poll_grows m now
  | fetch => exact fetchCode_grows m
  | settle a => exact answer_grows m a.query (.ok a.data)

namespace Flow

variable {p : ScriptedProgram} {config : Config} {d d' : Debuggee} {s s' : ScriptedInterpreter}
  {t : Transit} {now : Millis}

/-- A move of the link takes something one place further, unless it is the end. -/
theorem link (flow : Flow p config d s t) (outOfBand : config.channel.delimiting.OutOfBand)
    {move : Channel.Move} (inOrder : move ≠ .expire)
    (more : move = .command → t.stopping = true → t.ordered ≠ [])
    (h : d.perform? now (.link move) = some d') :
    ∃ t', Flow p config d' s t' ∧ t'.stopping = t.stopping ∧ d'.news = d.news ∧
      Turn p now d.monitor t d'.monitor t' [] := by
  have working := flow.working
  simp only [Debuggee.perform?] at h
  obtain ⟨⟨l, effects⟩, moved, rfl⟩ := Option.map_eq_some_iff.mp h
  cases move with
  | command =>
      cases ordered : t.ordered with
      | nil =>
          have going : t.stopping = false := by
            rw [← Bool.not_eq_true]
            exact fun stopping => more rfl stopping ordered
          have none_ : d.link.commands = [] := by
            rw [flow.commands, Transit.commands, ordered, going]
            rfl
          simp [Link.perform?, working.ended, none_, working.held] at moved
      | cons o rest =>
          obtain ⟨l', carried, left⟩ := flow.carry ordered now
          cases moved.symm.trans carried
          rw [show [] = List.map Effect.write [] from rfl, absorb_writes]
          refine ⟨_, left, rfl, rfl, .same _ rfl ?_ rfl⟩
          simp [Transit.orders, ordered]
  | read =>
      have reading := flow.read now
      rw [moved] at reading
      cases reading with
      | nothing waiting left =>
          rw [show [] = List.map Effect.write [] from rfl, absorb_writes]
          exact ⟨_, left, rfl, rfl, .same _ rfl rfl rfl⟩
      | reply replied left =>
          rw [absorb_complete]
          refine ⟨_, left, rfl, rfl, .same _ ?_ rfl rfl⟩
          simp [Transit.answers, replied]
  | complain => simp [Link.perform?, Link.complain?, working.uncomplaining] at moved
  | reap => simp [Link.perform?, working.ended, working.childless] at moved
  | flush =>
      cases scheduled : d.link.channel.flushDue with
      | none => simp [Link.perform?, scheduled] at moved
      | some due =>
          have come : due ≤ now := by
            refine Nat.le_of_not_lt fun early => ?_
            simp [Link.perform?, scheduled, Nat.not_le.mpr early] at moved
          obtain ⟨l', flushed, -, left⟩ := flow.flush outOfBand scheduled come
          cases moved.symm.trans flushed
          rw [absorb_writes]
          refine ⟨_, left, rfl, rfl, .same _ rfl ?_ rfl⟩
          simp [Transit.orders]
  | expire => exact absurd rfl inOrder

/-- The answer that came first is settled. -/
theorem settle (flow : Flow p config d s t) {a : Answer} {rest : List Answer}
    (answered : t.answered = a :: rest) (now : Millis) :
    ∃ d', d.perform? now (.settle 0) = some d' ∧
      d'.news = d.news ++ (d.monitor.answer a.query (.ok a.data)).2 ∧
      Flow p config d' s { t with answered := rest } ∧
      Turn p now d.monitor t d'.monitor { t with answered := rest }
        (d.monitor.answer a.query (.ok a.data)).2 := by
  obtain ⟨found, right, left⟩ := flow.settled answered
  refine ⟨_, ?_, rfl, left.of_monitor (answer_grows ..).config _, .settle a right ?_ rfl rfl⟩
  · simp only [Debuggee.perform?, found]
  · simp only [Transit.owed, Transit.answers, Transit.orders, answered, List.cons_append,
      List.map_cons]

/-- The interpreter reads an order, and answers it or does not. -/
theorem interpreted (flow : Flow p config d s t) (now : Millis) (fits : p.Fits)
    (outOfBand : config.channel.delimiting.OutOfBand) {line : Line}
    (h : s.read? d.link.line = some (s', line)) :
    ∃ t', Flow p config { d with link := { d.link with line } } s' t' ∧ t'.stopping = t.stopping ∧
      Turn p now d.monitor t d.monitor t' [] := by
  have serving := flow.serve fits outOfBand
  rw [h] at serving
  cases serving with
  | nothing waiting left => exact ⟨t, left, rfl, .same _ rfl rfl rfl⟩
  | step written left => exact ⟨_, left, rfl, .step _ written⟩
  | answer written reported _ left => exact ⟨_, left, rfl, .reply _ written⟩
  | silence written unreported left => exact ⟨_, left, rfl, .silence _ written unreported⟩

/-- The monitor asks some questions. -/
theorem asking (flow : Flow p config d s t) (going : t.stopping = false) {m : Monitor}
    (same : m.config = d.monitor.config) (news : List Event) (qs : List Query) :
    Flow p config ({ d with monitor := m, news }.askAll qs) s
        { t with ordered := t.ordered ++ qs.map .ask } ∧
      ({ d with monitor := m, news }.askAll qs).monitor = m ∧
      ({ d with monitor := m, news }.askAll qs).news = news ∧
      Transit.sent { t with ordered := t.ordered ++ qs.map .ask } = t.sent ∧
      Transit.owed { t with ordered := t.ordered ++ qs.map .ask } =
        t.owed ++ qs.map (·, t.sent) := by
  obtain ⟨left, monitor, heard⟩ := (flow.of_monitor same news).askAll going qs
  refine ⟨left, monitor, heard, ?_, ?_⟩
  · simp only [Transit.sent, Transit.orders, ← List.append_assoc, steps_append _ (qs.map .ask),
      steps_asks, Nat.add_zero]
  · simp only [Transit.owed, Transit.orders, Transit.sent, ← List.append_assoc,
      staged_append t.made _ (qs.map .ask), staged_asks]
    rfl

/-- A tick begins. -/
theorem poll (flow : Flow p config d s t) (going : t.stopping = false) {due : Millis}
    (scheduled : d.monitor.nextPoll = some due) (come : due ≤ now) :
    ∃ d', d.perform? now .poll = some d' ∧ d'.news = d.news ∧
      d'.monitor = (d.monitor.poll now .running).1 ∧
      Flow p config d' s { t with ordered :=
        t.ordered ++ (parts.map (.part (d.monitor.ticksStarted + 1))).map .ask } ∧
      Turn p now d.monitor t d'.monitor { t with ordered :=
        t.ordered ++ (parts.map (.part (d.monitor.ticksStarted + 1))).map .ask } [] := by
  have running : d.status = .running := flow.working.running
  have asked : (d.monitor.poll now .running).2 =
      (parts.map (.part (d.monitor.ticksStarted + 1)), []) := by
    simp only [Monitor.poll, scheduled, if_true]
  obtain ⟨left, monitor, news, sent, owed⟩ :=
    flow.asking going (poll_grows d.monitor now).config (d.news ++ (d.monitor.poll now .running).2.2)
      (d.monitor.poll now .running).2.1
  rw [asked] at left monitor news sent owed
  refine ⟨_, ?_, news.trans (List.append_nil _), monitor, left, ?_⟩
  · simp only [Debuggee.perform?, scheduled, come, if_true, running, asked]
  · rw [monitor]
    refine .poll (by simp [scheduled]) ?_ sent rfl
    rw [owed, List.map_map]
    rfl

/-- The compiled code is asked for. -/
theorem fetch (flow : Flow p config d s t) (going : t.stopping = false) {due : Millis}
    (waiting : d.monitor.fetch = .waiting due) (come : due ≤ now) :
    ∃ d', d.perform? now .fetch = some d' ∧ d'.news = d.news ∧
      d'.monitor = (d.monitor.fetchCode .running).1 ∧
      Flow p config d' s { t with ordered := t.ordered ++ [.ask .debugInfo, .ask .code] } ∧
      Turn p now d.monitor t d'.monitor
        { t with ordered := t.ordered ++ [.ask .debugInfo, .ask .code] } [] := by
  have running : d.status = .running := flow.working.running
  obtain ⟨left, monitor, news, sent, owed⟩ :=
    flow.asking going (fetchCode_grows d.monitor).config d.news (d.monitor.fetchCode .running).2
  refine ⟨_, ?_, news, monitor, left, ?_⟩
  · simp only [Debuggee.perform?, waiting, come, if_true, running]
  · rw [monitor]
    exact .fetch waiting owed sent rfl

theorem perform (flow : Flow p config d s t) (outOfBand : config.channel.delimiting.OutOfBand)
    (going : t.stopping = false) {a : Debuggee.Activity} (inOrder : InOrder a)
    (h : d.perform? now a = some d') :
    ∃ t' es, Flow p config d' s t' ∧ t'.stopping = false ∧ d'.news = d.news ++ es ∧
      Turn p now d.monitor t d'.monitor t' es := by
  cases a with
  | link move =>
      obtain ⟨t', left, stopping, news, turn⟩ := flow.link outOfBand inOrder (by simp [going]) h
      exact ⟨t', [], left, stopping.trans going, by rw [news, List.append_nil], turn⟩
  | forward => simp [Debuggee.perform?, flow.reports] at h
  | settle i =>
      cases inOrder
      cases answered : t.answered with
      | nil => simp [Debuggee.perform?, flow.answers, answered] at h
      | cons a rest =>
          obtain ⟨d₁, performed, news, left, turn⟩ := flow.settle answered now
          cases h.symm.trans performed
          exact ⟨_, _, left, going, news, turn⟩
  | poll =>
      cases scheduled : d.monitor.nextPoll with
      | none => simp [Debuggee.perform?, scheduled] at h
      | some due =>
          have come : due ≤ now := by
            refine Nat.le_of_not_lt fun early => ?_
            simp [Debuggee.perform?, scheduled, Nat.not_le.mpr early] at h
          obtain ⟨d₁, performed, news, -, left, turn⟩ := flow.poll going scheduled come
          cases h.symm.trans performed
          exact ⟨_, [], left, going, news.trans (List.append_nil _).symm, turn⟩
  | fetch =>
      cases fetch : d.monitor.fetch with
      | asked info code => simp [Debuggee.perform?, fetch] at h
      | «over» => simp [Debuggee.perform?, fetch] at h
      | waiting due =>
          have come : due ≤ now := by
            refine Nat.le_of_not_lt fun early => ?_
            simp [Debuggee.perform?, fetch, Nat.not_le.mpr early] at h
          obtain ⟨d₁, performed, news, -, left, turn⟩ := flow.fetch going fetch come
          cases h.symm.trans performed
          exact ⟨_, [], left, going, news.trans (List.append_nil _).symm, turn⟩

/-- The interpreter is told to execute an instruction. -/
theorem execute (flow : Flow p config d s t) (going : t.stopping = false) {w : Waiter}
    (h : d.execute? now = some (w, d')) :
    ∃ t', Flow p config d' s t' ∧ t'.stopping = false ∧ d'.monitor = d.monitor ∧
      d'.news = d.news ∧ w.issued = d.monitor.ticksStarted ∧ t'.sent = t.sent + 1 ∧
      t'.made = t.made ∧ t'.owed = t.owed := by
  have ordered := flow.order going [.step]
  simp only [Debuggee.execute?, Debuggee.send?, Link.send?, flow.working.ended] at h
  split at h
  · cases h
  · cases h
    refine ⟨_, ordered, going, rfl, rfl, rfl, ?_, rfl, ?_⟩
    · simp only [Transit.sent, Transit.orders, ← List.append_assoc, steps_append _ [.step], steps]
      omega
    · simp only [Transit.owed, Transit.orders, ← List.append_assoc, staged_append t.made _ [.step],
        staged, List.append_nil]
      rfl

end Flow

end DebugAdapter.Monitor
