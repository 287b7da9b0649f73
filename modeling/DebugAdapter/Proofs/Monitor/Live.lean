import DebugAdapter.Proofs.Monitor.Rounds
/-!
# Monitors at work

Everything that stays true while a monitor watches a scripted interpreter and no deadline passes:
where the orders and answers are, where the ticks stand, what is known of the compiled code. Whoever
drives the program has to look at nothing else.
-/

namespace DebugAdapter.Monitor

open Interpreter (ScriptedInterpreter ScriptedProgram)

/-! ## The compiled code -/

/-- What a monitor knows about the compiled code agrees with what is owed to it. -/
inductive Informed (p : ScriptedProgram) (m : Monitor) (owed : List (Query × Nat)) : Prop where
  | waiting {due : Millis} (fetch : m.fetch = .waiting due) (unsettled : m.codeSettled = false)
  | asked {info : Option (Option (List Interpreter.DebugInfo))}
      {code : Option (Option (List Interpreter.Instruction))} (fetch : m.fetch = .asked info code)
      (unsettled : m.codeSettled = false) (waits : info = none ∨ code = none)
      (infoOwed : info = none → ∃ n, (.debugInfo, n) ∈ owed)
      (codeOwed : code = none → ∃ n, (.code, n) ∈ owed)
      (known : ∀ x ∈ info, x = some p.debugInfo)
  | settled (fetch : m.fetch = .over) (settled : m.codeSettled = true)
      (known : m.snapshot.debugInfo = p.debugInfo)

section

variable {p : ScriptedProgram} {m m' : Monitor} {owed owed' : List (Query × Nat)}

/-- Only these parts of a monitor matter, and more may be owed. -/
theorem Informed.congr (informed : Informed p m owed) (fetch : m'.fetch = m.fetch)
    (codeSettled : m'.codeSettled = m.codeSettled)
    (debugInfo : m'.snapshot.debugInfo = m.snapshot.debugInfo)
    (kept : ∀ q n, q.part? = none → (q, n) ∈ owed → (q, n) ∈ owed') : Informed p m' owed' := by
  cases informed with
  | waiting same unsettled => exact .waiting (fetch.trans same) (codeSettled.trans unsettled)
  | asked same unsettled waits infoOwed codeOwed known =>
      refine .asked (fetch.trans same) (codeSettled.trans unsettled) waits ?_ ?_ known
      · intro none_
        obtain ⟨n, member⟩ := infoOwed none_
        exact ⟨n, kept _ _ rfl member⟩
      · intro none_
        obtain ⟨n, member⟩ := codeOwed none_
        exact ⟨n, kept _ _ rfl member⟩
  | settled same settled known =>
      exact .settled (fetch.trans same) (codeSettled.trans settled) (debugInfo.trans known)

/-- Ticks have nothing to do with the compiled code. -/
theorem answer_part (m : Monitor) (tick : Nat) (q : Part) (a : Except Channel.RequestError Json) :
    (m.answer (.part tick q) a).1.fetch = m.fetch ∧
      (m.answer (.part tick q) a).1.codeSettled = m.codeSettled ∧
      (m.answer (.part tick q) a).1.snapshot.debugInfo = m.snapshot.debugInfo := by
  have kept := (noteDetail_kept m.snapshot q a).2
  simp only [answer, conclude]
  split
  · split
    · split
      · exact ⟨rfl, rfl, kept⟩
      · exact ⟨rfl, rfl, kept⟩
    · exact ⟨rfl, rfl, kept⟩
  · exact ⟨rfl, rfl, kept⟩

theorem answer?_debugInfo (talking : p.silentCompiler = false) (n : Nat) :
    p.answer? n (Query.type .debugInfo) =
      some (.array (p.debugInfo.map Interpreter.DebugInfo.encode)) := by
  simp only [ScriptedProgram.answer?, ScriptedProgram.compilerAnswers, talking]
  rfl

theorem answer?_code (talking : p.silentCompiler = false) (n : Nat) :
    p.answer? n (Query.type .code) =
      some (.array (p.code.map Interpreter.Instruction.encode)) := by
  simp only [ScriptedProgram.answer?, ScriptedProgram.compilerAnswers, talking]
  rfl

theorem read?_debugInfo (fits : p.Fits) :
    read? (Decode.list Interpreter.DebugInfo.decoder)
      (.ok (.array (p.debugInfo.map Interpreter.DebugInfo.encode))) = some p.debugInfo := by
  have read : Decode.list Interpreter.DebugInfo.decoder .value
      (.ofJson (.array (p.debugInfo.map Interpreter.DebugInfo.encode))) = .ok p.debugInfo :=
    Decode.list_array fun info member =>
      Interpreter.DebugInfo.decoder_encode (fits.debugInfo info member) .value
  simp only [read?, Decode.fromJson, read]
  rfl

/-- An answer about the compiled code is put with the other one. -/
theorem Informed.settle (informed : Informed p m owed) (fits : p.Fits)
    (talking : p.silentCompiler = false) {made : Nat} {a : Answer} (right : a.Right p made)
    (owed_eq : owed = (a.query, a.stage) :: owed') :
    Informed p (m.answer a.query (.ok a.data)).1 owed' := by
  obtain ⟨query, stage, data⟩ := a
  subst owed_eq
  cases query with
  | part tick q =>
      obtain ⟨fetch, codeSettled, debugInfo⟩ := answer_part m tick q (.ok data)
      refine informed.congr fetch codeSettled debugInfo fun q' n other member => ?_
      obtain same | later := List.mem_cons.mp member
      · cases same
        cases other
      · exact later
  | debugInfo =>
      have reported := right.reported
      rw [answer?_debugInfo talking, Option.some_inj] at reported
      subst reported
      simp only [answer]
      cases informed with
      | waiting fetch unsettled =>
          rw [fetch]
          exact .waiting fetch unsettled
      | @asked info code fetch unsettled waits infoOwed codeOwed known =>
          rw [fetch, read?_debugInfo fits]
          cases code with
          | some c => exact .settled rfl rfl rfl
          | none =>
              refine .asked rfl unsettled (.inr rfl) (fun none_ => by cases none_) ?_ ?_
              · intro _
                obtain ⟨n, member⟩ := codeOwed rfl
                cases member with
                | tail _ later => exact ⟨n, later⟩
              · intro x known'
                cases known'
                rfl
      | settled fetch settled known =>
          rw [fetch]
          exact .settled fetch settled known
  | code =>
      simp only [answer]
      cases informed with
      | waiting fetch unsettled =>
          rw [fetch]
          exact .waiting fetch unsettled
      | @asked info code fetch unsettled waits infoOwed codeOwed known =>
          rw [fetch]
          cases info with
          | some x =>
              cases known x rfl
              exact .settled rfl rfl rfl
          | none =>
              refine .asked rfl unsettled (.inl rfl) ?_ (fun none_ => by cases none_) ?_
              · intro _
                obtain ⟨n, member⟩ := infoOwed rfl
                cases member with
                | tail _ later => exact ⟨n, later⟩
              · intro x known'
                cases known'
      | settled fetch settled known =>
          rw [fetch]
          exact .settled fetch settled known

theorem Turn.informed {t t' : Transit} {now : Millis} {es : List Event}
    (turn : Turn p now m t m' t' es) (fits : p.Fits) (talking : p.silentCompiler = false)
    (informed : Informed p m t.owed) : Informed p m' t'.owed := by
  cases turn with
  | pass owed sent made => exact owed ▸ informed
  | @drop _ _ _ q n unreported before after sent made =>
      -- Questions of a tick are always answered, and so are the others if the compiler talks.
      have other := part?_of_unreported unreported
      cases q with
      | part tick q => cases other
      | debugInfo =>
          rw [answer?_debugInfo talking] at unreported
          cases unreported
      | code =>
          rw [answer?_code talking] at unreported
          cases unreported
  | poll polling owed sent made =>
      obtain ⟨due, scheduled⟩ := Option.ne_none_iff_exists'.mp polling
      simp only [Monitor.poll, scheduled, if_true]
      refine informed.congr rfl rfl rfl fun q n _ member => ?_
      rw [owed]
      exact List.mem_append_left _ member
  | fetch waiting owed sent made =>
      cases informed with
      | waiting fetch unsettled =>
          refine .asked rfl unsettled (.inl rfl) ?_ ?_ (by simp)
          · exact fun _ => ⟨t.sent, by rw [owed]; simp⟩
          · exact fun _ => ⟨t.sent, by rw [owed]; simp⟩
      | asked fetch _ _ _ _ _ =>
          rw [waiting] at fetch
          cases fetch
      | settled fetch _ _ =>
          rw [waiting] at fetch
          cases fetch
  | settle a right owed sent made => exact informed.settle fits talking right owed

end

/-! ## All of it -/

/-- What is true of a monitor at work. -/
structure Live (p : ScriptedProgram) (config : Config) (d : Debuggee) (s : ScriptedInterpreter)
    (t : Transit) (r : Standing) : Prop where
  flow : Flow p config d s t
  going : t.stopping = false
  timely : Timely p d.monitor (outstanding t.owed) r
  noted : r.noted ≤ t.made
  ascending : Ascending r.noted t
  informed : p.silentCompiler = false → Informed p d.monitor t.owed
  polling : d.monitor.nextPoll ≠ none
  undisposed : d.monitor.disposed = false
  announced : Announced d.monitor
  finished : d.monitor.doneReported = true →
    ∃ n ≤ r.noted, (p.stepAfter n).state.isTerminal = true

/-- What a turn leaves to those who wait, and what it reports. -/
structure Moved (m : Monitor) (t : Transit) (r : Standing) (m' : Monitor) (t' : Transit)
    (r' : Standing) (es : List Event) : Prop where
  grows : Grows m m'
  sent : t'.sent = t.sent
  waits : ∀ issued, Awaits m r issued t.sent → Awaits m' r' issued t.sent
  events : es = if m'.doneReported && !m.doneReported then [.done] else []

namespace Live

variable {p : ScriptedProgram} {config : Config} {d d' : Debuggee} {s s' : ScriptedInterpreter}
  {t t' : Transit} {r : Standing} {now : Millis}

theorem start (fits : p.Fits) (config : Config) (now : Millis) :
    Live p config (.start config now) (.start p.script config.channel.delimiting) {} {} where
  flow := Flow.start fits config now
  going := rfl
  timely := Timely.start config now
  noted := Nat.le_refl 0
  ascending := by simp [Ascending, Transit.owed, Transit.answers, Transit.orders, staged]
  informed := fun _ => .waiting rfl rfl
  polling := by simp [Debuggee.start, Monitor.start]
  undisposed := rfl
  announced := fun terminal => by cases terminal
  finished := fun reported => by cases reported

theorem turn (live : Live p config d s t r) (d' : Debuggee) (fits : p.Fits) {es : List Event}
    (flow : Flow p config d' s' t') (going : t'.stopping = false)
    (turn : Turn p now d.monitor t d'.monitor t' es) :
    ∃ r', Live p config d' s' t' r' ∧ Moved d.monitor t r d'.monitor t' r' es := by
  obtain ⟨r', timely, noted, ascending, later, reports, waits⟩ :=
    turn.timely fits live.timely live.noted live.ascending
  obtain ⟨sent, made⟩ := turn.sent
  have grows := turn.grows
  refine ⟨r', ⟨flow, going, timely, noted, ascending, ?_, ?_, ?_, ?_, ?_⟩, grows, sent, ?_,
    reports.events⟩
  · exact fun talking => turn.informed fits talking (live.informed talking)
  · exact grows.polling live.polling
  · exact grows.disposed.trans live.undisposed
  · exact grows.announced live.announced
  · intro reported
    obtain before | now := reports.terminal reported
    · obtain ⟨n, past, terminal⟩ := live.finished before
      exact ⟨n, past.trans later, terminal⟩
    · exact now
  · exact fun issued waiting => sent ▸ waits issued waiting

theorem perform (live : Live p config d s t r) (fits : p.Fits)
    (outOfBand : config.channel.delimiting.OutOfBand) {a : Debuggee.Activity} (inOrder : InOrder a)
    (h : d.perform? now a = some d') :
    ∃ t' r' es, Live p config d' s t' r' ∧ Moved d.monitor t r d'.monitor t' r' es ∧
      d'.news = d.news ++ es := by
  obtain ⟨t', es, flow, going, news, turn⟩ := live.flow.perform outOfBand live.going inOrder h
  obtain ⟨r', live', moved⟩ := live.turn d' fits flow going turn
  exact ⟨t', r', es, live', moved, news⟩

theorem serve (live : Live p config d s t r) (fits : p.Fits)
    (outOfBand : config.channel.delimiting.OutOfBand) {line : Framing.Line}
    (h : s.read? d.link.line = some (s', line)) :
    ∃ t' r', Live p config { d with link := { d.link with line } } s' t' r' ∧
      Moved d.monitor t r d.monitor t' r' [] := by
  obtain ⟨t', flow, going, turn⟩ := live.flow.interpreted 0 fits outOfBand h
  obtain ⟨r', live', moved⟩ :=
    live.turn { d with link := { d.link with line } } fits flow (going.trans live.going) turn
  exact ⟨t', r', live', moved⟩

/-- What has been reported can be heard at any time. -/
theorem hear (live : Live p config d s t r) (news : List Event) :
    Live p config { d with news } s t r :=
  { live with flow := live.flow.of_monitor rfl news }

theorem execute (live : Live p config d s t r) {w : Waiter}
    (h : d.execute? now = some (w, d')) :
    ∃ t', Live p config d' s t' r ∧ t'.sent = t.sent + 1 ∧ d'.monitor = d.monitor ∧
      d'.news = d.news ∧ ∀ n, Awaits d'.monitor r w.issued n := by
  obtain ⟨t', flow, going, monitor, news, issued, sent, made, owed⟩ :=
    live.flow.execute live.going h
  refine ⟨t', ?_, sent, monitor, news, ?_⟩
  · constructor
    · exact flow
    · exact going
    · rw [monitor, owed]
      exact live.timely
    · exact made ▸ live.noted
    · exact live.ascending.order owed (by omega)
    · rw [monitor, owed]
      exact live.informed
    · exact monitor ▸ live.polling
    · exact monitor ▸ live.undisposed
    · exact monitor ▸ live.announced
    · rw [monitor]
      exact live.finished
  · rw [issued, monitor]
    exact awaits_next live.timely

/-- A monitor at work can tell its interpreter to execute an instruction. -/
theorem able (live : Live p config d s t r) (now : Millis) : ∃ w d', d.execute? now = some (w, d') := by
  have working := live.flow.working
  simp only [Debuggee.execute?, live.undisposed, Debuggee.isRunning, Channel.isRunning,
    working.running, beq_self_eq_true, Bool.not_true, Bool.or_self, Bool.false_eq_true, if_false,
    Debuggee.send?, Channel.Link.send?, working.ended, Option.map_some]
  exact ⟨_, _, rfl⟩

end Live

end DebugAdapter.Monitor
