import DebugAdapter.Proofs.Monitor.Progress
/-!
# The end of an interpreter

When a program has been executed, its interpreter is stopped. What is on its way may still arrive or
be lost, but it shows nothing but the end of the program; the interpreter makes no further step; and
the end is reported once.
-/

namespace DebugAdapter.Monitor

open Channel (Effect RequestError)
open Framing (Line)
open Interpreter (ScriptedInterpreter ScriptedProgram State)

/-! ## Monitors that know of the end -/

/-- Whether an answer shows no state of a program but that it has been executed. -/
def Late : Query → Except RequestError Json → Prop
  | .part _ .state, a => ∀ state ∈ read? State.decoder a, state = .codeExecuted
  | .part .., _ | .debugInfo, _ | .code, _ => True

theorem late_error (q : Query) (e : RequestError) : Late q (.error e) := by
  cases q with
  | part tick q => cases q <;> simp [Late, read?]
  | debugInfo | code => trivial

theorem late_answer {p : ScriptedProgram} {made : Nat} {a : Answer} (right : a.Right p made)
    (executed : (p.stepAfter a.stage).state = .codeExecuted) : Late a.query (.ok a.data) := by
  obtain ⟨query, stage, data⟩ := a
  cases query with
  | part tick q =>
      cases q with
      | state =>
          intro state read
          have shown : read? State.decoder (.ok data) = some (p.stepAfter stage).state :=
            read?_state right.reported
          rw [shown] at read
          cases read
          exact executed
      | registers | stack | callStack => trivial
  | debugInfo | code => trivial

/-- What a monitor knows that has stopped asking at the end of a program. -/
structure Concluded (m : Monitor) : Prop where
  disposed : m.disposed = true
  polling : m.nextPoll = none
  fetched : m.fetch = .over
  done : m.doneReported = true
  executed : m.snapshot.state = .codeExecuted
  refreshes : ∀ r ∈ m.refreshes, ∀ state ∈ r.state, state = .codeExecuted

namespace Concluded

variable {m : Monitor}

theorem conclude (concluded : Concluded m) {r : Refresh}
    (late : ∀ state ∈ r.state, state = .codeExecuted) :
    Concluded (m.conclude r).1 ∧ (m.conclude r).2 = [] := by
  have fewer : ∀ x ∈ m.refreshes.filter (·.tick ≠ r.tick), ∀ state ∈ x.state,
      state = .codeExecuted := fun x member => concluded.refreshes x (List.mem_filter.mp member).1
  unfold Monitor.conclude
  split
  · split
    · rename_i state known
      rw [late state known]
      refine ⟨{ concluded with done := ?_, executed := rfl, refreshes := fewer }, ?_⟩
      · simp [noteState, concluded.done]
      · simp [noteState, concluded.done]
    · exact ⟨{ concluded with refreshes := fewer }, rfl⟩
  · refine ⟨{ concluded with refreshes := ?_ }, rfl⟩
    intro x member
    obtain ⟨y, listed, rfl⟩ := List.mem_map.mp member
    split
    · exact late
    · exact concluded.refreshes y listed

theorem answer (concluded : Concluded m) {q : Query} {a : Except RequestError Json}
    (late : Late q a) : Concluded (m.answer q a).1 ∧ (m.answer q a).2 = [] := by
  cases q with
  | part tick q =>
      have noted : Concluded { m with snapshot := noteDetail m.snapshot q a } :=
        { concluded with executed := (noteDetail_kept ..).1.trans concluded.executed }
      simp only [Monitor.answer]
      split
      · rename_i r found
        refine noted.conclude fun state known => ?_
        by_cases last : q = .state
        · subst last
          exact late state known
        · rw [Refresh.settle] at known
          simp only [last, if_false] at known
          exact concluded.refreshes r (List.mem_of_find?_eq_some found) state known
      · exact ⟨noted, rfl⟩
  | debugInfo | code =>
      simp only [Monitor.answer, concluded.fetched]
      exact ⟨concluded, trivial⟩

end Concluded

/-! ## Stopping -/

/-- What is true while the command to stop is on its way; the program has ended after `last` steps. -/
structure Parting (p : ScriptedProgram) (config : Config) (last : Nat) (d : Debuggee)
    (s : ScriptedInterpreter) (t : Transit) : Prop where
  flow : Flow p config d s t
  stopping : t.stopping = true
  made : t.made = last
  sent : t.sent = last
  owed : ∀ o ∈ t.owed, o.2 = last
  concluded : Concluded d.monitor

/-- What is true when the channel has ended. -/
structure Parted (p : ScriptedProgram) (config : Config) (last : Nat) (d : Debuggee)
    (s : ScriptedInterpreter) : Prop where
  ended : d.link.channel.ended = true
  uncomplaining : d.link.complaints.octets = []
  concluded : Concluded d.monitor
  answers : ∀ x ∈ d.answers, Late x.1 x.2
  script : s.script.At p last
  pipe : ∃ ms, s.intake.Carries config.channel.delimiting d.link.line.outbound ms ∧
    ∀ m ∈ ms, m.type ≠ Interpreter.stepCommand

variable {p : ScriptedProgram} {config : Config} {last : Nat} {d d' : Debuggee}
  {s s' : ScriptedInterpreter} {t t' : Transit} {now : Millis}

theorem state_of_mem_underway {k tick n : Nat} {r : Refresh} (h : r ∈ underway k tick n) :
    r.state = none := by
  induction n generalizing k tick with
  | zero => cases h
  | succ n ih =>
      cases h with
      | head => rfl
      | tail _ later => exact ih later

theorem executed_of_isTerminal {state : State} (terminal : state.isTerminal = true) :
    state = .codeExecuted := by
  cases state <;> first | rfl | cases terminal

/-- A program of which the last step has been noted is left. -/
theorem Live.part {r : Standing} (live : Live p config d s t r)
    (final : ∀ n, (p.stepAfter n).state.isTerminal = true ↔ last ≤ n) (sent : t.sent = last)
    (done : d.monitor.doneReported = true) (refreshed : 0 < d.monitor.refreshed) :
    Parting p config last d.dispose s { t with stopping := true } := by
  obtain ⟨n, before, terminal⟩ := live.finished done
  have noted : last ≤ r.noted := ((final n).mp terminal).trans before
  have made : t.made = last := by
    have past := live.noted
    rw [Transit.sent] at sent
    omega
  have shown : d.monitor.snapshot.state = (p.stepAfter r.noted).state := by
    refine live.timely.older refreshed .state ?_
    have inside := live.timely.settled_lt
    have whole : parts.getLast? = some .state := rfl
    refine List.mem_of_getLast? ?_
    rw [List.getLast?_drop, if_neg (Nat.not_le.mpr inside), whole]
  have working := live.flow.working
  refine ⟨?_, rfl, made, sent, ?_, ?_⟩
  · have stopped : (d.link.send? .stop).getD d.link =
        { d.link with commands := d.link.commands ++ [.stop] } := by
      simp [Channel.Link.send?, working.ended]
    rw [Debuggee.dispose, stopped]
    exact { live.flow with
      working := { working with }
      commands := by simp [live.flow.commands, Transit.commands, live.going]
      right := live.flow.right }
  · exact fun o member => (live.ascending.stages (by omega) o member).trans sent
  · refine ⟨rfl, rfl, rfl, done, ?_, ?_⟩
    · exact shown.trans (executed_of_isTerminal ((final r.noted).mpr noted))
    · intro x member state known
      replace member : x ∈ d.monitor.refreshes := member
      rw [live.timely.refreshes] at member
      rw [state_of_mem_underway member] at known
      cases known

/-- A channel carries out the command to stop. -/
theorem Working.stop {config : Channel.Config} {l : Channel.Link Query} (working : Working config l)
    (commands : l.commands = [.stop]) (now : Millis) :
    ∃ (c : Channel Query) (code : Option Int), c.ended = true ∧ l.perform? now .command =
      some ({ l with channel := c, commands := [], line := l.line.leave },
        l.channel.requests.pending.map (fun x => .complete x.asker (.error .closed)) ++
          [.emit (.closed code)]) := by
  generalize fails_eq : l.channel.requests.pending.map (fun x =>
    (Effect.complete x.asker (.error .closed) : Effect Query)) = failures
  generalize code_eq : l.channel.exitCode.getD none = code
  have stopped (env : Channel.Surroundings) :
      (l.channel.step env (.command .stop)).1.ended = true ∧
        (l.channel.step env (.command .stop)).2 = failures ++ [.emit (.closed code)] := by
    simp [Channel.step, working.ended, Channel.command, Channel.shutdown, Channel.failAll,
      working.childless, working.closed, fails_eq, code_eq]
  have unwritten (config : Channel.Config) :
      Channel.Link.written config (failures ++ [.emit (.closed code)]) = [] := by
    simp [← fails_eq, Channel.Link.written, List.flatMap_map]
  obtain ⟨ended, effects⟩ :=
    stopped (Channel.Link.surroundings { l with commands := [] } now)
  refine ⟨_, code, ended, ?_⟩
  simp only [Channel.Link.perform?, working.ended, commands, Channel.Link.step, ended, effects]
  simp [unwritten, Framing.Pipe.write?, working.heard, working.speaking, Channel.Link.abandoned,
    Framing.Line.leave]

section

variable (final : ∀ n, (p.stepAfter n).state.isTerminal = true ↔ last ≤ n)

include final

/-- A turn shows nothing new at the end of a program. -/
theorem Parting.turn (parting : Parting p config last d s t) {es : List Event}
    (flow : Flow p config d' s' t') (stopping : t'.stopping = t.stopping)
    (turn : Turn p now d.monitor t d'.monitor t' es) :
    Parting p config last d' s' t' ∧ es = [] := by
  obtain ⟨-, going, made, sent, owed, concluded⟩ := parting
  replace stopping := stopping.trans going
  have kept (more : t.made ≤ t'.made) (same : t'.sent = t.sent) : t'.made = last := by
    have inside : t'.made ≤ t'.sent := Nat.le_add_right ..
    omega
  generalize same : d'.monitor = m' at turn
  cases turn with
  | pass owed' sent' made' =>
      exact ⟨⟨flow, stopping, kept made' sent', sent'.trans sent, owed' ▸ owed, same ▸ concluded⟩, rfl⟩
  | drop _ before after sent' made' =>
      refine ⟨⟨flow, stopping, made'.trans made, sent'.trans sent, ?_, same ▸ concluded⟩, rfl⟩
      intro o member
      refine owed o ?_
      rw [after] at member
      rw [before]
      exact ((List.Sublist.refl _).append (List.sublist_cons_self ..)).subset member
  | poll polling => exact absurd concluded.polling polling
  | fetch waiting =>
      rw [concluded.fetched] at waiting
      cases waiting
  | settle a right owed' sent' made' =>
      rw [owed', List.forall_mem_cons] at owed
      have executed : (p.stepAfter a.stage).state = .codeExecuted :=
        executed_of_isTerminal ((final a.stage).mpr (Nat.le_of_eq owed.1.symm))
      obtain ⟨left, silent⟩ := concluded.answer (late_answer right executed)
      exact ⟨⟨flow, stopping, made'.trans made, sent'.trans sent, owed.2, same ▸ left⟩, silent⟩

theorem Parting.serve (parting : Parting p config last d s t) (fits : p.Fits)
    (outOfBand : config.channel.delimiting.OutOfBand) {line : Line}
    (h : s.read? d.link.line = some (s', line)) :
    ∃ t', Parting p config last { d with link := { d.link with line } } s' t' := by
  obtain ⟨t', flow, stopping, turn⟩ := parting.flow.interpreted 0 fits outOfBand h
  exact ⟨t', (parting.turn final flow stopping turn).1⟩

/-- The channel carries out the command to stop. -/
theorem Parting.stop (parting : Parting p config last d s t) (ordered : t.ordered = [])
    (now : Millis) :
    ∃ d' code, d.perform? now (.link .command) = some d' ∧ d'.news = d.news ∧
      d'.reports = [.closed code] ∧ Parted p config last d' s := by
  obtain ⟨flow, stopping, made, sent, owed, concluded⟩ := parting
  have working := flow.working
  have commands : d.link.commands = [.stop] := by
    rw [flow.commands, Transit.commands, ordered, stopping]
    rfl
  obtain ⟨c, code, ended, stopped⟩ := working.stop commands now
  have executed : (p.stepAfter last).state = .codeExecuted :=
    executed_of_isTerminal ((final last).mpr (Nat.le_refl last))
  have none_ : .step ∉ t.written := by
    have quiet : .step ∉ t.orders := not_mem_of_steps (by rw [Transit.sent] at sent; omega)
    simp only [Transit.orders, List.mem_append, not_or] at quiet
    exact quiet.1.1
  refine ⟨{ d with
    link := { d.link with channel := c, commands := [], line := d.link.line.leave }
    reports := [.closed code]
    answers := d.answers ++
      d.link.channel.requests.pending.map fun x => (x.asker, .error .closed) }, code, ?_, rfl, rfl, ?_⟩
  · simp [Debuggee.perform?, stopped, Debuggee.absorb, flow.reports, List.filterMap_map]
  · refine ⟨ended, working.uncomplaining, concluded, ?_, made ▸ flow.script, _,
      flow.outbound.leave, fun m member => ?_⟩
    · intro x member
      obtain old | new := List.mem_append.mp member
      · rw [flow.answers] at old
        obtain ⟨a, listed, rfl⟩ := List.mem_map.mp old
        have waiting : a ∈ t.answers := List.mem_append_left _ listed
        refine late_answer (flow.right a waiting) ?_
        have stage : a.stage = last :=
          owed (a.query, a.stage) (List.mem_append_left _ (List.mem_map_of_mem waiting))
        exact stage ▸ executed
      · obtain ⟨x, -, rfl⟩ := List.mem_map.mp new
        exact late_error ..
    · obtain ⟨o, listed, type⟩ := type_of_mem_messages member
      rw [type]
      cases o with
      | step => exact absurd listed none_
      | ask q => exact q.type_ne_step

theorem Parting.perform (parting : Parting p config last d s t)
    (outOfBand : config.channel.delimiting.OutOfBand) {a : Debuggee.Activity} (inOrder : InOrder a)
    (h : d.perform? now a = some d') :
    d'.news = d.news ∧ ((∃ t', Parting p config last d' s t') ∨
      ∃ code, d'.reports = [.closed code] ∧ Parted p config last d' s) := by
  have flow := parting.flow
  cases a with
  | link move =>
      by_cases atEnd : move = .command ∧ t.ordered = []
      · obtain ⟨rfl, ordered⟩ := atEnd
        obtain ⟨d₁, code, performed, news, reports, parted⟩ := parting.stop final ordered now
        cases h.symm.trans performed
        exact ⟨news, .inr ⟨code, reports, parted⟩⟩
      · have more : move = .command → t.stopping = true → t.ordered ≠ [] :=
          fun command _ ordered => atEnd ⟨command, ordered⟩
        obtain ⟨t', left, stopping, news, turn⟩ := flow.link outOfBand inOrder more h
        exact ⟨news, .inl ⟨t', (parting.turn final left stopping turn).1⟩⟩
  | forward => simp [Debuggee.perform?, flow.reports] at h
  | settle i =>
      cases inOrder
      cases answered : t.answered with
      | nil => simp [Debuggee.perform?, flow.answers, answered] at h
      | cons a rest =>
          obtain ⟨d₁, performed, news, left, turn⟩ := flow.settle answered now
          cases h.symm.trans performed
          obtain ⟨parting', silent⟩ := parting.turn final left rfl turn
          exact ⟨by rw [news, silent, List.append_nil], .inl ⟨_, parting'⟩⟩
  | poll => simp [Debuggee.perform?, parting.concluded.polling] at h
  | fetch => simp [Debuggee.perform?, parting.concluded.fetched] at h

/-- The command to stop is carried out in the end. -/
theorem Parting.leave (parting : Parting p config last d s t) {os : List Order}
    (ordered : t.ordered = os) :
    ∃ d' code, Relation.ReflTransGen Stirs (d, s) (d', s) ∧ d'.news = d.news ∧
      d'.reports = [.closed code] ∧ Parted p config last d' s := by
  induction os generalizing d t with
  | nil =>
      obtain ⟨d', code, performed, news, reports, parted⟩ := parting.stop final ordered 0
      exact ⟨d', code, .single (.activity (by simp [InOrder]) performed), news, reports, parted⟩
  | cons o os ih =>
      obtain ⟨l, moved, flow⟩ := parting.flow.carry ordered 0
      have performed : d.perform? 0 (.link .command) = some { d with link := l } := by
        rw [Debuggee.perform?, moved, Option.map_some]
        exact congrArg some (absorb_writes { d with link := l } [])
      have same : Turn p 0 d.monitor t d.monitor
          { t with queued := t.queued ++ [o], ordered := os } [] :=
        .same 0 rfl (by simp [Transit.orders, ordered]) rfl
      obtain ⟨left, -⟩ : Parting p config last { d with link := l } s _ ∧ _ :=
        parting.turn final flow rfl same
      obtain ⟨d', code, reached, news, reports, parted⟩ := ih left rfl
      exact ⟨d', code, .head (.activity (by simp [InOrder]) performed) reached, news, reports, parted⟩

end

/-! ## After the end -/

/-- The channel does nothing any more. -/
theorem Parted.idle (parted : Parted p config last d s) (move : Channel.Move) :
    d.perform? now (.link move) = none := by
  cases move with
  | command | read | reap => simp [Debuggee.perform?, Channel.Link.perform?, parted.ended]
  | complain =>
      simp [Debuggee.perform?, Channel.Link.perform?, Channel.Link.complain?, parted.uncomplaining]
  | flush | expire =>
      simp only [Debuggee.perform?, Channel.Link.perform?, parted.ended]
      split <;> simp

/-- What has been reported is passed on, and nothing is added. -/
theorem Parted.perform (parted : Parted p config last d s) {a : Debuggee.Activity}
    (h : d.perform? now a = some d') :
    Parted p config last d' s ∧
      (d'.reports = d.reports ∧ d'.news = d.news ∨
        ∃ e, d.reports = e :: d'.reports ∧ d'.news = d.news ++ (eventOfChannel? e).toList) := by
  cases a with
  | link move =>
      rw [parted.idle] at h
      cases h
  | forward =>
      simp only [Debuggee.perform?] at h
      split at h
      · cases h
      · rename_i e reports reported
        cases h
        exact ⟨{ parted with }, .inr ⟨e, reported, rfl⟩⟩
  | settle i =>
      simp only [Debuggee.perform?] at h
      split at h
      · rename_i q a found
        cases h
        obtain ⟨left, silent⟩ := parted.concluded.answer (parted.answers _ (List.mem_of_getElem? found))
        refine ⟨{ parted with concluded := left, answers := ?_ }, .inl ⟨rfl, ?_⟩⟩
        · exact fun x member => parted.answers x (List.mem_of_mem_eraseIdx member)
        · rw [silent, List.append_nil]
      · cases h
  | poll => simp [Debuggee.perform?, parted.concluded.polling] at h
  | fetch => simp [Debuggee.perform?, parted.concluded.fetched] at h

/-- An interpreter that writes leaves alone what it has not read. -/
theorem send_keeps (s : ScriptedInterpreter) (l : Line) (type : String) (id reply : Option String)
    (data : Json) :
    (s.send l type id reply data).1.script = s.script ∧
      (s.send l type id reply data).1.intake = s.intake ∧
      (s.send l type id reply data).2.outbound.octets = l.outbound.octets ∧
      (s.send l type id reply data).2.outbound.writerGone = l.outbound.writerGone := by
  simp only [ScriptedInterpreter.send]
  split
  · exact ⟨rfl, rfl, rfl, rfl⟩
  · split
    · simp only [ScriptedInterpreter.write]
      split
      · exact ⟨rfl, rfl, rfl, rfl⟩
      · split <;> exact ⟨rfl, rfl, rfl, rfl⟩
    · exact ⟨rfl, rfl, rfl, rfl⟩

theorem receive_keeps (s : ScriptedInterpreter) (l : Line) (m : Interpreter.Message) :
    (s.receive l m).1.script = (s.script.receive m).1 ∧
      (s.receive l m).1.intake = s.intake ∧
      (s.receive l m).2.outbound.octets = l.outbound.octets ∧
      (s.receive l m).2.outbound.writerGone = l.outbound.writerGone := by
  simp only [ScriptedInterpreter.receive]
  split
  · exact send_keeps ..
  · exact ⟨rfl, rfl, rfl, rfl⟩

theorem carries_congr {k : Framing.Intake} {delimiting : Framing.Delimiting} {p p' : Framing.Pipe}
    {ms : List Interpreter.Message} (carries : k.Carries delimiting p ms)
    (octets : p'.octets = p.octets) (gone : p'.writerGone = p.writerGone) :
    k.Carries delimiting p' ms :=
  { carries with
    holds := octets ▸ carries.holds
    ending := by
      rw [octets, gone]
      exact carries.ending }

/-- What the interpreter still reads makes it do no step. -/
theorem Parted.serve (parted : Parted p config last d s) {line : Line}
    (h : s.read? d.link.line = some (s', line)) :
    Parted p config last { d with link := { d.link with line } } s' := by
  obtain ⟨ms, carries, quiet⟩ := parted.pipe
  have taking := carries.take
  simp only [ScriptedInterpreter.read?] at h
  generalize s.intake.take d.link.line.outbound = attempt at taking h
  split at h
  · cases h
  · cases taking with
    | @first k m rest octets messages left =>
        subst messages
        obtain ⟨other, quiet⟩ := List.forall_mem_cons.mp quiet
        obtain ⟨here, -⟩ := parted.script.receive m
        rw [if_neg other] at here
        replace h := Option.some.inj h
        obtain ⟨script, intake, octets', gone⟩ := receive_keeps { s with intake := k }
          { d.link.line with outbound := { d.link.line.outbound with octets } } m
        rw [h] at script intake octets' gone
        exact { parted with
          script := script ▸ here
          pipe := ⟨rest, intake ▸ carries_congr left octets' gone, quiet⟩ }
    | @nothing k octets left waiting =>
        dsimp only at h
        split at h <;> cases h
        exact { parted with script := parted.script, pipe := ⟨ms, left, quiet⟩ }
    | @ended k octets gone none_ left =>
        cases h
        exact { parted with script := parted.script, pipe := ⟨ms, carries_congr left rfl rfl, quiet⟩ }

end DebugAdapter.Monitor
