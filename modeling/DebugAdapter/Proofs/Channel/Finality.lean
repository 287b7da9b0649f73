import DebugAdapter.Proofs.Channel.Completion
import DebugAdapter.Proofs.Channel.Lifecycle
/-!
# The end of a channel is final

Whatever happens to a link, its channel reports its end at most once and nothing after it; from then
on nothing runs, nothing is written, and nothing waits. Unless the channel was stopped or given up,
it has then seen the end of the output and of the process.
-/

namespace DebugAdapter.Channel

/-! ## What a channel hears -/

/-- What a channel hears in a move, and of what. -/
inductive Link.Hears {ρ : Type} (l : Link ρ) (now : Millis) : Move → Input ρ → Prop
  | command (c : Command ρ) (first : l.commands.head? = some c) : Hears l now .command (.command c)
  | released (none_ : l.commands = []) (holders : l.holders = 0) : Hears l now .command .released
  | frame (f : Framing.Frame) (open_ : l.channel.readerOpen = true)
      (taken : (l.intake.take l.line.inbound).1 = .frame f) : Hears l now .read (.frame f)
  | endOfOutput (open_ : l.channel.readerOpen = true)
      (taken : (l.intake.take l.line.inbound).1 = .over) : Hears l now .read .endOfOutput
  | exit (code : Option Int) (child : l.channel.hasChild = true) (fate : l.fate = some code) :
      Hears l now .reap (.exit code)
  | flush : Hears l now .flush .flush
  | expire : Hears l now .expire .expire

theorem Link.hears {ρ : Type} {l : Link ρ} {now : Millis} {move : Move} {input : Input ρ}
    (heard : l.heard? now move = some input) : l.Hears now move input := by
  unfold heard? at heard
  split at heard
  · cases heard
  · cases move with
    | command =>
        simp only at heard
        split at heard
        · rename_i c rest commands
          cases heard
          exact .command c (by rw [commands]; rfl)
        · rename_i none_
          split at heard
          · rename_i holders
            cases heard
            exact .released none_ holders
          · cases heard
    | read =>
        simp only at heard
        split at heard
        · rename_i open_
          split at heard
          · cases heard
          · rename_i f taken
            cases heard
            exact .frame f open_ taken
          · rename_i taken
            cases heard
            exact .endOfOutput open_ taken
        · cases heard
    | complain => cases heard
    | reap =>
        simp only at heard
        split at heard
        · rename_i child
          obtain ⟨code, fate, rfl⟩ := Option.map_eq_some_iff.mp heard
          exact .exit code child fate
        · cases heard
    | flush =>
        obtain ⟨due, -, passed⟩ := Option.bind_eq_some_iff.mp heard
        split at passed
        · cases passed
          exact .flush
        · cases passed
    | expire =>
        obtain ⟨due, -, passed⟩ := Option.bind_eq_some_iff.mp heard
        split at passed
        · cases passed
          exact .expire
        · cases passed

theorem Link.Hears.possible {ρ : Type} {l : Link ρ} {now : Millis} {move : Move} {o : Occasion ρ}
    (before : o.before = l.channel) (hears : l.Hears now move o.input) : o.Possible := by
  obtain ⟨c, env, input⟩ := o
  cases before
  cases hears with
  | frame f open_ | endOfOutput open_ => exact open_
  | exit code child => exact child
  | command | released | flush | expire => exact trivial

namespace Entry

/-- What the channel itself reports. -/
def reports (e : Entry) : List Event :=
  (e.effects.filterMap Effect.event?).filter fun event => !event.isComplaint

/-- The messages that are written. -/
def written (e : Entry) : List Interpreter.Message := e.effects.filterMap Effect.written?

/-- The channel is stopped, or given up because nobody holds it any more. -/
def Stops (e : Entry) : Prop :=
  ∃ now, e.happening = .move now .command ∧
    (e.before.link.commands.head? = some .stop ∨
      e.before.link.commands = [] ∧ e.before.link.holders = 0)

/-- The channel comes to the end of the output. -/
def SeesEnd (e : Entry) : Prop :=
  ∃ now, e.happening = .move now .read ∧
    (e.before.link.intake.take e.before.link.line.inbound).1 = .over

/-- The channel sees with which code the process has ended, and reports that. -/
def SeesExit (e : Entry) (code : Option Int) : Prop :=
  (∃ now, e.happening = .move now .reap) ∧ e.before.link.fate = some code ∧ .exited code ∈ e.reports

/-- What an entry shows of the channel. -/
inductive Shown (e : Entry) : Prop where
  | heard (o : Occasion Nat) (now : Millis) (move : Move) (happening : e.happening = .move now move)
      (hears : e.before.link.Hears now move o.input)
      (before : o.before = e.before.link.channel) (live : o.before.ended = false)
      (possible : o.Possible) (channel : e.after.link.channel = o.after)
      (reports : e.reports = o.events) (written : e.written = o.written)
  | unheard (channel : e.after.link.channel = e.before.link.channel) (reports : e.reports = [])
      (written : e.written = [])

theorem shown (e : Entry) : Shown e := by
  cases e.change with
  | heard o left occasion before live _ channel _ _ _ _ _ events written =>
      obtain ⟨h, happening⟩ := e
      cases happening with
      | move now move =>
          obtain ⟨input, heard, rfl⟩ := Option.map_eq_some_iff.mp occasion
          have hears := Link.hears heard
          refine .heard _ now move rfl hears before live (hears.possible rfl) channel ?_ written
          rw [reports, events, List.filter_eq_self]
          intro event mem
          rw [Occasion.isComplaint_of_mem live event mem]
          rfl
      | ask | tell | stop | outside => cases occasion
  | unheard _ _ channel _ _ _ _ _ complaints written =>
      refine .unheard channel ?_ written
      rw [reports, List.filter_eq_nil_iff]
      intro event mem
      obtain ⟨text, rfl⟩ := complaints event mem
      simp [Event.isComplaint]

end Entry

/-! ## All that happens -/

/-- What the channel reports, in order. -/
def reports (es : List Entry) : List Event := es.flatMap Entry.reports

theorem reports_append (es : List Entry) (e : Entry) :
    reports (es ++ [e]) = reports es ++ e.reports := by
  rw [reports, List.flatMap_append, List.flatMap_singleton]
  rfl

/-- Nothing runs, and no request waits. -/
structure Gone (h : Holding) : Prop where
  idle : h.link.channel.isRunning = false
  pending : h.pending = []

namespace Entry

/-- The channel reports its end. -/
def Closes (e : Entry) : Prop := ∃ code, .closed code ∈ e.reports

/-- Nothing is written, and then nothing runs and nothing waits. -/
def Silent (e : Entry) : Prop := e.written = [] ∧ Gone e.after

end Entry

/-- The end of the process has been seen, if there is one. -/
def Observed (child : Bool) (es : List Entry) (code : Option Int) : Prop :=
  if child then ∃ e ∈ es, e.SeesExit code else code = none

/-- How a channel, to a child process or not, comes to its end. -/
structure Final (child : Bool) (t : History) : Prop where
  /-- The end of a process is reported at most once, and only if there is one. -/
  exited : (reports t.entries).countP Event.isExited ≤ child.toNat
  closed : (reports t.entries).countP Event.isClosed ≤ 1
  /-- Nothing is reported after the end. -/
  last : ∀ front code back, reports t.entries = front ++ .closed code :: back → back = []
  /-- From then on nothing is written, nothing runs, and nothing waits. -/
  atOnce : ∀ e ∈ t.entries, e.Closes → e.Silent
  silent : t.entries.Pairwise fun e e' => e.Closes → e'.Silent
  /-- Unless the channel is stopped or given up, everything has ended. -/
  cause : ∀ front e, front ++ [e] <+: t.entries → ∀ code, .closed code ∈ e.reports →
    e.Stops ∨ (∃ e' ∈ front ++ [e], e'.SeesEnd) ∧ Observed child (front ++ [e]) code

/-- What each happening keeps. -/
structure Ending (child : Bool) (t : History) : Prop where
  consistent : Consistent t.state.link.channel
  exited : (reports t.entries).countP Event.isExited + t.state.link.channel.hasChild.toNat =
    child.toNat
  report : (t.state.link.channel.closed = false ∧
      ∀ event ∈ reports t.entries, event.isClosed = false) ∨
    (t.state.link.channel.closed = true ∧ ∃ front code,
      reports t.entries = front ++ [.closed code] ∧ ∀ event ∈ front, event.isClosed = false)
  output : t.state.link.channel.readerOpen = false → ∃ e ∈ t.entries, e.SeesEnd
  exit : t.state.link.channel.ended = false → ∀ code,
    t.state.link.channel.exitCode = some code → Observed child t.entries code
  atOnce : ∀ e ∈ t.entries, e.Closes → e.Silent
  silent : t.entries.Pairwise fun e e' => e.Closes → e'.Silent
  cause : ∀ front e, front ++ [e] <+: t.entries → ∀ code, .closed code ∈ e.reports →
    e.Stops ∨ (∃ e' ∈ front ++ [e], e'.SeesEnd) ∧ Observed child (front ++ [e]) code

theorem Observed.append {child : Bool} {es : List Entry} {code : Option Int}
    (observed : Observed child es code) (e : Entry) : Observed child (es ++ [e]) code := by
  cases child with
  | false => exact observed
  | true =>
      obtain ⟨e', mem, sees⟩ := observed
      exact ⟨e', List.mem_append_left _ mem, sees⟩

namespace Ending

variable {child : Bool} {t : History} (ending : Ending child t) (e : Entry) (before : e.before = t.state)
include ending before

theorem consistent_next : Consistent e.after.link.channel := by
  cases e.shown with
  | heard o _ _ _ _ same _ _ channel =>
      rw [channel]
      apply Occasion.consistent_after
      rw [same, before]
      exact ending.consistent
  | unheard channel =>
      rw [channel, before]
      exact ending.consistent

theorem exited_next : (reports (t.entries ++ [e])).countP Event.isExited +
    e.after.link.channel.hasChild.toNat = child.toNat := by
  rw [reports_append, List.countP_append]
  cases e.shown with
  | heard o _ _ _ _ same live possible channel reports =>
      have here := Occasion.countP_exited live possible
      have sofar := ending.exited
      rw [same, before] at here
      rw [reports, channel]
      omega
  | unheard channel reports =>
      rw [reports, channel, before]
      exact ending.exited

theorem report_next : (e.after.link.channel.closed = false ∧
      ∀ event ∈ reports (t.entries ++ [e]), event.isClosed = false) ∨
    (e.after.link.channel.closed = true ∧ ∃ front code,
      reports (t.entries ++ [e]) = front ++ [.closed code] ∧
      ∀ event ∈ front, event.isClosed = false) := by
  rw [reports_append]
  cases e.shown with
  | unheard channel reports =>
      rw [reports, channel, before, List.append_nil]
      exact ending.report
  | heard o _ _ _ _ same live possible channel reports =>
      have consistent : Consistent o.before := by
        rw [same, before]
        exact ending.consistent
      rw [reports, channel]
      obtain ⟨open_, none_⟩ | ⟨closed, front, code, parts, none_⟩ := ending.report
      · rw [← before, ← same] at open_
        obtain ⟨open_, others⟩ | ⟨closed, -, front, code, parts, others, -⟩ :=
          Occasion.closing live consistent open_
        · refine .inl ⟨open_, ?_⟩
          simp only [List.mem_append]
          rintro event (past | now)
          · exact none_ event past
          · exact others event now
        · refine .inr ⟨closed, _, code, by rw [parts, ← List.append_assoc], ?_⟩
          simp only [List.mem_append]
          rintro event (past | now)
          · exact none_ event past
          · exact others event now
      · rw [← before, ← same] at closed
        obtain ⟨silent, -⟩ := Occasion.silent_of_closed live consistent possible closed
        rw [silent, List.append_nil]
        exact .inr ⟨o.closed_of_closed live closed, front, code, parts, none_⟩

theorem output_next (drained : e.after.link.channel.readerOpen = false) :
    ∃ e' ∈ t.entries ++ [e], e'.SeesEnd := by
  cases open_ : t.state.link.channel.readerOpen with
  | false =>
      obtain ⟨e', mem, sees⟩ := ending.output open_
      exact ⟨e', List.mem_append_left _ mem, sees⟩
  | true =>
      refine ⟨e, List.mem_concat_self, ?_⟩
      cases e.shown with
      | unheard channel =>
          rw [channel, before, open_] at drained
          cases drained
      | heard o now move happening hears same live _ channel =>
          rw [channel] at drained
          rw [← before, ← same] at open_
          rw [Occasion.output_seen live open_ drained] at hears
          cases hears with
          | endOfOutput _ taken => exact ⟨now, happening, taken⟩

theorem exit_next (live : e.after.link.channel.ended = false) (code : Option Int)
    (exited : e.after.link.channel.exitCode = some code) : Observed child (t.entries ++ [e]) code := by
  cases e.shown with
  | unheard channel =>
      rw [channel, before] at live exited
      exact (ending.exit live code exited).append e
  | heard o now move happening hears same live' possible channel reports =>
      rw [channel] at live exited
      obtain sofar | ⟨input, reported⟩ := Occasion.exit_seen live' live exited
      · rw [same, before] at sofar live'
        exact (ending.exit live' code sofar).append e
      · rw [input] at hears
        cases hears with
        | exit _ waits fate =>
            have count := ending.exited
            rw [before] at waits
            cases child with
            | true =>
                refine ⟨e, List.mem_concat_self, ⟨now, happening⟩, fate, ?_⟩
                rw [reports]
                exact reported
            | false => simp [waits] at count

theorem gone_of_closed (closed : e.after.link.channel.closed = true) : Gone e.after where
  idle := (ending.consistent_next e before).idle closed
  pending := (ending.consistent_next e before).pending closed

theorem silent_after (closed : t.state.link.channel.closed = true) : e.Silent := by
  refine ⟨?_, ending.gone_of_closed e before (e.closed_of_closed (before ▸ closed))⟩
  cases e.shown with
  | unheard _ _ written => exact written
  | heard o _ _ _ _ same live possible _ _ written =>
      rw [written]
      rw [← before, ← same] at closed
      have consistent : Consistent o.before := by
        rw [same, before]
        exact ending.consistent
      exact (Occasion.silent_of_closed live consistent possible closed).2

/-- A channel that reports its end writes nothing then; it has been stopped, or knows that all has
ended. -/
theorem closing {code : Option Int} (closed : .closed code ∈ e.reports) :
    e.Silent ∧
      (e.Stops ∨ (∃ e' ∈ t.entries ++ [e], e'.SeesEnd) ∧ Observed child (t.entries ++ [e]) code) := by
  cases e.shown with
  | unheard _ reports =>
      rw [reports] at closed
      cases closed
  | heard o now move happening hears same live possible channel reports written =>
      have consistent : Consistent o.before := by
        rw [same, before]
        exact ending.consistent
      rw [reports] at closed
      cases open_ : o.before.closed with
      | true =>
          rw [(Occasion.silent_of_closed live consistent possible open_).1] at closed
          cases closed
      | false =>
          obtain ⟨-, others⟩ | ⟨shut, none_, front, code', parts, others, reason⟩ :=
            Occasion.closing live consistent open_
          · cases others _ closed
          · rw [← channel] at shut
            refine ⟨⟨written.trans none_, ending.gone_of_closed e before shut⟩, ?_⟩
            have same' : code' = code := by
              rw [parts] at closed
              cases List.mem_append.mp closed with
              | inl here => cases others _ here
              | inr here =>
                  cases List.mem_singleton.mp here
                  rfl
            obtain stops | ⟨live', drained, exited⟩ := reason
            · refine .inl ⟨now, ?_⟩
              obtain ⟨c, env, input⟩ := o
              cases hears with
              | command c first =>
                  cases c with
                  | stop => exact ⟨happening, .inl first⟩
                  | send | request => cases stops
              | released empty holders => exact ⟨happening, .inr ⟨empty, holders⟩⟩
              | frame | endOfOutput | exit | flush | expire => cases stops
            · rw [← channel] at live' drained exited
              rw [same'] at exited
              exact .inr ⟨ending.output_next e before drained,
                ending.exit_next e before live' code exited⟩

end Ending

theorem Ending.closed_of_closes {child : Bool} {t : History} (ending : Ending child t) {e : Entry}
    (mem : e ∈ t.entries) (closes : e.Closes) : t.state.link.channel.closed = true := by
  obtain ⟨code, here⟩ := closes
  obtain ⟨-, none_⟩ | ⟨closed, -⟩ := ending.report
  · cases none_ _ (List.mem_flatMap.mpr ⟨e, mem, here⟩)
  · exact closed

theorem Ending.next {child : Bool} {t : History} (ending : Ending child t) (h : Happening) :
    Ending child (t.next Holding.advance h) where
  consistent := ending.consistent_next ⟨t.state, h⟩ rfl
  exited := ending.exited_next ⟨t.state, h⟩ rfl
  report := ending.report_next ⟨t.state, h⟩ rfl
  output := ending.output_next ⟨t.state, h⟩ rfl
  exit := ending.exit_next ⟨t.state, h⟩ rfl
  atOnce := by
    intro e mem closes
    cases List.mem_append.mp mem with
    | inl past => exact ending.atOnce e past closes
    | inr now =>
        cases List.mem_singleton.mp now
        obtain ⟨code, here⟩ := closes
        exact (ending.closing _ rfl here).1
  silent := by
    apply List.pairwise_append.mpr
    refine ⟨ending.silent, List.pairwise_singleton _ _, ?_⟩
    intro e past e' now closes
    cases List.mem_singleton.mp now
    exact ending.silent_after _ rfl (ending.closed_of_closes past closes)
  cause := by
    intro front e part code closed
    cases List.prefix_concat_iff.mp part with
    | inl here =>
        obtain ⟨rfl, same⟩ := List.append_inj' here rfl
        cases List.singleton_inj.mp same
        exact (ending.closing _ rfl closed).2
    | inr past => exact ending.cause front e past code closed

theorem ending_start {child : Bool} (l : Link Nat) (consistent : Consistent l.channel)
    (hasChild : l.channel.hasChild = child) (open_ : l.channel.closed = false)
    (readerOpen : l.channel.readerOpen = true)
    (exitCode : ∀ code, l.channel.exitCode = some code → child = false ∧ code = none) :
    Ending child { state := { link := l } } where
  consistent := consistent
  exited := by simp [reports, hasChild]
  report := .inl ⟨open_, by simp [reports]⟩
  output drained := absurd (readerOpen.symm.trans drained) (by decide)
  exit := by
    intro _ code exited
    obtain ⟨rfl, none_⟩ := exitCode code exited
    exact none_
  atOnce := by simp
  silent := .nil
  cause := by
    intro front e part
    exact absurd (List.prefix_nil.mp part) (by simp)

theorem final_of_ending {child : Bool} {t : History} (ending : Ending child t) : Final child t where
  exited := (Nat.le_add_right _ _).trans ending.exited.le
  closed := by
    obtain ⟨-, none_⟩ | ⟨-, front, code, parts, others⟩ := ending.report
    · rw [List.countP_eq_zero.mpr fun e mem => by simp [none_ e mem]]
      exact Nat.zero_le 1
    · rw [parts, List.countP_append, List.countP_eq_zero.mpr fun e mem => by simp [others e mem]]
      exact Nat.le_refl 1
  last := by
    intro front code back parts
    obtain ⟨-, none_⟩ | ⟨-, front', code', parts', others⟩ := ending.report
    · cases none_ (.closed code) (by simp [parts])
    · rcases back.eq_nil_or_concat with rfl | ⟨rest, final, rfl⟩
      · rfl
      · rw [parts', List.concat_eq_append, ← List.cons_append, ← List.append_assoc] at parts
        obtain ⟨rfl, -⟩ := List.append_inj' parts rfl
        cases others (.closed code) (by simp)
  atOnce := ending.atOnce
  silent := ending.silent
  cause := ending.cause

/-- Whatever happens, in whatever order: a channel reports its end at most once, as the last thing
and for a reason, and is silent from then on. -/
theorem run_final (config : Config) (happenings : List Happening) :
    Final false (Trace.run Holding.advance { link := .overPipe config } happenings) ∧
      Final true (Trace.run Holding.advance { link := .overProcess config } happenings) := by
  have final (child : Bool) (l : Link Nat) (start : Ending child { state := { link := l } }) :
      Final child (Trace.run Holding.advance { link := l } happenings) :=
    final_of_ending (Trace.run_invariant (P := Ending child) Holding.advance start
      (fun _ h ending => ending.next h) happenings)
  constructor
  · apply final false (.overPipe config)
    apply ending_start (.overPipe config) (consistent_overPipe config) rfl rfl rfl
    intro code exited
    exact ⟨rfl, (Option.some.inj exited).symm⟩
  · apply final true (.overProcess config)
    apply ending_start (.overProcess config) (consistent_overProcess config) rfl rfl rfl
    nofun

end DebugAdapter.Channel
