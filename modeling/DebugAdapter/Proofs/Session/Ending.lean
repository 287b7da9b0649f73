import DebugAdapter.Session.Basic
import DebugAdapter.Proofs.Control.Succession
/-!
# The end of a session

When a session concludes, the present interpreter is dismissed, and with it every other one but one
that is just being started. What has been put off goes on: a launch that still waits starts its
interpreter after the end. If nothing was being started or to be started, nothing is.
-/

namespace DebugAdapter

open Control (Continues Keeps)
open Protocol (Outgoing)

namespace Session

/-! ## Control and requests -/

namespace Handler

variable (h : Handler)

@[simp] theorem send_control (m : Outgoing) : (h.send m).control = h.control := by
  unfold send
  split <;> rfl

@[simp] theorem respond_control (r : Protocol.Response) : (h.respond r).control = h.control :=
  h.send_control _

@[simp] theorem succeed_control (r : Protocol.Request) (body : Protocol.ResponseBody) :
    (h.succeed r body).control = h.control :=
  h.send_control _

@[simp] theorem acknowledge_control (r : Protocol.Request) :
    (h.acknowledge r).control = h.control :=
  h.send_control _

@[simp] theorem refuse_control (r : Protocol.Request) (m : Protocol.ErrorMessage) :
    (h.refuse r m).control = h.control :=
  h.send_control _

@[simp] theorem announce_control (e : Protocol.Event) : (h.announce e).control = h.control :=
  h.send_control _

theorem notice_control (n : Control.Notice) : (h.notice n).control = h.control := by
  cases n <;> simp [notice]

/-- What a command does to execution control. It starts no interpreter. -/
inductive Directs (c : Control) : Control → Prop
  | nothing : Directs c c
  | terminate : Directs c c.terminate
  | breakpoints (f : Program.Breakpoints → Program.Breakpoints) : Directs c (c.withBreakpoints f)
  | request {errand : Control.Errand} (other : errand.isStart = false) :
      Directs c (c.request errand none)
  | evaluate (expression : String) (context : Option String) :
      Directs c (c.evaluate expression context).2

theorem directs_withBreakpoints (f : Program.Breakpoints → Program.Breakpoints) :
    Directs h.control (h.withBreakpoints f).control :=
  .breakpoints f

theorem directs_carryOut (now : Millis) (r : Protocol.Request) (command : Protocol.Command) :
    Directs h.control (h.carryOut now r command).control := by
  cases command with
  | disconnect args =>
      simp only [carryOut, acknowledge_control]
      split
      · exact .terminate
      · exact .nothing
  | terminate args =>
      rw [carryOut, acknowledge_control]
      exact .terminate
  | setBreakpoints args =>
      simp only [carryOut, setBreakpoints]
      split
      · rw [succeed_control]
        exact .nothing
      · rw [succeed_control]
        exact h.directs_withBreakpoints _
  | setDataBreakpoints args =>
      simp only [carryOut, setDataBreakpoints, succeed_control]
      exact h.directs_withBreakpoints _
  | setInstructionBreakpoints args =>
      simp only [carryOut, setInstructionBreakpoints, succeed_control]
      exact h.directs_withBreakpoints _
  | continue_ args =>
      rw [carryOut, succeed_control]
      exact .request rfl
  | next args =>
      rw [carryOut, acknowledge_control]
      exact .request rfl
  | evaluate args =>
      simp only [carryOut, evaluate, succeed_control]
      exact .evaluate _ _
  | launch args | attach args => exact .nothing
  | handshake args =>
      rw [carryOut, announce_control, succeed_control]
      exact .nothing
  | toggleFormatting =>
      simp only [carryOut, toggleFormatting, acknowledge_control]
      split
      · rw [announce_control]
        exact .nothing
      · exact .nothing
  | configurationDone | setExceptionBreakpoints args | cancel args =>
      rw [carryOut, acknowledge_control]
      exact .nothing
  | setExpression args | unknown command =>
      rw [carryOut, refuse_control]
      exact .nothing
  | setFunctionBreakpoints args | breakpointLocations args | dataBreakpointInfo args
  | exceptionInfo args | threads | stackTrace args | scopes args | «variables» args
  | completions args | readMemory args =>
      simp only [carryOut, breakpointLocations, dataBreakpointInfo, stackTrace, scopes,
        listVariables, readMemory, succeed_control]
      exact .nothing

theorem directs_handle (now : Millis) (r : Protocol.Request) :
    Directs h.control (h.handle now r).1.control := by
  unfold handle
  split
  · rw [refuse_control]
    exact .nothing
  · exact h.directs_carryOut now r _

theorem Directs.continues {c c' : Control} (directs : Directs c c') : Continues c c' := by
  cases directs with
  | nothing => exact c.continues_refl
  | terminate => exact c.continues_terminate
  | breakpoints f => exact Control.continues_of_same (.refl _) rfl rfl rfl rfl
  | request other => exact c.continues_request _ _ other
  | evaluate expression context => exact c.continues_evaluate expression context

theorem continues_handle (now : Millis) (r : Protocol.Request) :
    Continues h.control (h.handle now r).1.control :=
  (h.directs_handle now r).continues

/-- A launch that goes on starts an interpreter at most later. -/
theorem keeps_resume {h h' : Handler} {now : Millis} {abandoned : Bool} {i : Nat}
    (resumed : h.resume? now abandoned i = some h') : Keeps h.control h'.control := by
  obtain ⟨p, member, resumed⟩ := Option.bind_eq_some_iff.mp resumed
  split at resumed
  · split at resumed <;> cases resumed
    simp only [resume]
    split
    · rw [respond_control]
      exact h.control.continues_refl.toKeeps
    · split
      · rw [refuse_control]
        exact h.control.continues_refl.toKeeps
      · exact h.control.keeps_request _ _
  · cases resumed

/-- Only a launch that waits can go on. -/
theorem resume?_waiting {h h' : Handler} {now : Millis} {abandoned : Bool} {i : Nat}
    (resumed : h.resume? now abandoned i = some h') :
    ∃ p ∈ h.launches, ∃ due, p.stage = .waiting due := by
  obtain ⟨p, member, resumed⟩ := Option.bind_eq_some_iff.mp resumed
  split at resumed
  · rename_i due stage
    exact ⟨p, List.mem_of_getElem? member, due, stage⟩
  · cases resumed

theorem complete?_eq {h h' : Handler} {i : Nat} (completed : h.complete? i = some h') :
    h'.control = h.control ∧ ∀ p ∈ h'.launches, p ∈ h.launches := by
  obtain ⟨p, member, completed⟩ := Option.bind_eq_some_iff.mp completed
  split at completed
  · split at completed <;> cases completed
    refine ⟨by rw [respond_control], ?_⟩
    intro p' member'
    refine List.mem_of_mem_eraseIdx (i := i) ?_
    unfold respond send at member'
    split at member' <;> exact member'
  · cases completed

end Handler

/-! ## Activities of a session -/

/-- The execution control of a session. -/
def control (s : Session) : Control := s.handler.control

/-- Whether the session has concluded and neither a launch is put off nor an interpreter being
started or to be started. -/
structure Quiet (s : Session) : Prop where
  concluded : s.concluded = true
  launches : ∀ p ∈ s.handler.launches, ∀ due, p.stage ≠ .waiting due
  launchFree : s.control.LaunchFree

variable {s s' : Session} {now : Millis}

/-- A request either leaves the session open or concludes it. -/
theorem handle_cases (s : Session) (now : Millis) (r : Protocol.Request) :
    (Continues s.control (s.handle now r).control ∧ (s.handle now r).concluded = s.concluded) ∨
      ∃ x : Session, Continues s.control x.control ∧ s.handle now r = x.conclude := by
  have handled := s.handler.continues_handle now r
  cases farewell : (s.handler.handle now r).2 with
  | true =>
      refine .inr ⟨{ s with handler := (s.handler.handle now r).1 }, handled, ?_⟩
      simp only [handle, farewell, if_true]
  | false =>
      have same : s.handle now r = { s with handler := (s.handler.handle now r).1 } := by
        simp only [handle, farewell, Bool.false_eq_true, if_false]
      rw [same]
      exact .inl ⟨handled, rfl⟩

/-- Reading either leaves the session open or concludes it. -/
theorem read?_cases (h : s.read? now = some s') :
    s.concluded = false ∧
      ((Continues s.control s'.control ∧ s'.concluded = false) ∨
        ∃ x : Session, Continues s.control x.control ∧ s' = x.conclude) := by
  cases open_ : s.concluded with
  | true => simp [read?, open_] at h
  | false =>
      refine ⟨rfl, ?_⟩
      rw [read?, if_neg (by simp [open_])] at h
      dsimp only at h
      generalize taken : Framing.Headed.nextLenient Protocol.Request.decoder
        (s.buffer ++ s.incoming.octets) = t at h
      let read : Session :=
        { s with buffer := t.buffer, incoming := { s.incoming with octets := [] } }
      have same : Continues s.control read.control := s.control.continues_refl
      split at h
      · rename_i r _
        cases h
        obtain ⟨continues, still⟩ | ⟨x, continues, concluded⟩ := handle_cases read now r
        · exact .inl ⟨continues, still.trans open_⟩
        · exact .inr ⟨x, continues, concluded⟩
      · cases h
        exact .inl ⟨same, open_⟩
      · cases h
        exact .inr ⟨read, same, rfl⟩
      · split at h
        · cases h
          exact .inr ⟨read, same, rfl⟩
        · split at h <;> cases h
          exact .inl ⟨same, open_⟩

theorem continues_conclude (s : Session) : Continues s.control s.conclude.control :=
  s.control.continues_terminate

theorem continues_read (h : s.read? now = some s') : Continues s.control s'.control := by
  obtain ⟨-, ⟨continues, -⟩ | ⟨x, continues, rfl⟩⟩ := read?_cases h
  · exact continues
  · exact continues.trans x.continues_conclude

theorem write?_eq (h : s.write? = some s') :
    s'.control = s.control ∧ s'.concluded = s.concluded ∧
      s'.handler.launches = s.handler.launches := by
  unfold write? at h
  split at h
  · cases h
    unfold writeMessage
    split <;> exact ⟨rfl, rfl, rfl⟩
  · split at h <;> cases h
    exact ⟨rfl, rfl, rfl⟩

theorem notice?_eq (h : s.notice? = some s') :
    s.concluded = false ∧ s'.concluded = false ∧ Continues s.control s'.control := by
  cases open_ : s.concluded with
  | true => simp [notice?, open_] at h
  | false =>
      simp only [notice?, open_, Bool.false_eq_true, if_false] at h
      split at h
      · cases h
      · cases h
        refine ⟨rfl, rfl, ?_⟩
        rw [control, control, Handler.notice_control]
        exact Control.continues_of_same (.refl _) rfl rfl rfl rfl

theorem discard?_eq (h : s.discard? = some s') :
    s' = { s with handler := s.handler.withControl (·.disposeSession) } := by
  simp only [discard?] at h
  split at h
  · exact (Option.some.inj h).symm
  · cases h

/-- No activity takes back that an interpreter is dismissed, and each keeps the order. -/
theorem keeps_perform (a : Activity) (h : s.perform? now a = some s') :
    Keeps s.control s'.control := by
  cases a with
  | control a =>
      obtain ⟨c, performed, rfl⟩ := Option.map_eq_some_iff.mp h
      exact Control.keeps_perform now a performed
  | read => exact (continues_read h).toKeeps
  | notice => exact (notice?_eq h).2.2.toKeeps
  | resume i =>
      obtain ⟨handler, resumed, rfl⟩ := Option.map_eq_some_iff.mp h
      exact Handler.keeps_resume resumed
  | complete i =>
      obtain ⟨handler, completed, rfl⟩ := Option.map_eq_some_iff.mp h
      rw [control, control, (Handler.complete?_eq completed).1]
      exact s.control.continues_refl.toKeeps
  | write =>
      rw [(write?_eq h).1]
      exact s.control.continues_refl.toKeeps
  | discard =>
      rw [discard?_eq h]
      exact s.control.keeps_disposeSession

/-- What concludes a session dismisses the present interpreter. -/
theorem perform?_conclusion (a : Activity) (h : s.perform? now a = some s')
    (before : s.concluded = false) (after : s'.concluded = true) :
    ∃ x : Session, Continues s.control x.control ∧ s' = x.conclude := by
  cases a with
  | read =>
      obtain ⟨-, ⟨-, open_⟩ | concluded⟩ := read?_cases h
      · rw [open_] at after
        cases after
      · exact concluded
  | control a | resume i | complete i =>
      obtain ⟨part, -, rfl⟩ := Option.map_eq_some_iff.mp h
      exact absurd after (by simp [before])
  | notice => exact absurd after (by simp [(notice?_eq h).2.1])
  | write => exact absurd after (by simp [(write?_eq h).2.1, before])
  | discard =>
      rw [discard?_eq h] at after
      exact absurd after (by simp [before])

/-- A quiet session stays quiet, and starts no interpreter. -/
theorem quiet_perform (a : Activity) (quiet : s.Quiet) (h : s.perform? now a = some s') :
    s'.Quiet ∧ s'.control.debuggees.length = s.control.debuggees.length := by
  cases a with
  | control a =>
      obtain ⟨c, performed, rfl⟩ := Option.map_eq_some_iff.mp h
      obtain continues | ⟨-, busy⟩ := Control.perform?_cases now a performed
      · obtain ⟨free, length⟩ := continues.launchFree quiet.launchFree
        exact ⟨⟨quiet.concluded, quiet.launches, free⟩, length⟩
      · exact absurd quiet.launchFree busy
  | read => exact absurd quiet.concluded (by simp [(read?_cases h).1])
  | notice => exact absurd quiet.concluded (by simp [(notice?_eq h).1])
  | resume i =>
      obtain ⟨handler, resumed, rfl⟩ := Option.map_eq_some_iff.mp h
      obtain ⟨p, member, due, stage⟩ := Handler.resume?_waiting resumed
      exact absurd stage (quiet.launches p member due)
  | complete i =>
      obtain ⟨handler, completed, rfl⟩ := Option.map_eq_some_iff.mp h
      obtain ⟨same, launches⟩ := Handler.complete?_eq completed
      refine ⟨⟨quiet.concluded, ?_, ?_⟩, by rw [control, same, control]⟩
      · intro p member
        exact quiet.launches p (launches p member)
      · rw [control, same]
        exact quiet.launchFree
  | write =>
      obtain ⟨same, concluded, launches⟩ := write?_eq h
      refine ⟨⟨concluded.trans quiet.concluded, ?_, ?_⟩, by rw [same]⟩
      · rw [launches]
        exact quiet.launches
      · rw [same]
        exact quiet.launchFree
  | discard =>
      obtain ⟨free, length⟩ := s.control.continues_disposeSession.launchFree quiet.launchFree
      rw [discard?_eq h]
      exact ⟨⟨quiet.concluded, quiet.launches, free⟩, length⟩

/-! ## Runs -/

/-- What can happen to a session: an activity of its own, or something that the editor or an
interpreter does at the other end of the pipes. -/
inductive Happening where
  | activity (now : Millis) (a : Activity)
  | editor (incoming outgoing : Framing.Pipe)
  | interpreter (i : Nat) (line : Framing.Line) (complaints : Framing.Pipe)
      (fate : Option (Option Int))

/-- The session afterwards; what is not possible does not happen. -/
def happen (s : Session) : Happening → Session
  | .activity now a => (s.perform? now a).getD s
  | .editor incoming outgoing => { s with incoming, outgoing }
  | .interpreter i line complaints fate =>
    { s with handler := s.handler.withControl (·.modifyDebuggee i fun d =>
        { d with link := { d.link with line, complaints, fate } }) }

/-- The session after all that has happened. -/
def run (s : Session) (happenings : List Happening) : Session := happenings.foldl happen s

/-- A session that nothing has happened to. -/
def opening (config : Monitor.Config) (home : String) (refusal : Option Monitor.Refusal)
    (patience : Millis) : Session :=
  { handler := { control := { config, home, refusal }, patience } }

theorem continues_interpreter (s : Session) (i : Nat) (line : Framing.Line)
    (complaints : Framing.Pipe) (fate : Option (Option Int)) :
    Continues s.control (s.happen (.interpreter i line complaints fate)).control := by
  refine Control.continues_modify _ i _ ?_
  intro d _ dismissed
  exact ⟨dismissed.disposed, dismissed.leaving⟩

theorem keeps_happen (s : Session) (h : Happening) : Keeps s.control (s.happen h).control := by
  cases h with
  | activity now a =>
      rw [happen]
      cases performed : s.perform? now a with
      | none => exact s.control.continues_refl.toKeeps
      | some s' => exact keeps_perform a performed
  | editor incoming outgoing => exact s.control.continues_refl.toKeeps
  | interpreter i line complaints fate =>
      exact (s.continues_interpreter i line complaints fate).toKeeps

theorem quiet_happen (quiet : s.Quiet) (h : Happening) :
    (s.happen h).Quiet ∧
      (s.happen h).control.debuggees.length = s.control.debuggees.length := by
  cases h with
  | activity now a =>
      rw [happen]
      cases performed : s.perform? now a with
      | none => exact ⟨quiet, rfl⟩
      | some s' => exact quiet_perform a quiet performed
  | editor incoming outgoing =>
      exact ⟨⟨quiet.concluded, quiet.launches, quiet.launchFree⟩, rfl⟩
  | interpreter i line complaints fate =>
      obtain ⟨free, length⟩ :=
        (s.continues_interpreter i line complaints fate).launchFree quiet.launchFree
      exact ⟨⟨quiet.concluded, quiet.launches, free⟩, length⟩

theorem keeps_run (s : Session) (happenings : List Happening) :
    Keeps s.control (s.run happenings).control := by
  induction happenings generalizing s with
  | nil => exact s.control.continues_refl.toKeeps
  | cons h happenings ih => exact (s.keeps_happen h).trans (ih (s.happen h))

theorem quiet_run (quiet : s.Quiet) (happenings : List Happening) :
    (s.run happenings).Quiet ∧
      (s.run happenings).control.debuggees.length = s.control.debuggees.length := by
  induction happenings generalizing s with
  | nil => exact ⟨quiet, rfl⟩
  | cons h happenings ih =>
      obtain ⟨quiet', length⟩ := quiet_happen quiet h
      obtain ⟨quiet'', length'⟩ := ih quiet'
      exact ⟨quiet'', length'.trans length⟩

theorem orderly_run (config : Monitor.Config) (home : String) (refusal : Option Monitor.Refusal)
    (patience : Millis) (happenings : List Happening) :
    ((opening config home refusal patience).run happenings).control.Orderly := by
  refine (keeps_run _ happenings).orderly ⟨?_, ?_⟩
  · intro i d found
    cases found
  · rintro i ⟨task, due, turn⟩
    cases turn

/-- When nothing is left to be done and the present interpreter has been given up, all are
dismissed. -/
theorem dismissed_of_idle (config : Monitor.Config) (home : String)
    (refusal : Option Monitor.Refusal) (patience : Millis) (happenings : List Happening)
    (idle : ((opening config home refusal patience).run happenings).control.isIdle = true)
    (present : ((opening config home refusal patience).run happenings).control.present = none) :
    ∀ d ∈ ((opening config home refusal patience).run happenings).control.debuggees,
      d.Dismissed := by
  intro d member
  obtain ⟨i, found⟩ := List.getElem?_of_mem member
  obtain dismissed | present' | ⟨task, due, turn⟩ :=
    (orderly_run config home refusal patience happenings).others i d found
  · exact dismissed
  · rw [present] at present'
    cases present'
  · simp [Control.isIdle, turn] at idle

theorem happen_conclusion (h : Happening) (before : s.concluded = false)
    (after : (s.happen h).concluded = true) :
    ∃ x : Session, Continues s.control x.control ∧ s.happen h = x.conclude := by
  cases h with
  | activity now a =>
      rw [happen] at after ⊢
      cases performed : s.perform? now a with
      | none =>
          rw [performed, Option.getD_none, before] at after
          cases after
      | some s' =>
          rw [performed] at after
          exact perform?_conclusion a performed before after
  | editor incoming outgoing | interpreter i line complaints fate =>
      exact absurd after (by simp [happen, before])

/-- What becomes of the interpreters of a session that has concluded. Those that had been started
before are dismissed for good, except one whose first status was still waited for; and if the
session was quiet, no other one is ever started. -/
theorem run_after_conclusion (config : Monitor.Config) (home : String)
    (refusal : Option Monitor.Refusal) (patience : Millis) (earlier later : List Happening)
    (last : Happening)
    (before : ((opening config home refusal patience).run earlier).concluded = false)
    (after : (((opening config home refusal patience).run earlier).happen last).concluded = true) :
    let concluded := ((opening config home refusal patience).run earlier).happen last
    (∀ i < concluded.control.debuggees.length, ¬ concluded.control.Awaits i →
      ∃ d, (concluded.run later).control.debuggees[i]? = some d ∧ d.Dismissed) ∧
    (concluded.Quiet → (concluded.run later).control.debuggees.length =
      concluded.control.debuggees.length) := by
  intro concluded
  refine ⟨?_, fun quiet => (quiet_run quiet later).2⟩
  intro i inside notAwaits
  obtain ⟨x, continues, same⟩ := happen_conclusion last before after
  have orderly : x.control.Orderly :=
    continues.orderly (orderly_run config home refusal patience earlier)
  have control : concluded.control = x.control.terminate := congrArg Session.control same
  have found := List.getElem?_eq_getElem inside
  have dismissed : (concluded.control.debuggees[i]).Dismissed := by
    rw [control] at notAwaits
    refine (Control.dismissed_or_awaits orderly i _ ?_).resolve_right notAwaits
    rw [← control]
    exact found
  exact (concluded.keeps_run later).dismissed i _ found dismissed

/-! ## A launch before the end, and one after it -/

/-- A launch, as an editor asks for it. -/
def launchRequest : Bytes :=
  Utf8.encode ("Content-Length: 77\r\n\r\n\x7b\"seq\":2,\"type\":\"request\"," ++
    "\"command\":\"launch\",\"arguments\":\x7b\"program\":\"p.bbc\"\x7d\x7d")

/-- The answer of an interpreter to message `id`; its fields stand in order, without their names. -/
def replyTo (id data : String) : Bytes :=
  Utf8.encode ("[\"\",\"\",\"" ++ id ++ "\"," ++ data ++ "]") ++ [4]

/-- The answers to the questions of the first tick. -/
def firstStatus : Bytes :=
  replyTo "1" "null" ++ replyTo "2" "null" ++ replyTo "3" "null" ++
    replyTo "4" "\"SetGlobalVariables\""

/-- A launch whose interpreter reports its first status before the editor closes its stream. -/
def launched : List Happening :=
  [.editor { octets := launchRequest } {}, .activity 0 .read, .activity 1000 (.resume 0),
      .activity 1000 (.control (.ask 0)), .activity 1000 (.control .grant)]
    ++ [.poll, .link .command, .link .command, .link .command, .link .command].map
      (fun a => .activity 2000 (.control (.debuggee 0 a)))
    ++ [.interpreter 0 { inbound := { octets := firstStatus } } {} none]
    ++ [.link .read, .link .read, .link .read, .link .read, .settle 0, .settle 0, .settle 0,
      .settle 0].map (fun a => .activity 2000 (.control (.debuggee 0 a)))
    ++ [.activity 2000 (.control .advance), .editor { writerGone := true } {}]

theorem run_after_conclusion_launched :
    let concluded := ((opening {} "/" none 1000).run launched).happen (.activity 2000 .read)
    let later := concluded.run [.activity 2000 .write, .activity 2000 (.control .advance)]
    concluded.concluded = true ∧ later.control.debuggees.length = 1 ∧
      ∃ d, later.control.debuggees[0]? = some d ∧ d.Dismissed := by
  intro concluded later
  obtain ⟨before, concludes, turn, stages, tasks, queue, length⟩ :
      ((opening {} "/" none 1000).run launched).concluded = false ∧ concluded.concluded = true ∧
        concluded.control.turn = some
          { task := { errand := .start "p.bbc" false true, asker := some 0 }, phase := .code 0 } ∧
        concluded.handler.launches.map (·.stage) = [.starting 0] ∧
        concluded.control.tasks = [] ∧ concluded.control.queue = [] ∧
        concluded.control.debuggees.length = 1 := by
    decide +kernel
  have awaitsNone : concluded.control.AwaitsNone :=
    Control.awaitsNone_of_turn turn (by intro i due; nofun)
  have launches : ∀ p ∈ concluded.handler.launches, ∀ due, p.stage ≠ .waiting due := by
    intro p member due waiting
    have listed := List.mem_map_of_mem (f := (·.stage)) member
    rw [stages, waiting] at listed
    simp at listed
  have free : concluded.control.LaunchFree :=
    ⟨by simp [tasks], by simp [queue], awaitsNone⟩
  obtain ⟨dismissed, kept⟩ := run_after_conclusion {} "/" none 1000 launched
    [.activity 2000 .write, .activity 2000 (.control .advance)] (.activity 2000 .read) before concludes
  have quiet : concluded.Quiet := ⟨concludes, launches, free⟩
  have inside : 0 < concluded.control.debuggees.length := length ▸ Nat.one_pos
  exact ⟨concludes, (kept quiet).trans length, dismissed 0 inside (awaitsNone 0)⟩

/-- A launch that waits for the end of the configuration when the editor closes its stream: the
session ends, and then an interpreter is started that nobody has dismissed. -/
theorem started_after_end :
    ¬ ∀ earlier later : List Happening,
      ((opening {} "/" none 60000).run earlier).ending.isSome = true →
      ((opening {} "/" none 60000).run (earlier ++ later)).control.debuggees.length =
          ((opening {} "/" none 60000).run earlier).control.debuggees.length ∧
        ∀ d ∈ ((opening {} "/" none 60000).run (earlier ++ later)).control.debuggees,
          d.isRunning = false := by
  intro claim
  have kept := (claim
    [.editor { octets := launchRequest, writerGone := true } {}, .activity 0 .read,
      .activity 0 .read, .activity 0 .write]
    [.activity 0 (.resume 0), .activity 0 (.control (.ask 0)), .activity 0 (.control .grant)]
    (by decide +kernel)).1
  exact absurd kept (by decide +kernel)

end Session

end DebugAdapter
