import Mathlib.Data.List.Perm.Basic
import DebugAdapter.Proofs.Session.Ending
/-!
# Requests and their responses

Every request is answered once. All but a launch are answered as they are handled; a launch is put
off, and answered when it turns out to be cancelled or to have no program, or when its start has
returned. What is produced goes into one queue, unless that is closed.
-/

namespace DebugAdapter

open Protocol

namespace Protocol

/-- Which request a response answers: its number and its command. -/
def Response.key (r : Response) : Int × String := (r.requestSeq, r.command)

/-- The number and the command of a request. -/
def Request.key (r : Request) : Int × String := (r.seq, r.command)

/-- Whether a command is put off. -/
def Command.isLaunch : Command → Bool
  | .launch _ | .attach _ => true
  | _ => false

/-- Whether a request is put off: a launch whose arguments can be read. -/
def Request.isPutOff (r : Request) : Bool :=
  match r.parse with
  | .ok command => command.isLaunch
  | .error _ => false

/-- The responses among some messages. -/
def responses (ms : List Outgoing) : List Response :=
  ms.filterMap fun m =>
    match m with
    | .response r => some r
    | .event _ => none

/-- Whether a message passes on a notice of execution control. -/
def Outgoing.isNotice : Outgoing → Bool
  | .event (.stopped _) | .event (.output _) | .event .terminated => true
  | _ => false

/-- The messages among some that pass on a notice. -/
def passedOn (ms : List Outgoing) : List Outgoing := ms.filter Outgoing.isNotice

end Protocol

namespace Session

/-! ## What is produced -/

namespace Handler

/-- Whether a function produces some messages: they are queued if the queue is open, and dropped if
it is closed. -/
def Produces (f : Handler → Handler) (h : Handler) (ms : List Outgoing) : Prop :=
  ∀ closed, (f { h with closed }).outbox = h.outbox ++ (if closed then [] else ms) ∧
    (f { h with closed }).closed = closed

variable {f : Handler → Handler} {h : Handler}

theorem send_outbox (h : Handler) (m : Outgoing) :
    (h.send m).outbox = h.outbox ++ (if h.closed then [] else [m]) ∧ (h.send m).closed = h.closed := by
  unfold send
  cases closed : h.closed <;> simp [closed]

theorem produces_nothing (same : ∀ closed, (f { h with closed }).outbox = h.outbox)
    (closed : ∀ closed, (f { h with closed }).closed = closed) : Produces f h [] := by
  intro c
  refine ⟨(same c).trans ?_, closed c⟩
  split <;> exact (List.append_nil _).symm

/-- A message is sent that does not depend on whether the queue is closed. -/
theorem produces_send {g : Handler → Handler} {m : Handler → Outgoing}
    (sends : ∀ h, f h = (g h).send (m h)) (same : ∀ closed, m { h with closed } = m h)
    (outbox : ∀ closed, (g { h with closed }).outbox = h.outbox)
    (closed : ∀ closed, (g { h with closed }).closed = closed) : Produces f h [m h] := by
  intro c
  rw [sends, ((g { h with closed := c }).send_outbox _).1, (send_outbox _ _).2, same, outbox, closed]
  exact ⟨rfl, rfl⟩

/-- A request is answered, and nothing else is produced. -/
theorem answers_respond {r : Request} {g : Handler → Handler} {p : Handler → Response}
    (sends : ∀ h, f h = (g h).respond (p h)) (same : ∀ closed, p { h with closed } = p h)
    (outbox : ∀ closed, (g { h with closed }).outbox = h.outbox)
    (closed : ∀ closed, (g { h with closed }).closed = closed) (key : (p h).key = r.key) :
    ∃ ms, Produces f h ms ∧ (responses ms).map Response.key = [r.key] ∧ passedOn ms = [] :=
  ⟨[.response (p h)], produces_send (m := fun h => .response (p h)) sends
    (fun c => congrArg _ (same c)) outbox closed, congrArg (fun key => [key]) key, by rfl⟩

theorem Produces.congr {g : Handler → Handler} {ms : List Outgoing} (produces : Produces g h ms)
    (same : ∀ closed, f { h with closed } = g { h with closed }) : Produces f h ms := by
  intro closed
  rw [same closed]
  exact produces closed

/-- One more message is sent. -/
theorem Produces.send {ms : List Outgoing} {m : Outgoing} (produces : Produces f h ms) :
    Produces (fun h => (f h).send m) h (ms ++ [m]) := by
  intro closed
  obtain ⟨outbox, same⟩ := produces closed
  rw [((f { h with closed }).send_outbox m).1, ((f { h with closed }).send_outbox m).2, outbox, same]
  refine ⟨?_, rfl⟩
  cases closed <;> simp

/-- The response to a command that is not put off. -/
theorem produces_carryOut (h : Handler) (now : Millis) (r : Request) (command : Command) :
    ∃ ms, Produces (fun h => h.carryOut now r command) h ms ∧
      (responses ms).map Response.key = (if command.isLaunch then [] else [r.key]) ∧
      passedOn ms = [] := by
  cases command with
  | launch args | attach args =>
      exact ⟨[], produces_nothing (fun _ => rfl) fun _ => rfl, rfl, rfl⟩
  | handshake args =>
      have answered : Produces (fun h => { h with
          invalidates := args.supportsInvalidatedEvent.getD false }.succeed r
          (.capabilities capabilities)) h [.response (.ok r (.capabilities capabilities))] :=
        produces_send (m := fun _ => .response (.ok r (.capabilities capabilities)))
          (fun _ => by rfl) (fun _ => by rfl) (fun _ => by rfl) (fun _ => by rfl)
      exact ⟨_, answered.send, by rfl, by rfl⟩
  | setBreakpoints args =>
      simp only [carryOut, setBreakpoints]
      cases args.source.path with
      | none =>
        exact answers_respond (fun _ => by rfl) (fun _ => by rfl) (fun _ => by rfl) (fun _ => by rfl) (by rfl)
      | some path =>
        exact answers_respond (fun _ => by rfl) (fun _ => by rfl) (fun _ => by rfl) (fun _ => by rfl) (by rfl)
  | disconnect args =>
      refine answers_respond (p := fun _ => .ack r) (fun _ => by rfl) (fun _ => by rfl) ?_ ?_ (by rfl)
      all_goals
        intro closed
        split <;> rfl
  | toggleFormatting =>
      cases invalidates : h.invalidates with
      | true =>
          have announced : Produces (fun h => { h with hex := !h.hex }.announce
              (.invalidated ["variables"])) h [.event (.invalidated ["variables"])] :=
            produces_send (m := fun _ => .event (.invalidated ["variables"]))
              (fun _ => by rfl) (fun _ => by rfl) (fun _ => by rfl) (fun _ => by rfl)
          refine ⟨_, (announced.send (m := .response (.ack r))).congr fun closed => ?_, by rfl,
            by rfl⟩
          simp only [carryOut, toggleFormatting, invalidates, if_true]
          rfl
      | false =>
          have acknowledged : Produces (fun h => { h with hex := !h.hex }.acknowledge r) h
              [.response (.ack r)] :=
            produces_send (m := fun _ => .response (.ack r))
              (fun _ => by rfl) (fun _ => by rfl) (fun _ => by rfl) (fun _ => by rfl)
          refine ⟨_, acknowledged.congr fun closed => ?_, by rfl, by rfl⟩
          simp only [carryOut, toggleFormatting, invalidates, Bool.false_eq_true, if_false]
  | configurationDone | terminate | setFunctionBreakpoints | setExceptionBreakpoints
  | breakpointLocations | setDataBreakpoints | dataBreakpointInfo | setInstructionBreakpoints
  | exceptionInfo | threads | stackTrace | scopes | «variables» | continue_ | next | evaluate
  | setExpression | completions | readMemory | cancel | unknown =>
      exact answers_respond (fun _ => by rfl) (fun _ => by rfl) (fun _ => by rfl) (fun _ => by rfl) (by rfl)

theorem produces_handle (h : Handler) (now : Millis) (r : Request) :
    ∃ ms, Produces (fun h => (h.handle now r).1) h ms ∧
      (responses ms).map Response.key = (if r.isPutOff then [] else [r.key]) ∧
      passedOn ms = [] := by
  unfold handle Request.isPutOff
  cases r.parse with
  | error e =>
      exact answers_respond (fun _ => by rfl) (fun _ => by rfl) (fun _ => by rfl) (fun _ => by rfl)
        (by rfl)
  | ok command => exact h.produces_carryOut now r command

/-- A launch that is answered when it goes on: it was cancelled, or has no program. -/
def isSettled (h : Handler) (p : PendingLaunch) : Bool :=
  h.cancelled.contains p.request.seq || p.args.program.isNone

/-- What is sent when a launch goes on. -/
def resumption (h : Handler) (p : PendingLaunch) : List Outgoing :=
  if h.cancelled.contains p.request.seq then [.response (.failure p.request "cancelled")]
  else if p.args.program.isNone then [.response (.error p.request noProgram)]
  else []

theorem produces_resumption (h : Handler) (i : Nat) (p : PendingLaunch) :
    Produces (fun h => h.resume i p) h (h.resumption p) := by
  unfold resumption
  cases cancelled : h.cancelled.contains p.request.seq with
  | true =>
      have answered : Produces (fun h => { h with
          launches := h.launches.eraseIdx i
          cancelled := h.cancelled.filter (· ≠ p.request.seq) }.respond
            (.failure p.request "cancelled")) h [.response (.failure p.request "cancelled")] :=
        produces_send (m := fun _ => .response (.failure p.request "cancelled"))
          (fun _ => by rfl) (fun _ => by rfl) (fun _ => by rfl) (fun _ => by rfl)
      refine answered.congr fun closed => ?_
      simp only [resume, cancelled, if_true]
  | false =>
      cases program : p.args.program with
      | none =>
          have answered : Produces (fun h => { h with launches := h.launches.eraseIdx i }.refuse
              p.request noProgram) h [.response (.error p.request noProgram)] :=
            produces_send (m := fun _ => .response (.error p.request noProgram))
              (fun _ => by rfl) (fun _ => by rfl) (fun _ => by rfl) (fun _ => by rfl)
          refine answered.congr fun closed => ?_
          simp only [resume, cancelled, program, Bool.false_eq_true, if_false]
      | some program =>
          refine produces_nothing (fun closed => ?_) fun closed => ?_
          all_goals simp only [resume, cancelled, program, Bool.false_eq_true, if_false]

/-- What is produced when a launch goes on. -/
theorem produces_resume (h : Handler) (i : Nat) (p : PendingLaunch) :
    ∃ ms, Produces (fun h => h.resume i p) h ms ∧
      (responses ms).map Response.key = (if h.isSettled p then [p.request.key] else []) ∧
      passedOn ms = [] := by
  refine ⟨h.resumption p, h.produces_resumption i p, ?_⟩
  unfold isSettled resumption
  cases h.cancelled.contains p.request.seq with
  | true => exact ⟨by rfl, by rfl⟩
  | false => cases p.args.program <;> exact ⟨by rfl, by rfl⟩

/-- A launch can go on or not, whether or not the queue is open. -/
theorem resume?_cases (h : Handler) (now : Millis) (abandoned : Bool) (i : Nat) :
    (∀ closed, ({ h with closed } : Handler).resume? now abandoned i = none) ∨
      ∃ p, h.launches[i]? = some p ∧ ∀ closed,
        ({ h with closed } : Handler).resume? now abandoned i =
          some (({ h with closed } : Handler).resume i p) := by
  simp only [resume?, Option.bind_eq_bind]
  cases h.launches[i]? with
  | none => exact .inl fun _ => rfl
  | some p =>
      simp only [Option.bind_some]
      cases p.stage with
      | starting errand => exact .inl fun _ => rfl
      | waiting due =>
          by_cases enough : (h.configured || abandoned || decide (due ≤ now)) = true
          · exact .inr ⟨p, rfl, fun _ => if_pos enough⟩
          · exact .inl fun _ => if_neg enough

theorem complete?_cases (h : Handler) (i : Nat) :
    (∀ closed, ({ h with closed } : Handler).complete? i = none) ∨
      ∃ p, h.launches[i]? = some p ∧ ∀ closed, ({ h with closed } : Handler).complete? i =
        some (({ h with closed, launches := h.launches.eraseIdx i } : Handler).respond
          (launchResponse p)) := by
  simp only [complete?, Option.bind_eq_bind]
  cases h.launches[i]? with
  | none => exact .inl fun _ => rfl
  | some p =>
      simp only [Option.bind_some]
      cases p.stage with
      | waiting due => exact .inl fun _ => rfl
      | starting errand =>
          by_cases returned : h.control.done.contains errand = true
          · exact .inr ⟨p, rfl, fun _ => if_pos returned⟩
          · exact .inl fun _ => if_neg returned

theorem produces_completion (h : Handler) (i : Nat) (p : PendingLaunch) :
    Produces (fun h => { h with launches := h.launches.eraseIdx i }.respond (launchResponse p))
      h [.response (launchResponse p)] :=
  produces_send (m := fun _ => .response (launchResponse p)) (fun _ => by rfl) (fun _ => by rfl)
    (fun _ => by rfl) (fun _ => by rfl)

theorem produces_complete (h : Handler) (i : Nat) (p : PendingLaunch) :
    ∃ ms, Produces (fun h => { h with launches := h.launches.eraseIdx i }.respond (launchResponse p))
        h ms ∧ (responses ms).map Response.key = [p.request.key] ∧ passedOn ms = [] := by
  refine ⟨_, h.produces_completion i p, ?_, by rfl⟩
  unfold launchResponse
  split <;> rfl

/-- The message that passes a notice on. -/
def messageOf : Control.Notice → Outgoing
  | .stopped reason => .event (.stopped { reason := stopName reason, threadId })
  | .output category text => .event (.output (outputOf category text))
  | .ended => .event .terminated

theorem isNotice_messageOf (n : Control.Notice) : (messageOf n).isNotice = true := by
  cases n <;> rfl

/-- A notice is passed on as one message. -/
theorem produces_notice (h : Handler) (n : Control.Notice) :
    Produces (fun h => h.notice n) h [messageOf n] := by
  cases n with
  | stopped | output | ended =>
      exact produces_send (m := fun _ => messageOf _) (fun _ => by rfl) (fun _ => by rfl)
        (fun _ => by rfl) (fun _ => by rfl)

/-! ## Launches -/

@[simp] theorem send_launches (h : Handler) (m : Outgoing) : (h.send m).launches = h.launches := by
  unfold send
  split <;> rfl

theorem launches_carryOut (h : Handler) (now : Millis) (r : Request) (command : Command) :
    (h.carryOut now r command).launches.map (·.request) =
      h.launches.map (·.request) ++ if command.isLaunch then [r] else [] := by
  have kept {h' : Handler} {m : Outgoing} (same : h'.launches = h.launches) :
      (h'.send m).launches.map (·.request) = h.launches.map (·.request) ++ [] := by
    rw [send_launches, same, List.append_nil]
  cases command with
  | launch args | attach args =>
      simp only [carryOut, launch, List.map_append]
      rfl
  | handshake args => exact kept (send_launches _ _)
  | setBreakpoints args =>
      simp only [carryOut, setBreakpoints]
      split <;> exact kept rfl
  | disconnect args =>
      refine kept ?_
      split <;> rfl
  | toggleFormatting =>
      refine kept ?_
      split
      · exact send_launches _ _
      · rfl
  | configurationDone | terminate | setFunctionBreakpoints | setExceptionBreakpoints
  | breakpointLocations | setDataBreakpoints | dataBreakpointInfo | setInstructionBreakpoints
  | exceptionInfo | threads | stackTrace | scopes | «variables» | continue_ | next | evaluate
  | setExpression | completions | readMemory | cancel | unknown => exact kept rfl

theorem launches_handle (h : Handler) (now : Millis) (r : Request) :
    (h.handle now r).1.launches.map (·.request) =
      h.launches.map (·.request) ++ if r.isPutOff then [r] else [] := by
  unfold handle Request.isPutOff
  cases r.parse with
  | error e => simp [refuse, respond]
  | ok command => exact h.launches_carryOut now r command

theorem notice_launches (h : Handler) (n : Control.Notice) : (h.notice n).launches = h.launches := by
  cases n <;> exact send_launches _ _

theorem launches_erase {h : Handler} {i : Nat} {p : PendingLaunch} (found : h.launches[i]? = some p) :
    List.Perm (p.request :: (h.launches.eraseIdx i).map (·.request)) (h.launches.map (·.request)) := by
  obtain ⟨inside, rfl⟩ := List.getElem?_eq_some_iff.mp found
  exact (List.getElem_cons_eraseIdx_perm inside).map (·.request)

/-- A launch that goes on is answered and gone, or stays where it is and waits for its start. -/
theorem resume_launches (h : Handler) (i : Nat) (p : PendingLaunch) : (h.resume i p).launches =
    if h.isSettled p then h.launches.eraseIdx i
    else h.launches.set i { p with stage := .starting h.errands } := by
  unfold isSettled resume
  cases cancelled : h.cancelled.contains p.request.seq with
  | true =>
      simp only [Bool.true_or, if_true, respond, send_launches]
  | false =>
      cases program : p.args.program with
      | none =>
          simp only [Bool.false_or, Option.isNone_none, Bool.false_eq_true, if_true, if_false, refuse,
            respond, send_launches]
      | some program =>
          simp only [Bool.false_or, Option.isNone_some, Bool.false_eq_true, if_false]

/-- A launch that goes on is answered, or still pending. -/
theorem launches_resume {h : Handler} {i : Nat} {p : PendingLaunch}
    (found : h.launches[i]? = some p) :
    List.Perm ((if h.isSettled p then [p.request] else []) ++ (h.resume i p).launches.map (·.request))
      (h.launches.map (·.request)) := by
  rw [resume_launches]
  split
  · exact launches_erase found
  · obtain ⟨inside, rfl⟩ := List.getElem?_eq_some_iff.mp found
    have same : (h.launches.map (·.request)).set i h.launches[i].request =
        h.launches.map (·.request) := by
      have inside_ : i < (h.launches.map (·.request)).length := by simpa using inside
      simpa using List.set_getElem_self inside_
    simp [List.map_set, same]

end Handler

/-! ## What happens in a session -/

/-- The request that is handled when something happens. -/
def handled? (s : Session) : Happening → Option Request
  | .activity _ .read =>
    if s.concluded then none
    else
      match (Framing.Headed.nextLenient Request.decoder (s.buffer ++ s.incoming.octets)).item with
      | .ok (some (.ok r)) => some r
      | _ => none
  | _ => none

/-- Only reading handles a request. -/
theorem handled?_read {s : Session} {h : Happening} {r : Request} (handled : s.handled? h = some r) :
    ∃ now, h = .activity now .read := by
  cases h with
  | activity now a => cases a <;> first | exact ⟨now, rfl⟩ | cases handled
  | editor incoming outgoing => cases handled
  | interpreter i line complaints fate => cases handled

/-- The launch that is answered when something happens: one that goes on and turns out to be
cancelled or to have no program, or one whose start has returned. -/
def settled? (s : Session) : Happening → Option PendingLaunch
  | .activity now (.resume i) =>
    if (s.handler.resume? now s.ending.isSome i).isSome then
      (s.handler.launches[i]?).filter s.handler.isSettled
    else none
  | .activity _ (.complete i) =>
    if (s.handler.complete? i).isSome then s.handler.launches[i]? else none
  | _ => none

/-- The requests that are answered when something happens, one at most. -/
def answered (s : Session) (h : Happening) : List Request :=
  ((s.handled? h).filter (!·.isPutOff)).toList ++ ((s.settled? h).map (·.request)).toList

/-- With an open or a closed queue. -/
def withClosed (s : Session) (closed : Bool) : Session :=
  { s with handler := { s.handler with closed } }

/-- What is produced for the editor, whether or not the queue is open. -/
def produced (s : Session) (h : Happening) : List Outgoing :=
  ((s.withClosed false).happen h).handler.outbox.drop s.handler.outbox.length

/-- What is put into the queue. -/
def queued (s : Session) (h : Happening) : List Outgoing :=
  (s.happen h).handler.outbox.drop s.handler.outbox.length

/-- Whether something makes the queue grow by what is produced: `ms`, if the queue is open. -/
def Yields (s : Session) (h : Happening) (ms : List Outgoing) : Prop :=
  ∀ closed, ((s.withClosed closed).happen h).handler.outbox =
    s.handler.outbox ++ if closed then [] else ms

variable {s : Session} {h : Happening}

theorem Yields.produced {ms : List Outgoing} (yields : s.Yields h ms) : s.produced h = ms := by
  rw [Session.produced, yields false, List.drop_left]
  rfl

theorem Yields.queued {ms : List Outgoing} (yields : s.Yields h ms) :
    s.queued h = if s.handler.closed then [] else ms := by
  have grown : (s.happen h).handler.outbox = _ := yields s.handler.closed
  rw [Session.queued, grown, List.drop_left]

theorem yields_nothing
    (same : ∀ closed, ((s.withClosed closed).happen h).handler.outbox = s.handler.outbox) :
    s.Yields h [] := by
  intro closed
  rw [same closed]
  cases closed <;> exact (List.append_nil _).symm

/-- What is not possible yields nothing. -/
theorem yields_impossible {now : Millis} {a : Activity}
    (impossible : ∀ closed, (s.withClosed closed).perform? now a = none) :
    s.Yields (.activity now a) [] := by
  refine yields_nothing fun closed => ?_
  rw [happen, impossible closed]
  rfl

theorem yields_of_produces {now : Millis} {a : Activity} {f : Handler → Handler} {ms : List Outgoing}
    (performed : ∀ closed, ((s.withClosed closed).perform? now a).map (·.handler.outbox) =
      some (f { s.handler with closed }).outbox)
    (produces : Handler.Produces f s.handler ms) : s.Yields (.activity now a) ms := by
  intro closed
  obtain ⟨s', possible, outbox⟩ := Option.map_eq_some_iff.mp (performed closed)
  rw [happen, possible, Option.getD_some, outbox, (produces closed).1]

theorem handle_outbox (s : Session) (now : Millis) (r : Request) :
    (s.handle now r).handler.outbox = (s.handler.handle now r).1.outbox := by
  unfold handle
  dsimp only
  split <;> rfl

/-- Reading handles a request, or does no more than to conclude the session. -/
theorem read_cases (s : Session) (now : Millis) :
    ∃ (buffer : Bytes) (incoming : Framing.Pipe),
      (∃ r, s.handled? (.activity now .read) = some r ∧
          s.happen (.activity now .read) = ({ s with buffer, incoming } : Session).handle now r) ∨
        s.handled? (.activity now .read) = none ∧
          (s.happen (.activity now .read) = { s with buffer, incoming } ∨
            s.happen (.activity now .read) = ({ s with buffer, incoming } : Session).conclude) := by
  have read : s.happen (.activity now .read) = (s.read? now).getD s := rfl
  by_cases concluded : s.concluded = true
  · refine ⟨s.buffer, s.incoming, .inr ⟨if_pos concluded, .inl ?_⟩⟩
    rw [read, read?, if_pos concluded]
    rfl
  · simp only [read, read?, handled?, if_neg concluded]
    generalize Framing.Headed.nextLenient Request.decoder (s.buffer ++ s.incoming.octets) = t
    cases t.item with
    | error e => exact ⟨t.buffer, { s.incoming with octets := [] }, .inr ⟨rfl, .inr rfl⟩⟩
    | ok frame =>
        cases frame with
        | some frame =>
            cases frame with
            | error bad => exact ⟨t.buffer, { s.incoming with octets := [] }, .inr ⟨rfl, .inl rfl⟩⟩
            | ok r => exact ⟨t.buffer, { s.incoming with octets := [] }, .inl ⟨r, rfl, rfl⟩⟩
        | none =>
            dsimp only
            split
            · exact ⟨t.buffer, { s.incoming with octets := [] }, .inr ⟨rfl, .inr rfl⟩⟩
            · split
              · exact ⟨s.buffer, s.incoming, .inr ⟨rfl, .inl rfl⟩⟩
              · exact ⟨t.buffer, { s.incoming with octets := [] }, .inr ⟨rfl, .inl rfl⟩⟩

/-- The handling of a request yields what the handler produces. -/
theorem yields_handle {now : Millis} {r : Request} {ms : List Outgoing}
    (handled : s.handled? (.activity now .read) = some r)
    (produces : Handler.Produces (fun h => (h.handle now r).1) s.handler ms) :
    s.Yields (.activity now .read) ms := by
  intro closed
  have handled' : (s.withClosed closed).handled? (.activity now .read) = some r := handled
  obtain ⟨buffer, incoming, ⟨r', some_, same⟩ | ⟨none_, -⟩⟩ := (s.withClosed closed).read_cases now
  · cases handled'.symm.trans some_
    rw [← (produces closed).1, same, handle_outbox]
    rfl
  · cases handled'.symm.trans none_

/-- What carrying out a command produces. -/
theorem produced_carryOut {now : Millis} {r : Request} {command : Command} {ms : List Outgoing}
    (handled : s.handled? (.activity now .read) = some r) (parsed : r.parse = .ok command)
    (produces : Handler.Produces (fun h => h.carryOut now r command) s.handler ms) :
    s.produced (.activity now .read) = ms := by
  have handles (closed : Bool) : ({ s.handler with closed }.handle now r).1 =
      { s.handler with closed }.carryOut now r command := by
    simp only [Handler.handle, parsed]
  exact (yields_handle handled (produces.congr handles)).produced

theorem yields_read (s : Session) (now : Millis) :
    ∃ ms, s.Yields (.activity now .read) ms ∧
      (responses ms).map Response.key = (s.answered (.activity now .read)).map Request.key ∧
      passedOn ms = [] := by
  cases handled : s.handled? (.activity now .read) with
  | none =>
      refine ⟨[], yields_nothing fun closed => ?_, by simp [answered, settled?, handled, responses],
        rfl⟩
      have handled' : (s.withClosed closed).handled? (.activity now .read) = none := handled
      obtain ⟨buffer, incoming, ⟨r, some_, -⟩ | ⟨-, same | same⟩⟩ :=
        (s.withClosed closed).read_cases now
      · cases handled'.symm.trans some_
      · rw [same]
        rfl
      · rw [same]
        rfl
  | some r =>
      obtain ⟨ms, produces, keys, silent⟩ := s.handler.produces_handle now r
      refine ⟨ms, yields_handle handled produces, ?_, silent⟩
      rw [keys]
      cases putOff : r.isPutOff <;> simp [answered, settled?, handled, Option.filter, putOff]

/-- The notice that is passed on when something happens. -/
def passed? (s : Session) : Happening → Option Control.Notice
  | .activity _ .notice => if s.concluded then none else s.handler.control.notices.head?
  | _ => none

/-- Whatever happens but for writing yields the responses to the requests that are answered, and
passes on a notice at most. -/
theorem yields_happen (s : Session) (h : Happening) (other : ∀ now, h ≠ .activity now .write) :
    ∃ ms, s.Yields h ms ∧ (responses ms).map Response.key = (s.answered h).map Request.key ∧
      passedOn ms = ((s.passed? h).map Handler.messageOf).toList := by
  cases h with
  | editor incoming outgoing => exact ⟨[], yields_nothing fun _ => rfl, rfl, rfl⟩
  | interpreter i line complaints fate => exact ⟨[], yields_nothing fun _ => rfl, rfl, rfl⟩
  | activity now a =>
      cases a with
      | control a =>
          refine ⟨[], yields_nothing fun closed => ?_, rfl, rfl⟩
          simp only [happen, perform?, withClosed]
          cases s.handler.control.perform? now a <;> rfl
      | read => exact s.yields_read now
      | notice =>
          cases concluded : s.concluded with
          | true =>
              refine ⟨[], yields_impossible fun closed => ?_, rfl, by simp [passed?, concluded, passedOn]⟩
              simp only [perform?, notice?, withClosed, concluded, if_true]
          | false =>
              cases notices : s.handler.control.notices with
              | nil =>
                  refine ⟨[], yields_impossible fun closed => ?_, rfl,
                    by simp [passed?, notices, passedOn]⟩
                  simp only [perform?, notice?, withClosed, notices, concluded, Bool.false_eq_true,
                    if_false]
              | cons n rest =>
                  have produces :=
                    (s.handler.withControl ({ · with notices := rest })).produces_notice n
                  refine ⟨_, yields_of_produces (f := fun h =>
                    (h.withControl ({ · with notices := rest })).notice n) (fun closed => ?_) produces,
                    by cases n <;> rfl,
                    by simp [passed?, concluded, notices, passedOn, Handler.isNotice_messageOf]⟩
                  simp only [perform?, notice?, withClosed, notices, concluded, Bool.false_eq_true,
                    if_false]
                  rfl
      | resume i =>
          obtain impossible | ⟨p, found, possible⟩ :=
            s.handler.resume?_cases now s.ending.isSome i
          · refine ⟨[], yields_impossible fun closed => ?_, ?_, rfl⟩
            · simp only [perform?, withClosed]
              rw [impossible closed]
              rfl
            · have none_ : s.handler.resume? now s.ending.isSome i = none :=
                impossible s.handler.closed
              simp only [answered, handled?, settled?, none_]
              rfl
          · obtain ⟨ms, produces, keys, silent⟩ := s.handler.produces_resume i p
            refine ⟨ms, yields_of_produces (f := fun h => h.resume i p) (fun closed => ?_) produces, ?_,
              silent⟩
            · simp only [perform?, withClosed]
              rw [possible closed]
              rfl
            · have some_ : s.handler.resume? now s.ending.isSome i = some (s.handler.resume i p) :=
                possible s.handler.closed
              rw [keys]
              simp only [answered, handled?, settled?, some_, found, Option.filter]
              cases s.handler.isSettled p <;> rfl
      | complete i =>
          obtain impossible | ⟨p, found, possible⟩ := s.handler.complete?_cases i
          · refine ⟨[], yields_impossible fun closed => ?_, ?_, rfl⟩
            · simp only [perform?, withClosed]
              rw [impossible closed]
              rfl
            · have none_ : s.handler.complete? i = none := impossible s.handler.closed
              simp only [answered, handled?, settled?, none_]
              rfl
          · obtain ⟨ms, produces, keys, silent⟩ := s.handler.produces_complete i p
            refine ⟨ms, yields_of_produces (f := fun h =>
              { h with launches := h.launches.eraseIdx i }.respond (Handler.launchResponse p))
              (fun closed => ?_) produces, ?_, silent⟩
            · simp only [perform?, withClosed]
              rw [possible closed]
              rfl
            · have some_ : (s.handler.complete? i).isSome = true := by
                rw [possible s.handler.closed]
                rfl
              rw [keys]
              simp only [answered, handled?, settled?, some_, found]
              rfl
      | write => exact absurd rfl (other now)
      | discard =>
          refine ⟨[], yields_nothing fun closed => ?_, rfl, rfl⟩
          rw [happen]
          cases performed : (s.withClosed closed).perform? now .discard with
          | none => rfl
          | some s' =>
              rw [discard?_eq performed]
              rfl

/-- A launch is pending from when it is put off until it is answered. -/
theorem launches_happen (s : Session) (h : Happening) :
    List.Perm
      (((s.settled? h).map (·.request)).toList ++ (s.happen h).handler.launches.map (·.request))
      (s.handler.launches.map (·.request) ++ ((s.handled? h).filter (·.isPutOff)).toList) := by
  have kept (settled : s.settled? h = none) (handled : s.handled? h = none)
      (same : (s.happen h).handler.launches = s.handler.launches) : List.Perm
      (((s.settled? h).map (·.request)).toList ++ (s.happen h).handler.launches.map (·.request))
      (s.handler.launches.map (·.request) ++ ((s.handled? h).filter (·.isPutOff)).toList) := by
    rw [settled, handled, same]
    exact (List.append_nil _).symm ▸ .refl _
  cases h with
  | editor incoming outgoing => exact kept rfl rfl rfl
  | interpreter i line complaints fate => exact kept rfl rfl rfl
  | activity now a =>
      cases a with
      | control a =>
          refine kept rfl rfl ?_
          simp only [happen, perform?]
          cases s.handler.control.perform? now a <;> rfl
      | read =>
          obtain ⟨buffer, incoming, ⟨r, handled, same⟩ | ⟨handled, quiet | concluded⟩⟩ :=
            s.read_cases now
          · have launches : (s.happen (.activity now .read)).handler.launches =
                (s.handler.handle now r).1.launches := by
              rw [same]
              unfold handle
              dsimp only
              split <;> rfl
            rw [launches, handled, Handler.launches_handle]
            cases putOff : r.isPutOff <;> simp [settled?, Option.filter, putOff]
          · exact kept rfl handled (by rw [quiet])
          · exact kept rfl handled (by rw [concluded]; rfl)
      | notice =>
          refine kept rfl rfl ?_
          simp only [happen, perform?, notice?]
          split
          · rfl
          · split
            · rfl
            · exact Handler.notice_launches _ _
      | resume i =>
          obtain impossible | ⟨p, found, possible⟩ :=
            s.handler.resume?_cases now s.ending.isSome i
          · have none_ : s.handler.resume? now s.ending.isSome i = none :=
              impossible s.handler.closed
            refine kept ?_ rfl ?_
            · simp only [settled?, none_]
              rfl
            · simp only [happen, perform?, none_]
              rfl
          · have some_ : s.handler.resume? now s.ending.isSome i = some (s.handler.resume i p) :=
              possible s.handler.closed
            have launches : (s.happen (.activity now (.resume i))).handler.launches =
                (s.handler.resume i p).launches := by
              simp only [happen, perform?, some_]
              rfl
            rw [launches]
            refine .trans ?_ ((Handler.launches_resume found).trans (by simp [handled?]))
            cases settled : s.handler.isSettled p <;>
              simp [settled?, some_, found, Option.filter, settled]
      | complete i =>
          obtain impossible | ⟨p, found, possible⟩ := s.handler.complete?_cases i
          · have none_ : s.handler.complete? i = none := impossible s.handler.closed
            refine kept ?_ rfl ?_
            · simp only [settled?, none_]
              rfl
            · simp only [happen, perform?, none_]
              rfl
          · have some_ := possible s.handler.closed
            have launches : (s.happen (.activity now (.complete i))).handler.launches =
                s.handler.launches.eraseIdx i := by
              simp only [happen, perform?]
              rw [some_]
              exact Handler.send_launches _ _
            have settled : s.settled? (.activity now (.complete i)) = some p := by
              simp only [settled?]
              rw [some_]
              exact found
            rw [launches, settled]
            exact (Handler.launches_erase found).trans (by simp [handled?])
      | write =>
          refine kept rfl rfl ?_
          rw [happen]
          cases performed : s.perform? now .write with
          | none => rfl
          | some s' => exact (write?_eq performed).2.2
      | discard =>
          refine kept rfl rfl ?_
          rw [happen]
          cases performed : s.perform? now .discard with
          | none => rfl
          | some s' =>
              rw [discard?_eq performed]
              rfl

end Session

end DebugAdapter
