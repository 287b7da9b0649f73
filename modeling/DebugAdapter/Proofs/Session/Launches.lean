import DebugAdapter.Proofs.Control.Starts
import DebugAdapter.Proofs.Session.Arrival
/-!
# Launches that are put off

What a single happening does to the launches that are not answered, to what they depend on, and to
the starts that they ask for. A launch goes on only when its wait is over; what it comes to then
depends on whether its number is among those that are cancelled.
-/

namespace DebugAdapter

open Control (Asks Moment Task)
open Protocol

namespace Protocol

/-- The arguments of a launch. -/
def Command.launch? : Command → Option Launch
  | .launch args | .attach args => some args
  | _ => none

/-- The number that a command cancels. -/
def Command.cancels? : Command → Option Int
  | .cancel args => args.requestId
  | _ => none

/-- Whether a command is the end of the configuration. -/
def Command.configures : Command → Bool
  | .configurationDone => true
  | _ => false

/-- The command of a request, unless its arguments are wrong. -/
def Request.command? (r : Request) : Option Command := r.parse.toOption

theorem Request.isPutOff_eq (r : Request) : r.isPutOff = (r.command?.bind Command.launch?).isSome := by
  unfold Request.isPutOff Request.command?
  cases r.parse with
  | error e => rfl
  | ok command => cases command <;> rfl

end Protocol

namespace Session

/-! ## Requests -/

namespace Handler

/-- Whether nothing is different that a launch depends on. -/
structure Alike (h h' : Handler) : Prop where
  configured : h'.configured = h.configured
  cancelled : h'.cancelled = h.cancelled
  launches : h'.launches = h.launches
  errands : h'.errands = h.errands
  patience : h'.patience = h.patience

theorem Alike.refl (h : Handler) : Alike h h := ⟨rfl, rfl, rfl, rfl, rfl⟩

theorem Alike.send {h h' : Handler} (alike : Alike h h') (m : Outgoing) : Alike h (h'.send m) := by
  unfold Handler.send
  split
  · exact alike
  · exact { alike with }

/-- What a request does to all that a launch depends on. -/
structure Heeds (h h' : Handler) (now : Millis) (r : Request) : Prop where
  configured : h'.configured = (h.configured || r.command?.any Command.configures)
  cancelled : h'.cancelled = h.cancelled ++ (r.command?.bind Command.cancels?).toList
  launches : h'.launches = h.launches ++ ((r.command?.bind Command.launch?).map fun args =>
    { request := r, args, stage := .waiting (now + h.patience) }).toList
  errands : h'.errands = h.errands
  patience : h'.patience = h.patience

theorem Alike.heeds {h h' : Handler} {now : Millis} {r : Request} (alike : Alike h h')
    (configures : r.command?.any Command.configures = false)
    (cancels : r.command?.bind Command.cancels? = none)
    (launch : r.command?.bind Command.launch? = none) : Heeds h h' now r where
  configured := by rw [alike.configured, configures, Bool.or_false]
  cancelled := by rw [alike.cancelled, cancels]; exact (List.append_nil _).symm
  launches := by rw [alike.launches, launch]; exact (List.append_nil _).symm
  errands := alike.errands
  patience := alike.patience

theorem heeds_carryOut (h : Handler) (now : Millis) (r : Request) {command : Command}
    (parsed : r.command? = some command) : Heeds h (h.carryOut now r command) now r := by
  have plain {h' : Handler} (alike : Alike h h') (configures : command.configures = false)
      (cancels : command.cancels? = none) (launch : command.launch? = none) : Heeds h h' now r :=
    alike.heeds (by rw [parsed]; exact configures) (by rw [parsed]; exact cancels)
      (by rw [parsed]; exact launch)
  have same : Alike h h := .refl h
  cases command with
  | launch args | attach args =>
      exact ⟨by rw [parsed]; exact (Bool.or_false _).symm,
        by rw [parsed]; exact (List.append_nil _).symm, by rw [parsed]; rfl, rfl, rfl⟩
  | configurationDone =>
      have told : Alike { h with configured := true } (h.carryOut now r .configurationDone) :=
        (Alike.refl _).send _
      exact ⟨by rw [told.configured, parsed]; exact (Bool.or_true _).symm,
        by rw [told.cancelled, parsed]; exact (List.append_nil _).symm,
        by rw [told.launches, parsed]; exact (List.append_nil _).symm, told.errands, told.patience⟩
  | cancel args =>
      have told : Alike { h with cancelled := h.cancelled ++ args.requestId.toList }
          (h.carryOut now r (.cancel args)) := (Alike.refl _).send _
      exact ⟨by rw [told.configured, parsed]; exact (Bool.or_false _).symm,
        by rw [told.cancelled, parsed]; rfl,
        by rw [told.launches, parsed]; exact (List.append_nil _).symm, told.errands, told.patience⟩
  | handshake args =>
      refine plain (Alike.send (Alike.send ?_ _) _) rfl rfl rfl
      exact { same with }
  | setBreakpoints args =>
      refine plain ?_ rfl rfl rfl
      simp only [carryOut, setBreakpoints]
      split
      · refine Alike.send ?_ _
        exact same
      · refine Alike.send ?_ _
        exact { same with }
  | disconnect args =>
      refine plain (Alike.send ?_ _) rfl rfl rfl
      split
      · exact { same with }
      · exact same
  | toggleFormatting =>
      refine plain (Alike.send ?_ _) rfl rfl rfl
      split
      · refine Alike.send ?_ _
        exact { same with }
      · exact { same with }
  | terminate | setFunctionBreakpoints | setExceptionBreakpoints
  | breakpointLocations | setDataBreakpoints | dataBreakpointInfo | setInstructionBreakpoints
  | exceptionInfo | threads | stackTrace | scopes | «variables» | continue_ | next | evaluate
  | setExpression | completions | readMemory | unknown =>
      refine plain (Alike.send ?_ _) rfl rfl rfl
      exact { same with }

theorem heeds_handle (h : Handler) (now : Millis) (r : Request) : Heeds h (h.handle now r).1 now r := by
  unfold handle
  cases parsed : r.parse with
  | error e =>
      have none_ : r.command? = none := by rw [Request.command?, parsed]; rfl
      exact ((Alike.refl h).send _).heeds (by rw [none_]; rfl) (by rw [none_]; rfl)
        (by rw [none_]; rfl)
  | ok command => exact h.heeds_carryOut now r (by rw [Request.command?, parsed]; rfl)

/-- The start that a launch asks for when it goes on. -/
def startOf (h : Handler) (p : PendingLaunch) : List Task :=
  if h.cancelled.contains p.request.seq then []
  else (p.args.program.map fun program =>
    { errand := .start program (p.args.stopOnEntry.getD false) (!p.args.noDebug.getD false)
      asker := some h.errands }).toList

/-- A launch goes on: it waits no longer, and has asked for its start. -/
structure Goes (h h' : Handler) (p : PendingLaunch) : Prop where
  configured : h'.configured = h.configured
  patience : h'.patience = h.patience
  cancelled : ∀ id ≠ p.request.seq, id ∈ h'.cancelled ↔ id ∈ h.cancelled
  asks : Asks h.control h'.control (h.startOf p)
  errands : h'.errands = h.errands + (h.startOf p).length

theorem send_eq (h : Handler) (m : Outgoing) : h.send m = { h with outbox := (h.send m).outbox } := by
  unfold send
  split <;> rfl

theorem goes_resume (h : Handler) (i : Nat) (p : PendingLaunch) : Goes h (h.resume i p) p := by
  cases cancelled : h.cancelled.contains p.request.seq with
  | true =>
      have none_ : h.startOf p = [] := by simp only [startOf, cancelled, if_true]
      simp only [resume, cancelled, if_true, respond]
      rw [send_eq]
      refine ⟨rfl, rfl, ?_, none_ ▸ .refl _, by rw [none_]; rfl⟩
      intro id other
      simp [other]
  | false =>
      simp only [resume, cancelled, Bool.false_eq_true, if_false]
      cases named : p.args.program with
      | none =>
          have none_ : h.startOf p = [] := by simp [startOf, named]
          simp only [refuse, respond]
          rw [send_eq]
          exact ⟨rfl, rfl, fun _ _ => .rfl, none_ ▸ .refl _, by rw [none_]; rfl⟩
      | some program =>
          have start : h.startOf p = [⟨.start program (p.args.stopOnEntry.getD false)
              (!p.args.noDebug.getD false), some h.errands⟩] := by
            simp only [startOf, cancelled, named, Bool.false_eq_true, if_false]
            rfl
          exact ⟨rfl, rfl, fun _ _ => .rfl, ⟨by rw [start]; rfl, rfl, rfl⟩, by rw [start]; rfl⟩

/-! ## Launches that wait -/

/-- Whether a launch has not gone on. -/
def isWaiting (p : PendingLaunch) : Bool :=
  match p.stage with
  | .waiting _ => true
  | .starting _ => false

/-- The launches that have not gone on. -/
def waiting (h : Handler) : List PendingLaunch := h.launches.filter isWaiting

theorem waiting_erase {h : Handler} {i : Nat} {p : PendingLaunch} (found : h.launches[i]? = some p) :
    List.Perm ((if isWaiting p then [p] else []) ++ (h.launches.eraseIdx i).filter isWaiting)
      h.waiting := by
  obtain ⟨inside, rfl⟩ := List.getElem?_eq_some_iff.mp found
  have moved := (List.getElem_cons_eraseIdx_perm inside).filter isWaiting
  cases waits : isWaiting h.launches[i] with
  | true =>
      rw [List.filter_cons_of_pos waits] at moved
      exact moved
  | false =>
      rw [List.filter_cons_of_neg (by simp [waits])] at moved
      exact moved

/-- A launch that goes on waits no longer, whatever it comes to. -/
theorem waiting_resume {h : Handler} {i : Nat} {p : PendingLaunch} (found : h.launches[i]? = some p)
    (waits : isWaiting p = true) : List.Perm (p :: (h.resume i p).waiting) h.waiting := by
  have gone := waiting_erase found
  rw [if_pos waits] at gone
  refine .trans (.cons p ?_) gone
  rw [waiting, resume_launches]
  split
  · exact .refl _
  · -- It stays where it is, and is no longer listed.
    obtain ⟨inside, -⟩ := List.getElem?_eq_some_iff.mp found
    have moved := (List.set_perm_cons_eraseIdx inside
      { p with stage := .starting h.errands }).filter isWaiting
    rwa [List.filter_cons_of_neg (by simp [isWaiting])] at moved

end Handler

/-! ## What happens to launches -/

/-- The launch that goes on when something happens. -/
def resumed? (s : Session) : Happening → Option PendingLaunch
  | .activity now (.resume i) =>
    if (s.handler.resume? now s.ending.isSome i).isSome then s.handler.launches[i]? else none
  | _ => none

/-- The command that is carried out when something happens. -/
def command? (s : Session) (h : Happening) : Option Command := (s.handled? h).bind Request.command?

/-- The starts that are asked for when something happens. -/
def startsAsked (s : Session) (h : Happening) : List Task := s.control.startsAsked (s.happen h).control

/-- The start that gets its turn when something happens. -/
def startGranted (s : Session) (h : Happening) : List Task :=
  ((s.moment? h).map Moment.startGranted).getD []

open Handler (Alike Heeds isWaiting)

/-- What a happening does to launches. -/
inductive Affects (s : Session) (h : Happening) : Prop
  | resumes {now : Millis} {i : Nat} {p : PendingLaunch} {due : Millis}
      (happening : h = .activity now (.resume i)) (found : s.handler.launches[i]? = some p)
      (stage : p.stage = .waiting due)
      (ripe : s.handler.configured = true ∨ s.ending.isSome = true ∨ due ≤ now)
      (resumed : s.resumed? h = some p) (after : (s.happen h).handler = s.handler.resume i p)
  | handles {now : Millis} {r : Request} (happening : h = .activity now .read)
      (handled : s.handled? h = some r) (heeds : Heeds s.handler (s.happen h).handler now r)
  | completes {now : Millis} {i : Nat} {p : PendingLaunch}
      (happening : h = .activity now (.complete i)) (found : s.handler.launches[i]? = some p)
      (started : isWaiting p = false)
      (same : Alike { s.handler with launches := s.handler.launches.eraseIdx i } (s.happen h).handler)
  | nothing (unresumed : s.resumed? h = none) (unhandled : s.handled? h = none)
      (same : Alike s.handler (s.happen h).handler)

theorem heeds_handle (s : Session) (now : Millis) (r : Request) :
    Heeds s.handler (s.handle now r).handler now r := by
  have heeds := s.handler.heeds_handle now r
  unfold handle
  dsimp only
  split
  · exact { heeds with }
  · exact heeds

theorem resume?_eq {h h' : Handler} {now : Millis} {abandoned : Bool} {i : Nat}
    (resumed : h.resume? now abandoned i = some h') :
    ∃ p due, h.launches[i]? = some p ∧ p.stage = .waiting due ∧
      (h.configured = true ∨ abandoned = true ∨ due ≤ now) ∧ h' = h.resume i p := by
  obtain ⟨p, found, resumed⟩ := Option.bind_eq_some_iff.mp resumed
  split at resumed
  · rename_i due stage
    split at resumed
    · rename_i ripe
      cases resumed
      rw [Bool.or_eq_true, Bool.or_eq_true, decide_eq_true_eq, or_assoc] at ripe
      exact ⟨p, due, found, stage, ripe, rfl⟩
    · cases resumed
  · cases resumed

theorem affects (s : Session) (h : Happening) : s.Affects h := by
  have idle {now : Millis} {a : Activity} (unresumed : s.resumed? (.activity now a) = none)
      (unhandled : s.handled? (.activity now a) = none) (impossible : s.perform? now a = none) :
      s.Affects (.activity now a) := by
    refine .nothing unresumed unhandled ?_
    rw [happen, impossible]
    exact .refl _
  cases h with
  | editor incoming outgoing => exact .nothing rfl rfl (.refl _)
  | interpreter i line complaints fate => exact .nothing rfl rfl ⟨rfl, rfl, rfl, rfl, rfl⟩
  | activity now a =>
      cases a with
      | control a =>
          refine .nothing rfl rfl ?_
          simp only [happen, perform?]
          cases s.handler.control.perform? now a with
          | none => exact .refl _
          | some c => exact ⟨rfl, rfl, rfl, rfl, rfl⟩
      | read =>
          obtain ⟨buffer, incoming, ⟨r, handled, same⟩ | ⟨unhandled, same | same⟩⟩ := s.read_cases now
          · refine .handles rfl handled ?_
            rw [same]
            exact heeds_handle { s with buffer, incoming } now r
          · refine .nothing rfl unhandled ?_
            rw [same]
            exact .refl _
          · refine .nothing rfl unhandled ?_
            rw [same]
            exact ⟨rfl, rfl, rfl, rfl, rfl⟩
      | notice =>
          cases performed : s.perform? now .notice with
          | none => exact idle rfl rfl performed
          | some s' =>
              obtain ⟨handler, rfl, acts⟩ := perform?_acts performed (by simp) (by simp)
              refine .nothing rfl rfl ?_
              rw [happen, performed]
              cases acts with
              | @notice n rest first =>
                  cases n <;>
                    (refine Alike.send ?_ _; exact ⟨rfl, rfl, rfl, rfl, rfl⟩)
      | resume i =>
          cases resumed : s.handler.resume? now s.ending.isSome i with
          | none =>
              refine idle ?_ rfl ?_
              · simp [resumed?, resumed]
              · simp [perform?, resumed]
          | some handler =>
              obtain ⟨p, due, found, stage, ripe, same⟩ := resume?_eq resumed
              refine .resumes rfl found stage ripe ?_ ?_
              · simp [resumed?, resumed, found]
              · simp [happen, perform?, resumed, same]
      | complete i =>
          cases completed : s.handler.complete? i with
          | none => exact idle rfl rfl (by simp [perform?, completed])
          | some handler =>
              obtain ⟨p, found, returned⟩ := Option.bind_eq_some_iff.mp completed
              split at returned
              · rename_i errand stage
                split at returned
                · cases returned
                  refine .completes rfl found (by rw [isWaiting, stage]) ?_
                  simp only [happen, perform?, completed, Option.map_some, Option.getD_some]
                  exact (Alike.refl _).send _
                · cases returned
              · cases returned
      | write =>
          refine .nothing rfl rfl ?_
          have writes := s.writes_happen now
          generalize s.happen (.activity now .write) = s' at writes ⊢
          cases writes with
          | written | refused | ended | idle => exact ⟨rfl, rfl, rfl, rfl, rfl⟩
      | discard =>
          cases performed : s.perform? now .discard with
          | none => exact idle rfl rfl performed
          | some s' =>
              refine .nothing rfl rfl ?_
              rw [happen, performed, Option.getD_some, discard?_eq performed]
              exact ⟨rfl, rfl, rfl, rfl, rfl⟩

/-- A launch waits from when it is put off until it goes on. -/
theorem waiting_happen (s : Session) (h : Happening) :
    List.Perm (((s.resumed? h).map (·.request)).toList ++
        (s.happen h).handler.waiting.map (·.request))
      (s.handler.waiting.map (·.request) ++ ((s.handled? h).filter (·.isPutOff)).toList) := by
  cases s.affects h with
  | @resumes now i p due happening found stage _ resumed after =>
      rw [resumed, after, happening]
      have gone := (Handler.waiting_resume found (by rw [isWaiting, stage])).map (·.request)
      exact gone.trans (.of_eq (List.append_nil _).symm)
  | @handles now r happening handled heeds =>
      rw [handled, Handler.waiting, heeds.launches, List.filter_append, List.map_append, happening]
      refine .append_left _ (.of_eq ?_)
      rw [Option.filter, r.isPutOff_eq]
      cases r.command?.bind Command.launch? <;> rfl
  | completes happening found started same =>
      rw [Handler.waiting, same.launches, happening]
      have gone := Handler.waiting_erase found
      rw [started] at gone
      exact (gone.map (·.request)).trans (.of_eq (List.append_nil _).symm)
  | nothing unresumed unhandled same =>
      rw [unresumed, unhandled, Handler.waiting, same.launches]
      exact .of_eq (List.append_nil _).symm

/-- What is sent when a launch goes on. -/
theorem produced_resumed {s : Session} {h : Happening} {p : PendingLaunch}
    (resumed : s.resumed? h = some p) : s.produced h = s.handler.resumption p := by
  cases h with
  | editor | interpreter => cases resumed
  | activity now a =>
      cases a with
      | resume i =>
          simp only [resumed?] at resumed
          split at resumed
          · rename_i possible
            obtain impossible | ⟨q, found, possible⟩ :=
              s.handler.resume?_cases now s.ending.isSome i
            · have none_ : s.handler.resume? now s.ending.isSome i = none :=
                impossible s.handler.closed
              rw [none_] at possible
              cases possible
            · cases found.symm.trans resumed
              refine Yields.produced (yields_of_produces (f := fun h => h.resume i p)
                (fun closed => ?_) (s.handler.produces_resumption i p))
              simp only [perform?, withClosed]
              rw [possible closed]
              rfl
          · cases resumed
      | control | read | notice | complete | write | discard => cases resumed

/-- A launch is answered when it goes on, or when its start has returned. -/
theorem settled_cases {s : Session} {h : Happening} {p : PendingLaunch}
    (settled : s.settled? h = some p) :
    s.resumed? h = some p ∧ s.handler.isSettled p = true ∨
      p ∈ s.handler.launches ∧ isWaiting p = false ∧
        s.produced h = [.response (Handler.launchResponse p)] := by
  cases h with
  | editor | interpreter => cases settled
  | activity now a =>
      cases a with
      | resume i =>
          simp only [settled?, resumed?] at settled ⊢
          split at settled
          · rename_i possible
            obtain ⟨found, answered⟩ := Option.filter_eq_some_iff.mp settled
            exact .inl ⟨(if_pos possible).trans found, answered⟩
          · cases settled
      | complete i =>
          obtain impossible | ⟨q, found, possible⟩ := s.handler.complete?_cases i
          · have none_ : s.handler.complete? i = none := impossible s.handler.closed
            simp [settled?, none_] at settled
          · have some_ := possible s.handler.closed
            have found' : s.handler.launches[i]? = some p := by
              simp only [settled?] at settled
              rw [some_] at settled
              exact settled
            cases found.symm.trans found'
            refine .inr ⟨List.mem_of_getElem? found, ?_, ?_⟩
            · cases stage : p.stage with
              | starting errand => rw [isWaiting, stage]
              | waiting due => simp [Handler.complete?, found, stage] at some_
            · refine Yields.produced (yields_of_produces (f := fun h =>
                { h with launches := h.launches.eraseIdx i }.respond (Handler.launchResponse p))
                (fun closed => ?_) (s.handler.produces_completion i p))
              simp only [perform?, withClosed]
              rw [possible closed]
              rfl
      | control | read | notice | write | discard => cases settled

/-! ## What happens to starts -/

theorem Handler.Directs.asks {c c' : Control} (directs : Handler.Directs c c') :
    ∃ new, Asks c c' new ∧ new.filter (·.errand.isStart) = [] := by
  cases directs with
  | nothing => exact ⟨[], .refl c, rfl⟩
  | terminate => exact ⟨[], c.asks_terminate, rfl⟩
  | breakpoints f => exact ⟨[], ⟨(List.append_nil _).symm, rfl, rfl⟩, rfl⟩
  | @request errand other => exact ⟨[⟨errand, none⟩], ⟨rfl, rfl, rfl⟩, by simp [other]⟩
  | evaluate expression context => exact ⟨[], (c.aside_evaluate expression context).1.asks, rfl⟩

theorem asks_handle (s : Session) (now : Millis) (r : Request) :
    ∃ new, Asks s.control (s.handle now r).control new ∧ new.filter (·.errand.isStart) = [] := by
  obtain ⟨new, asks, none_⟩ := (s.handler.directs_handle now r).asks
  unfold handle
  dsimp only
  split
  · have ends := asks.trans (Control.asks_terminate (s.handler.handle now r).1.control)
    rw [List.append_nil] at ends
    exact ⟨new, ends, none_⟩
  · exact ⟨new, asks, none_⟩

theorem Handler.isStart_startOf (h : Handler) (p : PendingLaunch) :
    (h.startOf p).filter (·.errand.isStart) = h.startOf p := by
  unfold startOf
  split
  · rfl
  · cases p.args.program <;> rfl

/-- A start is asked for only when a launch goes on. -/
theorem asks_happen (s : Session) (h : Happening) (none_ : s.moment? h = none) :
    ∃ new, Asks s.control (s.happen h).control new ∧
      new.filter (·.errand.isStart) = ((s.resumed? h).map s.handler.startOf).getD [] := by
  have same (unresumed : s.resumed? h = none) (same : (s.happen h).control = s.control) :
      ∃ new, Asks s.control (s.happen h).control new ∧
        new.filter (·.errand.isStart) = ((s.resumed? h).map s.handler.startOf).getD [] :=
    ⟨[], same ▸ .refl _, by rw [unresumed]; rfl⟩
  cases h with
  | editor incoming outgoing => exact same rfl rfl
  | interpreter i line complaints fate => cases none_
  | activity now a =>
      cases a with
      | control a => cases none_
      | read =>
          obtain ⟨buffer, incoming, ⟨r, -, after⟩ | ⟨-, after | after⟩⟩ := s.read_cases now
          · rw [after]
            exact asks_handle { s with buffer, incoming } now r
          · exact same rfl (by rw [after]; rfl)
          · rw [after]
            exact ⟨[], s.control.asks_terminate, rfl⟩
      | notice =>
          cases performed : s.perform? now .notice with
          | none => exact same rfl (by rw [happen, performed]; rfl)
          | some s' =>
              obtain ⟨handler, rfl, acts⟩ := perform?_acts performed (by simp) (by simp)
              rw [happen, performed]
              cases acts with
              | @notice n rest first =>
                  have control : (Session.control { s with handler :=
                      (s.handler.withControl ({ · with notices := rest })).notice n }) =
                      { s.control with notices := rest } := Handler.notice_control _ n
                  refine ⟨[], ?_, rfl⟩
                  rw [Option.getD_some, control]
                  exact ⟨(List.append_nil _).symm, rfl, rfl⟩
      | resume i =>
          cases s.affects (.activity now (.resume i)) with
          | @resumes _ _ p _ _ _ _ _ resumed after =>
              refine ⟨s.handler.startOf p, ?_, ?_⟩
              · rw [control, control, after]
                exact (s.handler.goes_resume _ p).asks
              · rw [resumed]
                exact s.handler.isStart_startOf p
          | handles happening => cases happening
          | completes happening => cases happening
          | nothing unresumed =>
              refine same unresumed ?_
              cases resumed : s.handler.resume? now s.ending.isSome i with
              | none => simp [happen, perform?, resumed]
              | some handler =>
                  obtain ⟨p, due, found, -⟩ := resume?_eq resumed
                  simp [resumed?, resumed, found] at unresumed
      | complete i =>
          refine same rfl ?_
          cases performed : s.perform? now (.complete i) with
          | none => rw [happen, performed]; rfl
          | some s' =>
              obtain ⟨handler, completed, rfl⟩ := Option.map_eq_some_iff.mp performed
              rw [happen, performed]
              exact (Handler.complete?_eq completed).1
      | write =>
          refine same rfl ?_
          cases performed : s.perform? now .write with
          | none => rw [happen, performed]; rfl
          | some s' => rw [happen, performed]; exact (write?_eq performed).1
      | discard =>
          cases performed : s.perform? now .discard with
          | none => exact same rfl (by rw [happen, performed]; rfl)
          | some s' =>
              rw [happen, performed, Option.getD_some, discard?_eq performed]
              exact ⟨[], { s.control.asks_terminate with }, rfl⟩

/-- Nothing is asked for at a moment of execution control. -/
theorem unasked_moment {s : Session} {h : Happening} {m : Moment} (moment : s.moment? h = some m)
    (errand : Control.Errand) (asker : Option Nat) : m.happening ≠ .request errand asker := by
  cases h with
  | activity now a =>
      cases a with
      | control a => cases moment; exact nofun
      | _ => cases moment
  | editor => cases moment
  | interpreter => cases moment; exact nofun

theorem startsAsked_eq (s : Session) (h : Happening) :
    s.startsAsked h = ((s.resumed? h).map s.handler.startOf).getD [] := by
  obtain ⟨m, moment, before, after⟩ | ⟨none_, -⟩ := (s.turns h).tells
  · have unasked : m.before.startsAsked m.after = [] :=
      (Moment.starts_of_unasked (unasked_moment moment)).unasked
    have unresumed : s.resumed? h = none := by
      cases h with
      | activity now a => cases a <;> first | rfl | cases moment
      | editor | interpreter => rfl
    rw [startsAsked, ← before, after, unasked, unresumed]
    rfl
  · obtain ⟨new, asks, asked⟩ := s.asks_happen h none_
    exact asks.asked.trans asked

/-- The errands of launches are numbered in the order in which they are asked for. -/
theorem askers_happen (s : Session) (h : Happening) :
    (s.happen h).handler.errands = s.handler.errands + (s.startsAsked h).length ∧
      (s.startsAsked h).map (·.asker) =
        (List.range (s.startsAsked h).length).map fun n => some (s.handler.errands + n) := by
  have unasked (unresumed : s.resumed? h = none)
      (same : (s.happen h).handler.errands = s.handler.errands) :
      (s.happen h).handler.errands = s.handler.errands + (s.startsAsked h).length ∧
        (s.startsAsked h).map (·.asker) =
          (List.range (s.startsAsked h).length).map fun n => some (s.handler.errands + n) := by
    rw [startsAsked_eq, unresumed]
    exact ⟨same, rfl⟩
  cases s.affects h with
  | @resumes _ i p _ _ _ _ _ resumed after =>
      rw [startsAsked_eq, resumed, after, (s.handler.goes_resume i p).errands]
      refine ⟨rfl, ?_⟩
      simp only [Option.map_some, Option.getD_some, Handler.startOf]
      split
      · rfl
      · cases p.args.program <;> rfl
  | handles happening handled heeds => exact unasked (happening ▸ rfl) heeds.errands
  | completes happening found started same => exact unasked (happening ▸ rfl) same.errands
  | nothing unresumed unhandled same => exact unasked unresumed same.errands

/-- A launch that waits goes on or is still there, no further back. -/
theorem stays_waiting {s : Session} {i : Nat} {p : PendingLaunch}
    (found : s.handler.launches[i]? = some p) (waits : isWaiting p = true) (h : Happening) :
    s.resumed? h = some p ∨ ∃ j ≤ i, (s.happen h).handler.launches[j]? = some p := by
  have erased {l : Nat} (other : l ≠ i) :
      ∃ j ≤ i, (s.handler.launches.eraseIdx l)[j]? = some p := by
    obtain behind | before := Nat.lt_or_gt_of_ne other
    · refine ⟨i - 1, Nat.sub_le i 1, ?_⟩
      rw [List.getElem?_eraseIdx_of_ge (by omega), Nat.sub_add_cancel (by omega)]
      exact found
    · refine ⟨i, Nat.le_refl i, ?_⟩
      rw [List.getElem?_eraseIdx_of_lt before]
      exact found
  cases s.affects h with
  | @resumes _ l q _ _ found' _ _ resumed after =>
      by_cases same : l = i
      · subst same
        cases found.symm.trans found'
        exact .inl resumed
      · refine .inr ?_
        rw [after, Handler.resume_launches]
        split
        · exact erased same
        · refine ⟨i, Nat.le_refl i, ?_⟩
          rw [List.getElem?_set_ne same]
          exact found
  | handles _ _ heeds =>
      refine .inr ⟨i, Nat.le_refl i, ?_⟩
      obtain ⟨inside, -⟩ := List.getElem?_eq_some_iff.mp found
      rw [heeds.launches, List.getElem?_append_left inside]
      exact found
  | @completes _ l q _ found' started same =>
      have other : l ≠ i := by
        rintro rfl
        cases found.symm.trans found'
        cases waits.symm.trans started
      refine .inr ?_
      rw [same.launches]
      exact erased other
  | nothing _ _ same =>
      refine .inr ⟨i, Nat.le_refl i, ?_⟩
      rw [same.launches]
      exact found

end Session

end DebugAdapter
