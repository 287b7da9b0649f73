import DebugAdapter.Proofs.Control.Pushes
import DebugAdapter.Proofs.Session.Delivery
/-!
# The relay of output

What interpreters push reaches the editor as output, in order and once each. The notices of execution
control are passed on one by one; each notice that comes from a push is an output event with its
text.
-/

namespace DebugAdapter

open Control (Calm Moment Tells Tiding)
open Monitor (Event Push)
open Protocol (Outgoing Request passedOn)

/-- The output that shows a push. -/
def Monitor.Push.message (p : Push) : Outgoing :=
  .event (.output (Session.Handler.outputOf p.category p.text))

namespace Session

open Handler (messageOf)

variable {s : Session} {h : Happening}

/-! ## Steps -/

/-- The moment of execution control that a happening is. -/
def moment? (s : Session) : Happening → Option Moment
  | .activity now (.control a) => some { before := s.control, happening := .activity now a }
  | .interpreter i line complaints fate =>
    some { before := s.control, happening := .interpreter i line complaints fate }
  | _ => none

/-- Execution control does not move by itself, and nothing is noted. -/
structure Still (c c' : Control) : Prop where
  calm : Calm c c'
  notices : c'.notices = c.notices

theorem Still.refl (c : Control) : Still c c := ⟨.refl c, rfl⟩

theorem still_request (c : Control) (errand : Control.Errand) (asker : Option Nat) :
    Still c (c.request errand asker) :=
  ⟨Control.calm_of_same (.refl _) rfl rfl rfl, rfl⟩

theorem still_terminate (c : Control) : Still c c.terminate :=
  ⟨c.calm_terminate, c.terminate_notices⟩

theorem Handler.Directs.still {c c' : Control} (directs : Handler.Directs c c') : Still c c' := by
  cases directs with
  | nothing => exact .refl c
  | terminate => exact still_terminate c
  | breakpoints f => exact ⟨Control.calm_of_same (.refl _) rfl rfl rfl, rfl⟩
  | request => exact still_request c _ _
  | evaluate expression context =>
      refine ⟨c.calm_evaluate expression context, ?_⟩
      unfold Control.evaluate
      split
      · rfl
      · split <;> rfl

theorem still_handle (s : Session) (now : Millis) (r : Request) :
    Still s.control (s.handle now r).control := by
  have still := (s.handler.directs_handle now r).still
  unfold handle
  dsimp only
  split
  · have ends := still_terminate (s.handler.handle now r).1.control
    exact ⟨still.calm.trans ends.calm, ends.notices.trans still.notices⟩
  · exact still

theorem still_resume {h h' : Handler} {now : Millis} {abandoned : Bool} {i : Nat}
    (resumed : h.resume? now abandoned i = some h') : Still h.control h'.control := by
  obtain impossible | ⟨p, -, possible⟩ := h.resume?_cases now abandoned i
  · cases (impossible h.closed).symm.trans resumed
  · cases (possible h.closed).symm.trans resumed
    simp only [Handler.resume]
    split
    · rw [Handler.respond_control]
      exact .refl _
    · split
      · rw [Handler.refuse_control]
        exact .refl _
      · exact still_request _ _ _

/-- What a happening does to execution control. -/
inductive Turns (s : Session) (h : Happening) : Prop
  | moment {m : Moment} (moment : s.moment? h = some m) (before : m.before = s.control)
      (after : (s.happen h).control = m.after) (unpassed : s.passed? h = none)
  | passes {n : Control.Notice} {rest : List Control.Notice} (none_ : s.moment? h = none)
      (first : s.control.notices = n :: rest) (passed : s.passed? h = some n)
      (control : (s.happen h).control = { s.control with notices := rest })
  | still (none_ : s.moment? h = none) (still : Still s.control (s.happen h).control)
      (unpassed : s.passed? h = none)
  | discards (none_ : s.moment? h = none) (ended : s.ending.isSome = true)
      (control : (s.happen h).control = s.control.disposeSession) (unpassed : s.passed? h = none)

theorem turns (s : Session) (h : Happening) : s.Turns h := by
  have same (none_ : s.moment? h = none) (unpassed : s.passed? h = none)
      (same : (s.happen h).control = s.control) : s.Turns h :=
    .still none_ (same ▸ .refl _) unpassed
  cases h with
  | editor incoming outgoing => exact same rfl rfl rfl
  | interpreter i line complaints fate => exact .moment rfl rfl rfl rfl
  | activity now a =>
      cases a with
      | control a =>
          refine .moment rfl rfl ?_ rfl
          simp only [happen, perform?, Moment.after, Control.happen]
          cases performed : s.handler.control.perform? now a <;> simp [control, performed]
      | read =>
          obtain ⟨buffer, incoming, ⟨r, -, handled⟩ | ⟨-, quiet | concluded⟩⟩ := s.read_cases now
          · refine .still rfl ?_ rfl
            rw [handled]
            exact still_handle { s with buffer, incoming } now r
          · exact same rfl rfl (by rw [quiet]; rfl)
          · refine .still rfl ?_ rfl
            rw [concluded]
            exact still_terminate _
      | notice =>
          cases concluded : s.concluded with
          | true =>
              refine same rfl (if_pos concluded) ?_
              simp [happen, perform?, notice?, concluded]
          | false =>
              cases notices : s.handler.control.notices with
              | nil =>
                  refine same rfl (by simp [passed?, notices]) ?_
                  simp [happen, perform?, notice?, notices, concluded]
              | cons n rest =>
                  refine .passes rfl notices (by simp [passed?, notices, concluded]) ?_
                  simp only [happen, perform?, notice?, notices, concluded, Bool.false_eq_true,
                    if_false, Option.getD_some]
                  exact Handler.notice_control _ n
      | resume i =>
          cases performed : s.perform? now (.resume i) with
          | none => exact same rfl rfl (by rw [happen, performed]; rfl)
          | some s' =>
              obtain ⟨handler, resumed, rfl⟩ := Option.map_eq_some_iff.mp performed
              refine .still rfl ?_ rfl
              rw [happen, performed]
              exact still_resume resumed
      | complete i =>
          cases performed : s.perform? now (.complete i) with
          | none => exact same rfl rfl (by rw [happen, performed]; rfl)
          | some s' =>
              obtain ⟨handler, completed, rfl⟩ := Option.map_eq_some_iff.mp performed
              refine same rfl rfl ?_
              rw [happen, performed]
              exact (Handler.complete?_eq completed).1
      | write =>
          cases performed : s.perform? now .write with
          | none => exact same rfl rfl (by rw [happen, performed]; rfl)
          | some s' => exact same rfl rfl (by rw [happen, performed]; exact (write?_eq performed).1)
      | discard =>
          cases performed : s.perform? now .discard with
          | none => exact same rfl rfl (by rw [happen, performed]; rfl)
          | some s' =>
              have ended : s.ending.isSome = true := by
                cases ending : s.ending with
                | some e => rfl
                | none => simp [perform?, discard?, ending] at performed
              refine .discards rfl ended ?_ rfl
              rw [happen, performed, Option.getD_some, discard?_eq performed]
              rfl

theorem Turns.tells (turns : s.Turns h) :
    (∃ m, s.moment? h = some m ∧ m.before = s.control ∧ (s.happen h).control = m.after) ∨
      s.moment? h = none ∧ Tells s.control.debuggees (s.happen h).control.debuggees := by
  cases turns with
  | moment moment before after => exact .inl ⟨_, moment, before, after⟩
  | passes none_ _ _ control => exact .inr ⟨none_, by rw [control]; exact .refl _⟩
  | still none_ still => exact .inr ⟨none_, still.calm.tells⟩
  | discards none_ _ control =>
      refine .inr ⟨none_, ?_⟩
      rw [control]
      exact s.control.calm_terminate.tells

/-! ## What has happened -/

/-- What a function tells of the moments of a run. -/
def gathered {α : Type} (f : Moment → List α) (t : Trace Session (Session × Happening)) : List α :=
  t.entries.flatMap fun (s, h) => ((s.moment? h).map f).getD []

/-- What has been noted, and what it comes from. -/
def tidingsBy (t : Trace Session (Session × Happening)) : List Tiding := gathered Moment.tidings t

/-- The pushes of interpreter `i` that have been taken. -/
def takenBy (t : Trace Session (Session × Happening)) (i : Nat) : List Push :=
  gathered (·.takenOf i) t

variable {t : Trace Session (Session × Happening)} {i : Nat}

theorem gathered_next {α : Type} (f : Moment → List α) (t : Trace Session (Session × Happening))
    (h : Happening) :
    gathered f (t.next step h) = gathered f t ++ ((t.state.moment? h).map f).getD [] :=
  Trace.flatMap_next _ _ t h

theorem gathered_part {α : Type} (f : Moment → List α) (t : Trace Session (Session × Happening))
    (h : Happening) : gathered f t <+: gathered f (t.next step h) :=
  ⟨_, (gathered_next f t h).symm⟩

theorem gathered_moment {α : Type} (f : Moment → List α) {m : Moment}
    (moment : t.state.moment? h = some m) :
    gathered f (t.next step h) = gathered f t ++ f m := by
  rw [gathered_next, moment]
  rfl

theorem gathered_none {α : Type} (f : Moment → List α) (none_ : t.state.moment? h = none) :
    gathered f (t.next step h) = gathered f t := by
  rw [gathered_next, none_]
  exact List.append_nil _

/-- Where the pushes of interpreter `i` are. -/
structure Followed (t : Trace Session (Session × Happening)) (i : Nat) : Prop where
  sequenced : ∀ d, t.state.control.debuggees[i]? = some d → d.Sequenced
  pushes : (tidingsBy t).filterMap (·.push? i) ++ t.state.control.pushesToCome i = takenBy t i
  said : ∀ tiding ∈ tidingsBy t, ∀ p, tiding.push? i = some p →
    tiding.notice = .output p.category p.text
  heard : (tidingsBy t).filterMap (·.push? i) =
    (gathered (·.heardOf i) t).filterMap Event.push?
  taken : Monitor.pushesOf (gathered (·.reportedOf i) t) = takenBy t i
  reports : gathered (·.forwardedOf i) t ++ t.state.control.reportsOf i =
    gathered (·.reportedOf i) t

theorem followed_next (followed : Followed t i) (h : Happening) : Followed (t.next step h) i := by
  obtain ⟨sequenced, pushes, said, heard, taken, reports⟩ := followed
  obtain ⟨m, moment, before, after⟩ | ⟨none_, tells⟩ := (t.state.turns h).tells
  · rw [← before] at sequenced pushes reports
    have after : (t.next step h).state.control = m.after := after
    have regular (d : Debuggee) (found : m.before.debuggees[i]? = some d) : d.link.Regular :=
      (sequenced d found).regular
    obtain ⟨kept, sequenced'⟩ := m.pushes_next sequenced
    have tidings : tidingsBy (t.next step h) = tidingsBy t ++ m.tidings := gathered_moment _ moment
    have more : takenBy (t.next step h) i = takenBy t i ++ m.takenOf i := gathered_moment _ moment
    constructor
    · rw [after]
      exact sequenced'
    · rw [tidings, more, after, List.filterMap_append, List.append_assoc, kept, ← List.append_assoc,
        pushes]
    · rw [tidings]
      intro tiding member p push
      exact (List.mem_append.mp member).elim (fun old => said tiding old p push)
        fun new => Moment.notice_of_push new push
    · rw [tidings, gathered_moment _ moment, List.filterMap_append, List.filterMap_append, heard,
        m.tidings_pushes]
    · rw [more, gathered_moment _ moment, Monitor.pushesOf_append, taken,
        Moment.pushesOf_reported regular]
    · rw [gathered_moment _ moment, gathered_moment _ moment, after, List.append_assoc,
        m.reports_next, ← List.append_assoc, reports]
  · obtain ⟨toCome, reports', -⟩ := tells.queues i
    have tidings : tidingsBy (t.next step h) = tidingsBy t := gathered_none _ none_
    have same : takenBy (t.next step h) i = takenBy t i := gathered_none _ none_
    constructor
    · exact fun d found => tells.sequenced sequenced found
    · rw [tidings, same, ← pushes, ← toCome]
      rfl
    · rw [tidings]
      exact said
    · rw [tidings, gathered_none _ none_, heard]
    · rw [same, gathered_none _ none_, taken]
    · rw [gathered_none _ none_, gathered_none _ none_, ← reports, ← reports']
      rfl

/-- When the end of interpreter `i` has been noted, all of its pushes have been noted before. -/
def EndNoted (t : Trace Session (Session × Happening)) (i : Nat) : Prop :=
  ∀ front code n back, tidingsBy t = front ++ ⟨some (i, .closed code), n⟩ :: back →
    n = .ended ∧ front.filterMap (·.push? i) = takenBy t i ∧
      ∃ d, t.state.control.debuggees[i]? = some d ∧ d.Silent

theorem endNoted_next (noted : EndNoted t i) (followed : Followed t i) (h : Happening) :
    EndNoted (t.next step h) i := by
  intro front code n back split
  obtain ⟨m, moment, before, after⟩ | ⟨none_, tells⟩ := (t.state.turns h).tells
  · have sequenced := followed.sequenced
    have pushes := followed.pushes
    rw [← before] at sequenced pushes
    rw [tidingsBy, gathered_moment _ moment] at split
    rw [takenBy, gathered_moment _ moment, ← takenBy]
    obtain ⟨rest, early, -⟩ | ⟨more, rfl, late⟩ := split_append split
    -- The end has been noted before, so nothing is pushed any more.
    · obtain ⟨ended, all, d, found, silent⟩ := noted front code n rest early
      rw [← before] at found
      have none_ : m.before.pushesToCome i = [] := by
        rw [Control.pushesToCome, found]
        exact silent.pushes
      obtain ⟨untaken, d', found', silent'⟩ :=
        Moment.silent_next sequenced found silent.closed none_
      rw [all, untaken, List.append_nil]
      exact ⟨ended, rfl, d', after ▸ found', silent'⟩
    -- The end is noted now: it is heard, and nothing waits to be heard after it.
    · have member : ⟨some (i, .closed code), n⟩ ∈ m.tidings := by simp [late]
      obtain ⟨_, -, same⟩ := List.mem_map.mp member
      have heard : m.heard? = some (i, .closed code) := congrArg Tiding.cause same
      obtain ⟨none_, untaken, d, found, silent⟩ := Moment.silent_of_ended sequenced heard
      rw [Moment.tidings_heard heard] at late
      cases more with
      | cons => simp [Event.notices] at late
      | nil =>
          cases (List.cons.inj late).1
          refine ⟨rfl, ?_, d, after ▸ found, silent⟩
          rw [untaken, List.append_nil, List.append_nil, ← pushes, none_, List.append_nil]
          rfl
  · rw [tidingsBy, gathered_none _ none_] at split
    rw [takenBy, gathered_none _ none_, ← takenBy]
    obtain ⟨ended, all, d, found, silent⟩ := noted front code n back split
    obtain ⟨d', found', told⟩ := tells.told found
    exact ⟨ended, all, d', found', told.silent silent⟩

/-! ## Passing on -/

theorem passedOn_append (ms ms' : List Outgoing) :
    passedOn (ms ++ ms') = passedOn ms ++ passedOn ms' := List.filter_append ..

/-- A notice is passed on unless the queue is closed, and nothing else looks like one. -/
theorem passedOn_queued (s : Session) (h : Happening) : passedOn (s.queued h) =
    if s.handler.closed then [] else ((s.passed? h).map messageOf).toList := by
  by_cases write : ∃ now, h = .activity now .write
  · obtain ⟨now, rfl⟩ := write
    have none_ : s.queued (.activity now .write) = [] := s.drop_outbox_write now
    rw [none_]
    exact (ite_self _).symm
  · obtain ⟨ms, yields, -, passed⟩ := s.yields_happen h fun now same => write ⟨now, same⟩
    rw [yields.queued]
    split
    · rfl
    · exact passed

theorem stays_closed (s : Session) (h : Happening) (closed : s.handler.closed = true) :
    (s.happen h).handler.closed = true := by
  by_cases write : ∃ now, h = .activity now .write
  · obtain ⟨now, rfl⟩ := write
    have writes := s.writes_happen now
    generalize s.happen (.activity now .write) = s' at writes ⊢
    cases writes with
    | written | ended | idle => exact closed
    | refused => rfl
  · obtain ⟨unwritten, -⟩ := s.unwritten_happen h fun now same => write ⟨now, same⟩
    exact unwritten.outlook.elim (fun same => same.2.trans closed) (·.2)

/-- The messages that pass on what has been noted. -/
def messagesBy (t : Trace Session (Session × Happening)) : List Outgoing :=
  (tidingsBy t).map (messageOf ·.notice)

/-- Notices are passed on in order. -/
structure Passes (t : Trace Session (Session × Happening)) : Prop where
  part : passedOn (queuedBy t) <+: messagesBy t
  rest : t.state.handler.closed = false →
    passedOn (queuedBy t) ++ t.state.control.notices.map messageOf = messagesBy t

theorem passes_next (passes : Passes t) (h : Happening) : Passes (t.next step h) := by
  have queued : passedOn (queuedBy (t.next step h)) = passedOn (queuedBy t) ++
      if t.state.handler.closed then [] else ((t.state.passed? h).map messageOf).toList := by
    rw [queuedBy, Trace.flatMap_next, passedOn_append, ← queuedBy]
    exact congrArg _ (t.state.passedOn_queued h)
  have grown : messagesBy t <+: messagesBy (t.next step h) := (gathered_part _ t h).map _
  cases closed : t.state.handler.closed with
  | true =>
      rw [closed, if_pos rfl, List.append_nil] at queued
      refine ⟨queued ▸ passes.part.trans grown, fun open_ => ?_⟩
      cases open_.symm.trans (t.state.stays_closed h closed)
  | false =>
      have rest := passes.rest closed
      rw [closed] at queued
      suffices all : passedOn (queuedBy (t.next step h)) ++
          (t.next step h).state.control.notices.map messageOf = messagesBy (t.next step h) from
        ⟨⟨_, all⟩, fun _ => all⟩
      have unpassed (none_ : t.state.passed? h = none) :
          passedOn (queuedBy (t.next step h)) = passedOn (queuedBy t) := by
        rw [queued, none_]
        exact List.append_nil _
      have unnoted (none_ : t.state.moment? h = none) :
          messagesBy (t.next step h) = messagesBy t := by
        rw [messagesBy, tidingsBy, gathered_none _ none_]
        rfl
      cases t.state.turns h with
      | @moment m moment before after none_ =>
          obtain ⟨new, noted, -⟩ := m.utters
          have tidings : tidingsBy (t.next step h) = tidingsBy t ++ m.tidings :=
            gathered_moment _ moment
          have notices :
              (t.next step h).state.control.notices = t.state.control.notices ++ m.notices := by
            rw [Moment.notices_eq noted, ← before]
            exact (congrArg Control.notices after).trans noted
          rw [unpassed none_, notices, List.map_append, ← List.append_assoc, rest, messagesBy,
            messagesBy, tidings, List.map_append, Moment.tidings, List.map_map]
          rfl
      | @passes n later none_ first passed control =>
          have notices : (t.next step h).state.control.notices = later :=
            congrArg Control.notices control
          rw [queued, passed, notices, unnoted none_, ← rest, first, List.append_assoc]
          rfl
      | still none_ still none' =>
          rw [unpassed none', unnoted none_, ← rest]
          exact congrArg (_ ++ ·.map messageOf) still.notices
      | discards none_ _ control none' =>
          have notices : (t.next step h).state.control.notices = t.state.control.notices :=
            (congrArg Control.notices control).trans t.state.control.terminate_notices
          rw [unpassed none', unnoted none_, ← rest, notices]

/-! ## What is shown -/

theorem zip_of_part {α β : Type} {f : α → β} {as later : List α} {bs : List β}
    (part : bs <+: (as ++ later).map f) :
    as.zip bs = (as.take bs.length).map fun a => (a, f a) := by
  induction as generalizing bs with
  | nil => rw [List.zip_nil_left, List.take_nil, List.map_nil]
  | cons a as ih =>
      cases bs with
      | nil => rfl
      | cons b bs =>
          obtain ⟨rfl, rest⟩ := List.cons_prefix_cons.mp part
          rw [List.zip_cons_cons, ih rest]
          rfl

/-- The messages among some that come from pushes of interpreter `i`: the first one that passes on a
notice passes on the first notice, and so on. -/
def shown (tidings : List Tiding) (ms : List Outgoing) (i : Nat) : List Outgoing :=
  (tidings.zip (passedOn ms)).filterMap fun (tiding, m) => (tiding.push? i).map fun _ => m

theorem shown_eq {tidings : List Tiding} (later : List Tiding) {ms : List Outgoing}
    (part : passedOn ms <+: (tidings ++ later).map (messageOf ·.notice))
    (said : ∀ tiding ∈ tidings, ∀ p, tiding.push? i = some p →
      tiding.notice = .output p.category p.text) :
    shown tidings ms i =
      ((tidings.take (passedOn ms).length).filterMap (·.push? i)).map Push.message := by
  rw [shown, zip_of_part part, List.filterMap_map, List.map_filterMap]
  refine List.filterMap_congr fun tiding member => ?_
  cases push : tiding.push? i with
  | none => simp [push]
  | some p =>
      have notice := said tiding (List.mem_of_mem_take member) p push
      simp only [Function.comp_apply, push, Option.map_some, notice]
      rfl

/-- How the pushes of interpreter `i` are relayed in a run. -/
structure Relays (t : Trace Session (Session × Happening)) (i : Nat) : Prop where
  /-- There is one message for each notice, in order. While the queue is open, the notices that have
  not been passed on wait. -/
  passed : passedOn (queuedBy t) <+: messagesBy t
  waiting : t.state.handler.closed = false →
    passedOn (queuedBy t) ++ t.state.control.notices.map messageOf = messagesBy t
  /-- Each push is shown once at most, in order. -/
  shown : shown (tidingsBy t) (queuedBy t) i <+: (takenBy t i).map Push.message
  /-- While the queue is open, each push has been shown, or waits to be passed on or to be heard. -/
  complete : t.state.handler.closed = false →
    Session.shown (tidingsBy t) (queuedBy t) i ++
        (((tidingsBy t).drop (passedOn (queuedBy t)).length).filterMap (·.push? i) ++
          t.state.control.pushesToCome i).map Push.message =
      (takenBy t i).map Push.message
  /-- Before the end of the interpreter is passed on, all of its pushes have been shown. -/
  last : ∀ front code n back, tidingsBy t = front ++ ⟨some (i, .closed code), n⟩ :: back →
    front.length < (passedOn (queuedBy t)).length →
      (passedOn (queuedBy t))[front.length]? = some (.event .terminated) ∧
        Session.shown front (queuedBy t) i = (takenBy t i).map Push.message

/-- What each happening keeps. -/
structure Relaying (t : Trace Session (Session × Happening)) (i : Nat) : Prop where
  followed : Followed t i
  noted : EndNoted t i
  passes : Passes t

theorem Relaying.relays (relaying : Relaying t i) : Relays t i := by
  obtain ⟨followed, noted, part, rest⟩ := relaying
  have shown_ : shown (tidingsBy t) (queuedBy t) i =
      (((tidingsBy t).take (passedOn (queuedBy t)).length).filterMap (·.push? i)).map Push.message :=
    shown_eq [] (by rw [List.append_nil]; exact part) followed.said
  refine ⟨part, rest, ?_, fun _ => ?_, ?_⟩
  · rw [shown_, ← followed.pushes]
    exact (((List.take_prefix _ _).filterMap _).trans (List.prefix_append _ _)).map _
  · rw [shown_, ← List.map_append, ← List.append_assoc, ← List.filterMap_append,
      List.take_append_drop, followed.pushes]
  · intro front code n back split passed
    obtain ⟨rfl, all, -⟩ := noted front code n back split
    rw [messagesBy, split] at part
    constructor
    · rw [List.prefix_iff_eq_take.mp part, List.getElem?_take_of_lt passed]
      simp [messageOf]
    · rw [shown_eq _ part fun tiding member => followed.said tiding (by simp [split, member]),
        List.take_of_length_le passed.le, all]

theorem relaying_run (config : Monitor.Config) (home : String) (refusal : Option Monitor.Refusal)
    (patience : Millis) (happenings : List Happening) (i : Nat) :
    Relaying (Trace.run step (opening config home refusal patience) happenings) i := by
  refine Trace.run_invariant step (P := fun t => Relaying t i) ⟨?_, ?_, ?_⟩ (fun t h relaying => ?_)
    happenings
  · exact ⟨by simp [control, opening], rfl, by simp [tidingsBy, gathered], rfl, rfl, rfl⟩
  · intro front code n back split
    simp [tidingsBy, gathered] at split
  · exact ⟨List.prefix_refl _, fun _ => rfl⟩
  · exact ⟨followed_next relaying.followed h, endNoted_next relaying.noted relaying.followed h,
      passes_next relaying.passes h⟩

end Session

end DebugAdapter
