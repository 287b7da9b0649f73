import DebugAdapter.Proofs.Session.Responses
import DebugAdapter.Proofs.Trace
/-!
# Delivery

Messages are taken from the queue in order, and numbered as they are written. A session that has
concluded ends when all that is queued has been written. So every request gets its one response,
unless the editor does not read any more.
-/

namespace DebugAdapter

open Protocol

namespace Session

variable {s : Session} {h : Happening}

/-! ## Writing -/

/-- Whether somebody reads what is written into a pipe. -/
def accepts (p : Framing.Pipe) : Bool := !(p.readerGone || p.writerGone)

theorem write?_accepts (p : Framing.Pipe) (bs : Bytes) :
    p.write? bs = if accepts p then some { p with octets := p.octets ++ bs } else none := by
  unfold Framing.Pipe.write? accepts
  cases p.readerGone || p.writerGone <;> rfl

/-- The octets that are written to the editor when something happens. -/
def wrote (s : Session) : Happening → Bytes
  | .activity now a =>
    (s.happen (.activity now a)).outgoing.octets.drop s.outgoing.octets.length
  | .editor .. | .interpreter .. => []

/-- The octets of some messages, numbered from 1. -/
def numbered (ms : List Outgoing) : Bytes := (ms.zipIdx 1).flatMap fun (m, n) => m.bytes n

theorem numbered_append (ms : List Outgoing) (m : Outgoing) :
    numbered (ms ++ [m]) = numbered ms ++ m.bytes (ms.length + 1 : Nat) := by
  simp [numbered, List.zipIdx_append, Nat.add_comm]

/-- Whether nothing is written, and the session goes on as it was or is concluded. -/
structure Unwritten (s s' : Session) : Prop where
  written : s'.written = s.written
  unwritable : s'.unwritable = s.unwritable
  ending : s'.ending = s.ending
  outlook : s'.concluded = s.concluded ∧ s'.handler.closed = s.handler.closed ∨
    s'.concluded = true ∧ s'.handler.closed = true

@[simp] theorem Handler.send_closed (h : Handler) (m : Outgoing) : (h.send m).closed = h.closed :=
  (h.send_outbox m).2

theorem Handler.handle_closed (h : Handler) (now : Millis) (r : Request) :
    (h.handle now r).1.closed = h.closed := by
  obtain ⟨ms, produces, -⟩ := h.produces_handle now r
  exact (produces h.closed).2

theorem unwritten_handle (s : Session) (now : Millis) (r : Request) :
    Unwritten s (s.handle now r) ∧ (s.handle now r).outgoing = s.outgoing := by
  unfold handle
  dsimp only
  split
  · exact ⟨⟨rfl, rfl, rfl, .inr ⟨rfl, rfl⟩⟩, rfl⟩
  · exact ⟨⟨rfl, rfl, rfl, .inl ⟨rfl, s.handler.handle_closed now r⟩⟩, rfl⟩

/-- What the handler does by itself, when nothing is read and nothing is written. -/
inductive Handler.Acts (h : Handler) : Activity → Handler → Prop where
  | control (c : Control) (a : Control.Activity) : Acts h (.control a) { h with control := c }
  | notice {n : Control.Notice} {rest : List Control.Notice}
      (first : h.control.notices = n :: rest) :
      Acts h .notice ((h.withControl ({ · with notices := rest })).notice n)
  | resume {i : Nat} {p : PendingLaunch} (found : h.launches[i]? = some p) :
      Acts h (.resume i) (h.resume i p)
  | complete {i : Nat} {p : PendingLaunch} (found : h.launches[i]? = some p) :
      Acts h (.complete i)
        ({ h with launches := h.launches.eraseIdx i }.respond (Handler.launchResponse p))
  | discard : Acts h .discard (h.withControl (·.disposeSession))

theorem perform?_acts {s s' : Session} {now : Millis} {a : Activity}
    (performed : s.perform? now a = some s') (notRead : a ≠ .read) (notWrite : a ≠ .write) :
    ∃ handler : Handler, s' = { s with handler } ∧ s.handler.Acts a handler := by
  cases a with
  | read => exact absurd rfl notRead
  | write => exact absurd rfl notWrite
  | control a =>
      obtain ⟨c, -, rfl⟩ := Option.map_eq_some_iff.mp performed
      exact ⟨_, rfl, .control c a⟩
  | notice =>
      simp only [perform?, notice?] at performed
      split at performed
      · cases performed
      · split at performed
        · cases performed
        · cases performed
          exact ⟨_, rfl, .notice ‹_›⟩
  | resume i =>
      obtain ⟨handler, resumed, rfl⟩ := Option.map_eq_some_iff.mp performed
      refine ⟨handler, rfl, ?_⟩
      obtain impossible | ⟨p, found, possible⟩ := s.handler.resume?_cases now s.ending.isSome i
      · cases (impossible s.handler.closed).symm.trans resumed
      · cases (possible s.handler.closed).symm.trans resumed
        exact .resume found
  | complete i =>
      obtain ⟨handler, completed, rfl⟩ := Option.map_eq_some_iff.mp performed
      refine ⟨handler, rfl, ?_⟩
      obtain impossible | ⟨p, found, possible⟩ := s.handler.complete?_cases i
      · cases (impossible s.handler.closed).symm.trans completed
      · cases (possible s.handler.closed).symm.trans completed
        exact .complete found
  | discard => exact ⟨_, discard?_eq performed, .discard⟩

theorem Handler.Acts.closed {h h' : Handler} {a : Activity} (acts : h.Acts a h') :
    h'.closed = h.closed := by
  cases acts with
  | control | discard => rfl
  | @notice n rest =>
      exact ((h.withControl ({ · with notices := rest })).produces_notice n h.closed).2
  | @resume i p =>
      obtain ⟨ms, produces, -⟩ := h.produces_resume i p
      exact (produces h.closed).2
  | complete => exact Handler.send_closed _ _

/-- Only writing writes. -/
theorem unwritten_happen (s : Session) (h : Happening) (other : ∀ now, h ≠ .activity now .write) :
    Unwritten s (s.happen h) ∧ s.wrote h = [] := by
  have silent {now : Millis} {a : Activity} (same : (s.happen (.activity now a)).outgoing = s.outgoing) :
      s.wrote (.activity now a) = [] := by
    rw [wrote, same, List.drop_length]
  cases h with
  | editor incoming outgoing => exact ⟨⟨rfl, rfl, rfl, .inl ⟨rfl, rfl⟩⟩, rfl⟩
  | interpreter i line complaints fate => exact ⟨⟨rfl, rfl, rfl, .inl ⟨rfl, rfl⟩⟩, rfl⟩
  | activity now a =>
      cases a with
      | read =>
          obtain ⟨buffer, incoming, ⟨r, -, same⟩ | ⟨-, same | same⟩⟩ := s.read_cases now
          · obtain ⟨unwritten, outgoing⟩ :=
              ({ s with buffer, incoming } : Session).unwritten_handle now r
            refine ⟨?_, silent (same ▸ outgoing)⟩
            rw [same]
            exact { unwritten with }
          · refine ⟨?_, silent (by rw [same])⟩
            rw [same]
            exact ⟨rfl, rfl, rfl, .inl ⟨rfl, rfl⟩⟩
          · refine ⟨?_, silent (by rw [same]; rfl)⟩
            rw [same]
            exact ⟨rfl, rfl, rfl, .inr ⟨rfl, rfl⟩⟩
      | write => exact absurd rfl (other now)
      | control | notice | resume | complete | discard =>
          simp only [wrote, happen]
          cases performed : s.perform? now _ with
          | none => exact ⟨⟨rfl, rfl, rfl, .inl ⟨rfl, rfl⟩⟩, List.drop_length⟩
          | some s' =>
              obtain ⟨handler, rfl, acts⟩ := perform?_acts performed (by simp) (by simp)
              exact ⟨⟨rfl, rfl, rfl, .inl ⟨rfl, acts.closed⟩⟩, List.drop_length⟩

/-- Writing takes a message from the queue, or ends the session, or does nothing. -/
inductive Writes (s : Session) : Session → Prop where
  | written {m : Outgoing} {rest : List Outgoing} (first : s.handler.outbox = m :: rest)
      (accepted : accepts s.outgoing = true) :
      Writes s { s with
        handler := { s.handler with outbox := rest }
        outgoing := { s.outgoing with octets := s.outgoing.octets ++ m.bytes (s.written + 1 : Nat) }
        written := s.written + 1 }
  | refused (refused : accepts s.outgoing = false) (more : s.handler.outbox ≠ []) :
      Writes s { s with
        unwritable := true
        handler := { s.handler with closed := true, outbox := [] } }
  | ended (empty : s.handler.outbox = []) (concluded : s.concluded = true) (going : s.ending = none) :
      Writes s { s with
        ending := some (if s.unwritable then .unread else .complete)
        outgoing := { s.outgoing with writerGone := true } }
  | idle (empty : s.handler.outbox = []) (going : s.concluded = false ∨ s.ending.isSome = true) :
      Writes s s

theorem writes_happen (s : Session) (now : Millis) : s.Writes (s.happen (.activity now .write)) := by
  have written : s.happen (.activity now .write) = s.write?.getD s := rfl
  rw [written, write?]
  cases outbox : s.handler.outbox with
  | cons m rest =>
      simp only [writeMessage, write?_accepts, Option.getD_some]
      cases accepted : accepts s.outgoing with
      | true => exact .written outbox accepted
      | false => exact .refused accepted (by simp [outbox])
  | nil =>
      by_cases last : (s.concluded && s.ending.isNone) = true
      · obtain ⟨concluded, going⟩ := Bool.and_eq_true_iff.mp last
        simp only [last, if_true, Option.getD_some]
        exact .ended outbox concluded (Option.isNone_iff_eq_none.mp going)
      · simp only [last]
        refine .idle outbox ?_
        cases concluded : s.concluded with
        | false => exact .inl rfl
        | true => exact .inr (Option.isSome_iff_ne_none.mpr (by simpa [concluded] using last))

/-- Writing produces nothing. -/
theorem drop_outbox_write (s : Session) (now : Millis) :
    (s.happen (.activity now .write)).handler.outbox.drop s.handler.outbox.length = [] := by
  have writes := s.writes_happen now
  generalize s.happen (.activity now .write) = s' at writes ⊢
  cases writes with
  | written first =>
      refine List.drop_eq_nil_of_le ?_
      rw [first]
      exact Nat.le_succ _
  | refused => exact List.drop_nil
  | ended | idle => exact List.drop_length

/-! ## Answers -/

/-- What is answered when something happens, in any state. -/
structure Answers (s : Session) (h : Happening) : Prop where
  /-- There is one response for each request that is answered, with its number and command. -/
  correlated : (responses (s.produced h)).map Response.key = (s.answered h).map Request.key
  /-- A request that is not put off is answered as it is handled, and no other is answered then. -/
  atOnce : ∀ r, s.handled? h = some r → r.isPutOff = false → s.answered h = [r]
  /-- What is produced is queued, unless the queue is closed. -/
  queued : s.queued h = if s.handler.closed then [] else s.produced h

theorem answered_handled {r : Request} (handled : s.handled? h = some r)
    (atOnce : r.isPutOff = false) : s.answered h = [r] := by
  -- What handles a request settles no launch.
  have settled : s.settled? h = none := by
    cases h with
    | activity now a => cases a <;> first | rfl | cases handled
    | editor incoming outgoing => rfl
    | interpreter i line complaints fate => rfl
  simp [answered, handled, settled, atOnce]

theorem answers (s : Session) (h : Happening) : s.Answers h := by
  by_cases write : ∃ now, h = .activity now .write
  · obtain ⟨now, rfl⟩ := write
    have silent : s.produced (.activity now .write) = [] := (s.withClosed false).drop_outbox_write now
    refine ⟨by rw [silent]; rfl, nofun, ?_⟩
    rw [silent, ite_self]
    exact s.drop_outbox_write now
  · obtain ⟨ms, yields, keys, -⟩ := s.yields_happen h fun now same => write ⟨now, same⟩
    refine ⟨?_, fun r => answered_handled, ?_⟩
    · rw [yields.produced, keys]
    · rw [yields.produced, yields.queued]

/-! ## Runs -/

/-- What a session went through: its state before each happening, and the happening. -/
def step (s : Session) (h : Happening) : Session × (Session × Happening) := (s.happen h, (s, h))

/-- What has been put into the queue, in order. -/
def queuedBy (t : Trace Session (Session × Happening)) : List Outgoing :=
  t.entries.flatMap fun (s, h) => s.queued h

/-- How the queue stands to what has been written. -/
structure Ledger (t : Trace Session (Session × Happening)) : Prop where
  fits : t.state.written ≤ (queuedBy t).length
  wrote : t.entries.flatMap (fun (s, h) => s.wrote h) = numbered ((queuedBy t).take t.state.written)
  remaining : t.state.unwritable = false → (queuedBy t).drop t.state.written = t.state.handler.outbox
  lost : t.state.unwritable = true → t.state.handler.outbox = [] ∧ t.state.handler.closed = true
  refused : t.state.unwritable = true → ∃ e ∈ t.entries, (∃ now, e.2 = .activity now .write) ∧
    e.1.ending = none ∧ accepts e.1.outgoing = false
  closed : t.state.concluded = true → t.state.handler.closed = true
  reason : t.state.handler.closed = true → t.state.concluded = true ∨ t.state.unwritable = true
  ended : t.state.ending.isSome = true → t.state.concluded = true ∧ t.state.handler.outbox = []

/-- What does not write puts something into the queue at most. -/
theorem ledger_unwritten {t : Trace Session (Session × Happening)} {h : Happening} (ledger : Ledger t)
    (other : ∀ now, h ≠ .activity now .write) : Ledger (t.next step h) := by
  obtain ⟨ms, yields, -⟩ := t.state.yields_happen h other
  obtain ⟨unwritten, silent⟩ := t.state.unwritten_happen h other
  have grown : queuedBy (t.next step h) = queuedBy t ++ t.state.queued h :=
    Trace.flatMap_next _ _ t h
  have wrote : (t.next step h).entries.flatMap (fun (s, h) => s.wrote h) =
      t.entries.flatMap fun (s, h) => s.wrote h := by
    refine (Trace.flatMap_next _ _ t h).trans ?_
    exact (congrArg _ silent).trans (List.append_nil _)
  have outbox : (t.state.happen h).handler.outbox = t.state.handler.outbox ++ t.state.queued h := by
    rw [yields.queued]
    exact yields t.state.handler.closed
  have dropped (closed : t.state.handler.closed = true) : t.state.queued h = [] := by
    rw [yields.queued, if_pos closed]
  have stays (closed : t.state.handler.closed = true) : (t.state.happen h).handler.closed = true :=
    unwritten.outlook.elim (fun same => same.2.trans closed) (·.2)
  have written : (t.next step h).state.written = t.state.written := unwritten.written
  have unwritable : (t.next step h).state.unwritable = t.state.unwritable := unwritten.unwritable
  refine ⟨?_, ?_, ?_, ?_, ?_, ?_, ?_, ?_⟩
  · rw [grown, written, List.length_append]
    exact Nat.le_add_right_of_le ledger.fits
  · rw [wrote, grown, written, List.take_append_of_le_length ledger.fits]
    exact ledger.wrote
  · intro writable
    rw [grown, written, List.drop_append_of_le_length ledger.fits, ledger.remaining (unwritable ▸ writable)]
    exact outbox.symm
  · intro lost
    obtain ⟨empty, closed⟩ := ledger.lost (unwritable ▸ lost)
    refine ⟨?_, stays closed⟩
    rw [Trace.next, step, outbox, empty, dropped closed]
    rfl
  · intro lost
    obtain ⟨e, member, refused⟩ := ledger.refused (unwritable ▸ lost)
    exact ⟨e, List.mem_append_left _ member, refused⟩
  · intro concluded
    obtain ⟨same, closed⟩ | ⟨-, closed⟩ := unwritten.outlook
    · exact closed.trans (ledger.closed (same.symm.trans concluded))
    · exact closed
  · intro closed
    rw [unwritable]
    obtain ⟨same, same'⟩ | ⟨concluded, -⟩ := unwritten.outlook
    · exact (ledger.reason (same'.symm.trans closed)).imp_left same.trans
    · exact .inl concluded
  · intro ended
    have before : t.state.ending.isSome = true := unwritten.ending ▸ ended
    obtain ⟨concluded, empty⟩ := ledger.ended before
    have closed := ledger.closed concluded
    -- The queue stays empty because it is closed.
    refine ⟨unwritten.outlook.elim (fun same => same.1.trans concluded) (·.1), ?_⟩
    rw [Trace.next, step, outbox, empty, dropped closed]
    rfl

theorem ledger_next (t : Trace Session (Session × Happening)) (h : Happening) (ledger : Ledger t) :
    Ledger (t.next step h) := by
  by_cases write : ∃ now, h = .activity now .write
  · obtain ⟨now, rfl⟩ := write
    have grown : queuedBy (t.next step (.activity now .write)) = queuedBy t := by
      refine (Trace.flatMap_next _ _ t _).trans ?_
      exact (congrArg _ (t.state.drop_outbox_write now)).trans (List.append_nil _)
    have wrote : (t.next step (.activity now .write)).entries.flatMap (fun (s, h) => s.wrote h) =
        t.entries.flatMap (fun (s, h) => s.wrote h) ++
          (t.state.happen (.activity now .write)).outgoing.octets.drop
            t.state.outgoing.octets.length := Trace.flatMap_next _ _ t _
    have refused (lost : t.state.unwritable = true) :
        ∃ e ∈ (t.next step (.activity now .write)).entries, (∃ now, e.2 = .activity now .write) ∧
          e.1.ending = none ∧ accepts e.1.outgoing = false := by
      obtain ⟨e, member, refused⟩ := ledger.refused lost
      exact ⟨e, List.mem_append_left _ member, refused⟩
    have last : (t.state, .activity now .write) ∈ (t.next step (.activity now .write)).entries :=
      List.mem_append_right _ List.mem_cons_self
    have writes : t.state.Writes (t.next step (.activity now .write)).state :=
      t.state.writes_happen now
    change _ = _ ++ (t.next step (.activity now .write)).state.outgoing.octets.drop _ at wrote
    generalize t.next step (.activity now .write) = t' at grown wrote refused last writes ⊢
    obtain ⟨s', entries⟩ := t'
    dsimp only at wrote refused last writes
    cases writes with
    | @written m rest first accepted =>
        -- After a failure to write the queue is empty and closed.
        have writable : t.state.unwritable = false := by
          cases lost : t.state.unwritable with
          | false => rfl
          | true =>
              rw [(ledger.lost lost).1] at first
              cases first
        have remaining : (queuedBy t).drop t.state.written = m :: rest :=
          (ledger.remaining writable).trans first
        have taken : (queuedBy t).take (t.state.written + 1) =
            (queuedBy t).take t.state.written ++ [m] := by
          rw [List.take_add, remaining]
          rfl
        refine ⟨?_, ?_, ?_, ?_, refused, ledger.closed, ledger.reason, ?_⟩
        · have more := congrArg List.length remaining
          rw [grown]
          simp only [List.length_drop, List.length_cons] at more ⊢
          omega
        · rw [grown, wrote, taken, numbered_append, ledger.wrote, List.drop_left, List.length_take,
            Nat.min_eq_left ledger.fits]
        · intro _
          rw [grown, ← List.drop_drop, remaining]
          rfl
        · intro lost
          rw [writable] at lost
          cases lost
        · intro ended
          obtain ⟨-, empty⟩ := ledger.ended ended
          rw [empty] at first
          cases first
    | refused refuses more =>
        refine ⟨grown ▸ ledger.fits, ?_, nofun, fun _ => ⟨rfl, rfl⟩, fun _ => ?_, fun _ => rfl,
          fun _ => .inr rfl, ?_⟩
        · rw [grown, wrote, ledger.wrote, List.drop_length, List.append_nil]
        · refine ⟨_, last, ⟨now, rfl⟩, ?_, refuses⟩
          cases ended : t.state.ending with
          | none => rfl
          | some e => exact absurd (ledger.ended (by rw [ended]; rfl)).2 more
        · exact fun ended => ⟨(ledger.ended ended).1, rfl⟩
    | ended empty concluded going =>
        refine ⟨grown ▸ ledger.fits, ?_, ?_, ledger.lost, refused, ledger.closed, ledger.reason,
          fun _ => ⟨concluded, empty⟩⟩
        · rw [grown, wrote, ledger.wrote, List.drop_length, List.append_nil]
        · rw [grown]
          exact ledger.remaining
    | idle =>
        refine ⟨grown ▸ ledger.fits, ?_, ?_, ledger.lost, refused, ledger.closed, ledger.reason,
          ledger.ended⟩
        · rw [grown, wrote, ledger.wrote, List.drop_length, List.append_nil]
        · rw [grown]
          exact ledger.remaining
  · exact ledger_unwritten ledger fun now same => write ⟨now, same⟩

theorem ledger_run (config : Monitor.Config) (home : String) (refusal : Option Monitor.Refusal)
    (patience : Millis) (happenings : List Happening) :
    Ledger (Trace.run step (opening config home refusal patience) happenings) := by
  refine Trace.run_invariant step ⟨Nat.le_refl _, rfl, fun _ => rfl, nofun, nofun, nofun, ?_, nofun⟩
    ledger_next happenings
  intro closed
  cases closed

/-- The launches that have been put off. -/
def putOff (t : Trace Session (Session × Happening)) : List Request :=
  t.entries.flatMap fun (s, h) => ((s.handled? h).filter (·.isPutOff)).toList

/-- The launches among them that have been answered. -/
def settledBy (t : Trace Session (Session × Happening)) : List Request :=
  t.entries.flatMap fun (s, h) => ((s.settled? h).map (·.request)).toList

theorem launches_run (config : Monitor.Config) (home : String) (refusal : Option Monitor.Refusal)
    (patience : Millis) (happenings : List Happening) :
    let t := Trace.run step (opening config home refusal patience) happenings
    List.Perm (settledBy t ++ t.state.handler.launches.map (·.request)) (putOff t) := by
  refine Trace.run_invariant step
    (P := fun t => List.Perm (settledBy t ++ t.state.handler.launches.map (·.request)) (putOff t))
    (.refl _) ?_ happenings
  intro t h kept
  have settled : settledBy (t.next step h) =
      settledBy t ++ ((t.state.settled? h).map (·.request)).toList := Trace.flatMap_next _ _ t h
  have more : putOff (t.next step h) =
      putOff t ++ ((t.state.handled? h).filter (·.isPutOff)).toList := Trace.flatMap_next _ _ t h
  rw [settled, more, List.append_assoc]
  refine ((t.state.launches_happen h).append_left _).trans ?_
  rw [← List.append_assoc]
  exact kept.append_right _

theorem settled?_returned {i : Nat} {p : PendingLaunch} {errand : Nat}
    (found : s.handler.launches[i]? = some p) (stage : p.stage = .starting errand)
    (returned : errand ∈ s.control.done) (now : Millis) :
    s.settled? (.activity now (.complete i)) = some p := by
  have contained : s.handler.control.done.contains errand = true := List.contains_iff_mem.mpr returned
  simp only [settled?, Handler.complete?, found, Option.bind_eq_bind, Option.bind_some, stage,
    contained, if_true]
  rfl

/-- A session that has concluded ends when all that is queued has been written. -/
theorem ends_writing (now : Millis) (queue : List Outgoing) {s : Session}
    (outbox : s.handler.outbox = queue) (concluded : s.concluded = true)
    (accepted : accepts s.outgoing = true) :
    (s.run (List.replicate (queue.length + 1) (.activity now .write))).ending.isSome := by
  induction queue generalizing s with
  | nil =>
      have writes := s.writes_happen now
      rw [List.length_nil, Nat.zero_add, List.replicate_one, run, List.foldl_cons, List.foldl_nil]
      generalize s.happen (.activity now .write) = s' at writes ⊢
      cases writes with
      | written first =>
          rw [outbox] at first
          cases first
      | refused refused => exact absurd accepted (by simp [refused])
      | ended => rfl
      | idle _ going => exact going.resolve_left (by simp [concluded])
  | cons m rest ih =>
      have writes := s.writes_happen now
      rw [List.length_cons, List.replicate_succ, run, List.foldl_cons, ← run]
      generalize s.happen (.activity now .write) = s' at writes ⊢
      cases writes with
      | written first =>
          cases outbox.symm.trans first
          exact ih rfl concluded accepted
      | refused refused => exact absurd accepted (by simp [refused])
      | ended empty | idle empty =>
          rw [outbox] at empty
          cases empty

/-- How a run of a session serves the editor. -/
structure Served (t : Trace Session (Session × Happening)) : Prop where
  /-- Every launch that has been put off has been answered once, or is pending. -/
  launches : List.Perm (settledBy t ++ t.state.handler.launches.map (·.request)) (putOff t)
  /-- A pending launch whose start has returned can be answered at once. -/
  returned : ∀ (i : Nat) (p : PendingLaunch) (errand : Nat) (now : Millis),
    t.state.handler.launches[i]? = some p → p.stage = .starting errand →
      errand ∈ t.state.control.done → t.state.settled? (.activity now (.complete i)) = some p
  /-- The queue is closed only by the end, or when the editor does not read any more. -/
  closed : t.state.handler.closed = true → t.state.concluded = true ∨
    ∃ e ∈ t.entries, (∃ now, e.2 = .activity now .write) ∧ e.1.ending = none ∧
      accepts e.1.outgoing = false
  /-- What has been written are the first messages that were queued, numbered from 1. -/
  numbered : t.state.written ≤ (queuedBy t).length ∧
    t.entries.flatMap (fun (s, h) => s.wrote h) = numbered ((queuedBy t).take t.state.written)
  /-- When the session has ended, all of them have been written, unless the editor did not read. -/
  complete : t.state.ending.isSome = true →
    (∀ e ∈ t.entries, (∃ now, e.2 = .activity now .write) → e.1.ending = none →
      accepts e.1.outgoing = true) → t.state.written = (queuedBy t).length
  /-- A session that has concluded ends after some more writing. -/
  ends : ∀ now, t.state.concluded = true → accepts t.state.outgoing = true →
    (t.state.run (List.replicate (t.state.handler.outbox.length + 1)
      (.activity now .write))).ending.isSome

end Session

end DebugAdapter
