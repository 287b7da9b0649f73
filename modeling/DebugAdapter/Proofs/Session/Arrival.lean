import DebugAdapter.Proofs.Session.Relay
/-!
# The arrival of output

What an interpreter pushes goes through four queues: the reports of the channel, the news, the
notices and the messages to the editor. Each of them gets emptied if it is attended to again and
again. So while the session goes on, every push is shown, and what shows it is written.
-/

namespace DebugAdapter

open Control (Moment)
open Monitor (Event Push)
open Protocol (Outgoing passedOn)

namespace Session

open Handler (messageOf)

variable {s : Session} {hs : Nat → Happening} {i n k : Nat}

/-- What a session has gone through after the first `n` of endlessly many happenings. -/
def course (s : Session) (hs : Nat → Happening) (n : Nat) : Trace Session (Session × Happening) :=
  Trace.run step s ((List.range n).map hs)

theorem course_succ (s : Session) (hs : Nat → Happening) (n : Nat) :
    course s hs (n + 1) = (course s hs n).next step (hs n) := by
  rw [course, List.range_succ, List.map_append, Trace.run, List.foldl_append]
  rfl

/-- The messages that have been written. -/
def writtenBy (t : Trace Session (Session × Happening)) : List Outgoing :=
  (queuedBy t).take t.state.written

/-- What is attended to again and again. -/
structure Attended (hs : Nat → Happening) (i : Nat) : Prop where
  forward : ∀ n, ∃ m ≥ n, ∃ now, hs m = .activity now (.control (.debuggee i .forward))
  hear : ∀ n, ∃ m ≥ n, ∃ now, hs m = .activity now (.control .hear)
  notice : ∀ n, ∃ m ≥ n, ∃ now, hs m = .activity now .notice
  write : ∀ n, ∃ m ≥ n, ∃ now, hs m = .activity now .write

/-- From the `n`th happening on, interpreter `i` is the present one, no other start gets its turn,
and the queue of messages is open: the session does not conclude, and the editor reads. -/
structure Lasts (s : Session) (hs : Nat → Happening) (i n : Nat) : Prop where
  installed : (course s hs n).state.control.Installed i
  unreplaced : ∀ k ≥ n, ∀ m, (course s hs k).state.moment? (hs k) = some m → m.launches = false
  open_ : ∀ k ≥ n, (course s hs k).state.handler.closed = false

theorem gathered_course {α : Type} (f : Moment → List α) (later : n ≤ k) :
    gathered f (course s hs n) <+: gathered f (course s hs k) := by
  induction later with
  | refl => exact List.prefix_refl _
  | @step k later ih =>
      rw [Nat.succ_eq_add_one, course_succ]
      exact ih.trans (gathered_part f _ _)

theorem queuedBy_part (t : Trace Session (Session × Happening)) (h : Happening) :
    queuedBy t <+: queuedBy (t.next step h) := ⟨_, (Trace.flatMap_next _ _ t h).symm⟩

/-- Writing takes the first message from an open queue. -/
theorem written_next {t : Trace Session (Session × Happening)} {now : Millis}
    (open_ : (t.next step (.activity now .write)).state.handler.closed = false)
    (waits : t.state.handler.outbox ≠ []) :
    (t.next step (.activity now .write)).state.written = t.state.written + 1 := by
  have writes : t.state.Writes (t.next step (.activity now .write)).state :=
    t.state.writes_happen now
  generalize (t.next step (.activity now .write)).state = s' at open_ writes ⊢
  cases writes with
  | written => rfl
  | refused => cases open_
  | ended empty | idle empty => exact absurd empty waits

theorem written_part (t : Trace Session (Session × Happening)) (h : Happening) :
    t.state.written ≤ (t.next step h).state.written := by
  by_cases write : ∃ now, h = .activity now .write
  · obtain ⟨now, rfl⟩ := write
    have writes : t.state.Writes (t.next step (.activity now .write)).state :=
      t.state.writes_happen now
    generalize (t.next step (.activity now .write)).state = s' at writes ⊢
    cases writes with
    | written => exact Nat.le_succ _
    | refused | ended | idle => exact Nat.le_refl _
  · obtain ⟨unwritten, -⟩ := t.state.unwritten_happen h fun now same => write ⟨now, same⟩
    exact unwritten.written.ge

section

variable {t : Trace Session (Session × Happening)} (followed : Followed t i)
include followed

/-- The pushes that have become news have been heard or are still news. -/
theorem Followed.forwarded :
    Monitor.pushesOf (gathered (·.forwardedOf i) t) =
      (gathered (·.heardOf i) t ++ t.state.control.newsOf i).filterMap Event.push? := by
  have waiting : t.state.control.pushesToCome i =
      (t.state.control.newsOf i).filterMap Event.push? ++
        Monitor.pushesOf (t.state.control.reportsOf i) := by
    unfold Control.pushesToCome Control.newsOf Control.reportsOf
    cases t.state.control.debuggees[i]? with
    | none => rfl
    | some d =>
        simp only [Option.map_some, Option.getD_some]
        rw [Debuggee.pushesToCome, Debuggee.toCome, List.filterMap_append,
          Monitor.filterMap_isForwarded, Monitor.pushesOf_eq]
  refine (List.append_left_inj (Monitor.pushesOf (t.state.control.reportsOf i))).mp ?_
  rw [← Monitor.pushesOf_append, followed.reports, followed.taken, ← followed.pushes, followed.heard,
    waiting, List.filterMap_append, List.append_assoc]

end

/-! ## Stages -/

section

variable (relaying : ∀ k, Relaying (course s hs k) i) (ledger : ∀ k, Ledger (course s hs k))
  (attended : Attended hs i)

theorem course_step {P : Trace Session (Session × Happening) → Prop}
    (holds : P ((course s hs k).next step (hs k))) : P (course s hs (k + 1)) := by
  rw [course_succ]
  exact holds

include ledger

theorem Lasts.stays (lasts : Lasts s hs i n) (later : n ≤ k) : Lasts s hs i k := by
  refine ⟨?_, fun j still => lasts.unreplaced j (Nat.le_trans later still),
    fun j still => lasts.open_ j (Nat.le_trans later still)⟩
  induction later with
  | refl => exact lasts.installed
  | @step k later ih =>
      refine course_step (P := fun t => t.state.control.Installed i) ?_
      have turns := (course s hs k).state.turns (hs k)
      change ((course s hs k).state.happen (hs k)).control.Installed i
      cases turns with
      | @moment m moment before after =>
          rw [after]
          exact (Moment.installed_next (before ▸ ih) (lasts.unreplaced k later m moment)).1
      | passes _ _ _ control =>
          rw [control]
          exact ⟨ih.present, ih.starting⟩
      | still _ still =>
          exact ⟨still.calm.present.trans ih.present, still.calm.starting.trans ih.starting⟩
      | discards _ ended =>
          -- A session that has ended has closed its queue.
          have closed := (ledger k).closed ((ledger k).ended ended).1
          cases closed.symm.trans (lasts.open_ k later)

omit ledger
include attended

section

include relaying

theorem reports_forwarded (n : Nat) : ∃ k ≥ n,
    gathered (·.reportedOf i) (course s hs n) <+: gathered (·.forwardedOf i) (course s hs k) := by
  rw [← (relaying n).followed.reports]
  refine gets_through (fun k => gathered (·.forwardedOf i) (course s hs k))
    (fun k => (course s hs k).state.control.reportsOf i)
    (fun k _ => gathered_course _ (Nat.le_succ k)) (fun k _ => ?_) (fun k _ => ?_) attended.forward
  · rw [(relaying k).followed.reports, (relaying (k + 1)).followed.reports]
    exact gathered_course _ (Nat.le_succ k)
  · rintro ⟨now, happening⟩ waits
    rw [course_succ, happening, gathered_moment _ rfl]
    exact fun same => Moment.forwards rfl waits (List.append_right_eq_self.mp same)

end

include ledger

theorem news_heard (lasts : Lasts s hs i n) : ∃ k ≥ n,
    gathered (·.heardOf i) (course s hs n) ++ (course s hs n).state.control.newsOf i <+:
      gathered (·.heardOf i) (course s hs k) := by
  refine gets_through (fun k => gathered (·.heardOf i) (course s hs k))
    (fun k => (course s hs k).state.control.newsOf i)
    (fun k _ => gathered_course _ (Nat.le_succ k)) (fun k _ => ?_) (fun k later => ?_) attended.hear
  · rw [course_succ]
    obtain ⟨m, moment, before, after⟩ | ⟨none_, tells⟩ :=
      ((course s hs k).state.turns (hs k)).tells
    · have after : ((course s hs k).next step (hs k)).state.control = m.after := after
      rw [gathered_moment _ moment, List.append_assoc, ← before, after]
      exact (List.prefix_append_right_inj _).mpr (m.news_next i)
    · have same : ((course s hs k).next step (hs k)).state.control.newsOf i = _ :=
        (tells.queues i).2.2
      rw [gathered_none _ none_, same]
  · rintro ⟨now, happening⟩ waits
    rw [course_succ, happening, gathered_moment _ rfl]
    have present := (lasts.stays ledger later).installed.present
    exact fun same => Moment.hears rfl present waits (List.append_right_eq_self.mp same)

variable (open_ : ∀ k ≥ n, (course s hs k).state.handler.closed = false)
include open_

theorem notices_passedOn (relaying : ∀ k, Relaying (course s hs k) i) :
    ∃ k ≥ n, messagesBy (course s hs n) <+: passedOn (queuedBy (course s hs k)) := by
  rw [← (relaying n).passes.rest (open_ n (Nat.le_refl n))]
  refine gets_through (fun k => passedOn (queuedBy (course s hs k)))
    (fun k => (course s hs k).state.control.notices.map messageOf)
    (fun k _ => ?_) (fun k later => ?_) (fun k later => ?_) attended.notice
  · rw [course_succ]
    exact (queuedBy_part _ _).filter _
  · rw [(relaying k).passes.rest (open_ k later),
      (relaying (k + 1)).passes.rest (open_ (k + 1) (Nat.le_succ_of_le later))]
    exact (gathered_course _ (Nat.le_succ k)).map _
  · rintro ⟨now, happening⟩ waits
    have going : (course s hs k).state.concluded = false := by
      cases concluded : (course s hs k).state.concluded with
      | false => rfl
      | true => cases ((ledger k).closed concluded).symm.trans (open_ k later)
    cases notices : (course s hs k).state.handler.control.notices with
    | nil => exact absurd (congrArg (List.map messageOf) notices) waits
    | cons first rest =>
        have passed : passedOn ((course s hs k).state.queued (hs k)) = [messageOf first] := by
          rw [passedOn_queued, open_ k later, happening, passed?, going, notices]
          rfl
        rw [course_succ, queuedBy, Trace.flatMap_next, passedOn_append, ← queuedBy]
        refine fun same => List.cons_ne_nil _ _ (passed.symm.trans ?_)
        exact List.append_right_eq_self.mp same

theorem messages_written : ∃ k ≥ n, queuedBy (course s hs n) <+: writtenBy (course s hs k) := by
  have all (k : Nat) (later : k ≥ n) : writtenBy (course s hs k) ++
      (course s hs k).state.handler.outbox = queuedBy (course s hs k) := by
    have writable : (course s hs k).state.unwritable = false := by
      cases lost : (course s hs k).state.unwritable with
      | false => rfl
      | true => cases ((ledger k).lost lost).2.symm.trans (open_ k later)
    rw [← (ledger k).remaining writable]
    exact List.take_append_drop _ _
  have length (k : Nat) : (writtenBy (course s hs k)).length = (course s hs k).state.written :=
    List.length_take_of_le (ledger k).fits
  have grows (k : Nat) : queuedBy (course s hs k) <+: queuedBy (course s hs (k + 1)) := by
    rw [course_succ]
    exact queuedBy_part _ _
  rw [← all n (Nat.le_refl n)]
  refine gets_through (fun k => writtenBy (course s hs k))
    (fun k => (course s hs k).state.handler.outbox)
    (fun k _ => ?_) (fun k later => ?_) (fun k later => ?_) attended.write
  · refine List.prefix_of_prefix_length_le ((List.take_prefix _ _).trans (grows k))
      (List.take_prefix _ _) ?_
    rw [length, length, course_succ]
    exact written_part _ _
  · rw [all k later, all (k + 1) (Nat.le_succ_of_le later)]
    exact grows k
  · rintro ⟨now, happening⟩ waits same
    have more := congrArg List.length same
    have still := open_ (k + 1) (Nat.le_succ_of_le later)
    rw [course_succ, happening] at still
    rw [length, length, course_succ, happening, written_next still waits] at more
    exact absurd more (Nat.succ_ne_self _)

end

/-! ## The way to the editor -/

/-- What there is to say of the output of interpreter `i`. -/
structure OutputArrives (s : Session) (hs : Nat → Happening) (i : Nat) : Prop where
  always : ∀ n, Relays (course s hs n) i
  /-- While the session lasts and its queues are attended to, every push that has been taken is
  shown, and what shows it is written. -/
  inTime : ∀ n, Attended hs i → Lasts s hs i n → ∃ k ≥ n,
    (takenBy (course s hs n) i).map Push.message <+:
      shown (tidingsBy (course s hs k)) (writtenBy (course s hs k)) i

theorem shown_in_time (relaying : ∀ k, Relaying (course s hs k) i)
    (ledger : ∀ k, Ledger (course s hs k)) (attended : Attended hs i) (lasts : Lasts s hs i n) :
    ∃ k ≥ n, (takenBy (course s hs n) i).map Push.message <+:
      shown (tidingsBy (course s hs k)) (writtenBy (course s hs k)) i := by
  -- The pushes get through one queue after the other.
  obtain ⟨k₁, later₁, forwarded⟩ := reports_forwarded relaying attended n
  obtain ⟨k₂, later₂, heard⟩ := news_heard ledger attended (lasts.stays ledger later₁)
  have lasts₂ := lasts.stays ledger (Nat.le_trans later₁ later₂)
  obtain ⟨k₃, later₃, passed⟩ := notices_passedOn ledger attended lasts₂.open_ relaying
  have lasts₃ := lasts₂.stays ledger later₃
  obtain ⟨k₄, later₄, written⟩ := messages_written ledger attended lasts₃.open_
  refine ⟨k₄, by omega, ?_⟩
  have noted :
      takenBy (course s hs n) i <+: (tidingsBy (course s hs k₂)).filterMap (·.push? i) := by
    rw [← (relaying n).followed.taken, (relaying k₂).followed.heard]
    refine ((forwarded.filterMap _).filterMap _).trans ?_
    change Monitor.pushesOf _ <+: _
    rw [(relaying k₁).followed.forwarded]
    exact heard.filterMap _
  have part : passedOn (writtenBy (course s hs k₄)) <+: messagesBy (course s hs k₄) :=
    ((List.take_prefix _ _).filter _).trans (relaying k₄).passes.part
  have far :
      (tidingsBy (course s hs k₂)).length ≤ (passedOn (writtenBy (course s hs k₄))).length := by
    have less := (passed.trans (written.filter _)).length_le
    rwa [messagesBy, List.length_map] at less
  rw [shown_eq [] (by rwa [List.append_nil]) (relaying k₄).followed.said]
  refine (noted.trans (List.IsPrefix.filterMap _ ?_)).map _
  have tidings : tidingsBy (course s hs k₂) <+: tidingsBy (course s hs k₄) :=
    gathered_course _ (Nat.le_trans later₃ later₄)
  rw [List.prefix_iff_eq_take.mp tidings]
  exact List.take_prefix_take_left far

/-- Something that cannot be read, and two pushes. -/
def greeting : Bytes :=
  Utf8.encode "?" ++ [4] ++ Utf8.encode "[\"stdout\",\"\",\"\",\"hi\"]" ++ [4] ++
    Utf8.encode "[\"stderr\",\"\",\"\",\"ho\"]" ++ [4]

/-- An interpreter that has come up pushes something. -/
def greeted : List Happening :=
  launched.dropLast ++ [.interpreter 0 { inbound := { octets := greeting } } {} none] ++
    List.replicate 3 (.activity 2000 (.control (.debuggee 0 (.link .read))))

/-- What leads from the interpreter to the editor. -/
def tending : Nat → Activity
  | 0 => .control (.debuggee 0 .forward)
  | 1 => .control .hear
  | 2 => .notice
  | _ => .write

theorem tending_cases (r : Nat) :
    (∃ i a, tending r = .control (.debuggee i a)) ∨ tending r = .control .hear ∨
      tending r = .notice ∨ tending r = .write := by
  unfold tending
  split
  · exact .inl ⟨_, _, rfl⟩
  · exact .inr (.inl rfl)
  · exact .inr (.inr (.inl rfl))
  · exact .inr (.inr (.inr rfl))

def greets : Nat → Happening := rounds greeted (fun now r => .activity now (tending r)) 4

theorem attended_greets : Attended greets 0 := by
  have again (r : Nat) (small : r < 4) (n : Nat) :
      ∃ m ≥ n, ∃ now, greets m = .activity now (tending r) := by
    obtain ⟨m, later, happening⟩ := rounds_again greeted
      (fun now r => Happening.activity now (tending r)) small n
    exact ⟨m, later, m, happening⟩
  exact ⟨again 0 (by omega), again 1 (by omega), again 2 (by omega), again 3 (by omega)⟩

/-- A session that goes on, and whose editor reads. -/
structure Going (s : Session) : Prop where
  concluded : s.concluded = false
  closed : s.handler.closed = false
  accepted : accepts s.outgoing = true

theorem Going.tend (going : s.Going) (now : Millis) (r : Nat) :
    (s.happen (.activity now (tending r))).Going := by
  obtain ⟨concluded, closed, accepted⟩ := going
  by_cases write : tending r = .write
  · rw [write]
    have writes := s.writes_happen now
    generalize s.happen (.activity now .write) = s' at writes ⊢
    cases writes with
    | written => exact ⟨concluded, closed, accepted⟩
    | refused refused => cases refused.symm.trans accepted
    | ended _ concluded' => cases concluded'.symm.trans concluded
    | idle => exact ⟨concluded, closed, accepted⟩
  · have notRead : tending r ≠ .read := by
      obtain ⟨i, a, same⟩ | same | same | same := tending_cases r <;> simp [same]
    rw [happen]
    cases performed : s.perform? now (tending r) with
    | none => exact ⟨concluded, closed, accepted⟩
    | some s' =>
        obtain ⟨handler, rfl, acts⟩ := perform?_acts performed notRead write
        exact ⟨concluded, acts.closed.trans closed, accepted⟩

end Session

end DebugAdapter
