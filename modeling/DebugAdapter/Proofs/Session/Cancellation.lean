import DebugAdapter.Proofs.Session.Launches
import Mathlib.Data.Nat.Pairing
/-!
# Cancellation

A launch is answered as cancelled, and is never started, if and only if its number had been cancelled
when it went on, be it before the launch was asked for or while it waited. A launch that is not
cancelled and has a program is started, once, and not before its wait is over. Of other numbers that
are cancelled it takes no notice.
-/

namespace DebugAdapter

open Control (Moment Task)
open Protocol

namespace Session

open Handler (isWaiting)

variable {s : Session} {hs : Nat → Happening} {patience : Millis} {k : Nat}

/-! ## What has happened -/

/-- The session before the `k`th of endlessly many happenings. -/
def before (s : Session) (hs : Nat → Happening) (k : Nat) : Session := (course s hs k).state

/-- Whether a number has been cancelled before the `k`th happening. -/
def Cancelled (s : Session) (hs : Nat → Happening) (k : Nat) (id : Int) : Prop :=
  ∃ j < k, ((before s hs j).command? (hs j)).bind Command.cancels? = some id

/-- Whether the configuration has been finished before the `k`th happening. -/
def Configured (s : Session) (hs : Nat → Happening) (k : Nat) : Prop :=
  ∃ j < k, ((before s hs j).command? (hs j)).any Command.configures = true

/-- Whether the `k`th happening is that a launch is put off. -/
structure PutsOff (s : Session) (hs : Nat → Happening) (k : Nat) (began : Millis) (r : Request)
    (args : Launch) : Prop where
  happening : hs k = .activity began .read
  handled : (before s hs k).handled? (hs k) = some r
  launch : r.command?.bind Command.launch? = some args

/-- The launches that have gone on. -/
def resumedBy (t : Trace Session (Session × Happening)) : List Request :=
  t.entries.flatMap fun (s, h) => ((s.resumed? h).map (·.request)).toList

/-- The starts that have been asked for. -/
def startsBy (t : Trace Session (Session × Happening)) : List Task :=
  t.entries.flatMap fun (s, h) => s.startsAsked h

theorem before_succ (s : Session) (hs : Nat → Happening) (k : Nat) :
    before s hs (k + 1) = (before s hs k).happen (hs k) := by
  rw [before, course_succ]
  rfl

theorem cancelled_succ (id : Int) : Cancelled s hs (k + 1) id ↔
    Cancelled s hs k id ∨ ((before s hs k).command? (hs k)).bind Command.cancels? = some id :=
  Nat.exists_lt_succ_right

theorem configured_succ : Configured s hs (k + 1) ↔
    Configured s hs k ∨ ((before s hs k).command? (hs k)).any Command.configures = true :=
  Nat.exists_lt_succ_right

/-! ## Launches that are not answered -/

namespace Handler

/-- A launch that is still there when another goes on was there before, or is the one that goes on. -/
theorem mem_launches_resume {h : Handler} {i : Nat} {p q : PendingLaunch}
    (member : q ∈ (h.resume i p).launches) : q ∈ h.launches ∨
      q.request = p.request ∧ q.args = p.args ∧ isWaiting q = false ∧
        h.cancelled.contains p.request.seq = false := by
  rw [resume_launches] at member
  split at member
  · exact .inl (List.mem_of_mem_eraseIdx member)
  · rename_i unsettled
    obtain there | rfl := List.mem_or_eq_of_mem_set member
    · exact .inl there
    · rw [isSettled, Bool.not_eq_true, Bool.or_eq_false_iff] at unsettled
      exact .inr ⟨rfl, rfl, rfl, unsettled.1⟩

end Handler

/-- What a launch that is not answered has gone through before the `k`th happening. -/
structure Pending (patience : Millis) (s : Session) (hs : Nat → Happening) (k : Nat)
    (p : PendingLaunch) : Prop where
  putOff : ∃ j < k, ∃ began, PutsOff s hs j began p.request p.args ∧
    ∀ due, p.stage = .waiting due → due = began + patience
  started : isWaiting p = false → ∃ j < k, ∃ q, (before s hs j).resumed? (hs j) = some q ∧
    q.request = p.request ∧ (before s hs j).handler.cancelled.contains p.request.seq = false

theorem Pending.later {p : PendingLaunch} (pending : Pending patience s hs k p) :
    Pending patience s hs (k + 1) p := by
  obtain ⟨⟨j, earlier, putOff⟩, started⟩ := pending
  refine ⟨⟨j, Nat.lt_succ_of_lt earlier, putOff⟩, fun goesOn => ?_⟩
  obtain ⟨i, earlier, started⟩ := started goesOn
  exact ⟨i, Nat.lt_succ_of_lt earlier, started⟩

/-- How a session stands to what has happened before the `k`th happening. -/
structure Book (patience : Millis) (s : Session) (hs : Nat → Happening) (k : Nat) : Prop where
  patient : (before s hs k).handler.patience = patience
  configured : (before s hs k).handler.configured = true → Configured s hs k
  /-- A number stays cancelled until the launch with that number has gone on. -/
  cancelled : ∀ id ∉ (resumedBy (course s hs k)).map (·.seq),
    id ∈ (before s hs k).handler.cancelled ↔ Cancelled s hs k id
  pending : ∀ p ∈ (before s hs k).handler.launches, Pending patience s hs k p
  once : List.Perm
    (resumedBy (course s hs k) ++ (before s hs k).handler.waiting.map (·.request))
    (putOff (course s hs k))

theorem resumedBy_succ (s : Session) (hs : Nat → Happening) (k : Nat) :
    resumedBy (course s hs (k + 1)) = resumedBy (course s hs k) ++
      (((before s hs k).resumed? (hs k)).map (·.request)).toList := by
  rw [course_succ]
  exact Trace.flatMap_next _ _ _ _

theorem putOff_succ (s : Session) (hs : Nat → Happening) (k : Nat) :
    putOff (course s hs (k + 1)) = putOff (course s hs k) ++
      (((before s hs k).handled? (hs k)).filter (·.isPutOff)).toList := by
  rw [course_succ]
  exact Trace.flatMap_next _ _ _ _

/-- What is not a request changes nothing about what has been cancelled and configured. -/
theorem asked_succ (unhandled : (before s hs k).handled? (hs k) = none) :
    (Configured s hs (k + 1) ↔ Configured s hs k) ∧
      ∀ id, Cancelled s hs (k + 1) id ↔ Cancelled s hs k id := by
  have none_ : (before s hs k).command? (hs k) = none := by rw [command?, unhandled]; rfl
  constructor
  · rw [configured_succ, none_]
    exact or_iff_left Bool.false_ne_true
  · intro id
    rw [cancelled_succ, none_]
    exact or_iff_left nofun

theorem book_succ (book : Book patience s hs k) : Book patience s hs (k + 1) := by
  have once : List.Perm (resumedBy (course s hs (k + 1)) ++
      (before s hs (k + 1)).handler.waiting.map (·.request)) (putOff (course s hs (k + 1))) := by
    rw [resumedBy_succ, putOff_succ, before_succ, List.append_assoc]
    refine (((before s hs k).waiting_happen (hs k)).append_left _).trans ?_
    rw [← List.append_assoc]
    exact book.once.append_right _
  -- What is not a request leaves all of the book as it is, but for a launch that goes on.
  have unasked (unhandled : (before s hs k).handled? (hs k) = none)
      (patient : (before s hs (k + 1)).handler.patience = (before s hs k).handler.patience)
      (configured : (before s hs (k + 1)).handler.configured = (before s hs k).handler.configured)
      (cancelled : ∀ id, (∀ p, (before s hs k).resumed? (hs k) = some p → p.request.seq ≠ id) →
        (id ∈ (before s hs (k + 1)).handler.cancelled ↔ id ∈ (before s hs k).handler.cancelled))
      (pending : ∀ p ∈ (before s hs (k + 1)).handler.launches, p ∈ (before s hs k).handler.launches ∨
        Pending patience s hs (k + 1) p) : Book patience s hs (k + 1) := by
    obtain ⟨configured', cancelled'⟩ := asked_succ unhandled
    refine ⟨patient.trans book.patient, ?_, ?_, ?_, once⟩
    · rw [configured, configured']
      exact book.configured
    · intro id notResumed
      rw [resumedBy_succ, List.map_append, List.mem_append, not_or] at notResumed
      rw [cancelled', ← book.cancelled id notResumed.1]
      refine cancelled id fun p resumed same => notResumed.2 ?_
      rw [resumed]
      exact List.mem_singleton.mpr same.symm
    · intro p member
      exact (pending p member).elim (fun there => (book.pending p there).later) id
  cases (before s hs k).affects (hs k) with
  | @resumes now i p due happening found stage ripe resumed after =>
      have goes := (before s hs k).handler.goes_resume i p
      rw [← after, ← before_succ] at goes
      refine unasked (by rw [happening]; rfl) goes.patience goes.configured ?_ ?_
      · intro id other
        exact goes.cancelled id (other p resumed).symm
      · intro q member
        rw [before_succ, after] at member
        obtain there | ⟨request, args, started, uncancelled⟩ := Handler.mem_launches_resume member
        · exact .inl there
        · obtain ⟨j, earlier, began, putOff, -⟩ :=
            (book.pending p (List.mem_of_getElem? found)).putOff
          refine .inr ⟨⟨j, Nat.lt_succ_of_lt earlier, began, ?_, ?_⟩, fun _ => ?_⟩
          · rw [request, args]
            exact putOff
          · intro due waits
            rw [isWaiting, waits] at started
            cases started
          · exact ⟨k, Nat.lt_succ_self k, p, resumed, request.symm, request ▸ uncancelled⟩
  | @handles now r happening handled heeds =>
      rw [← before_succ] at heeds
      have command : (before s hs k).command? (hs k) = r.command? := by rw [command?, handled]; rfl
      have unresumed : (before s hs k).resumed? (hs k) = none := by rw [happening]; rfl
      refine ⟨heeds.patience.trans book.patient, ?_, ?_, ?_, once⟩
      · rw [heeds.configured, configured_succ, command, Bool.or_eq_true]
        exact Or.imp_left book.configured
      · intro id notResumed
        rw [resumedBy_succ, unresumed, Option.map_none, Option.toList_none, List.append_nil]
          at notResumed
        rw [heeds.cancelled, cancelled_succ, command, List.mem_append, book.cancelled id notResumed,
          Option.mem_toList]
      · intro p member
        rw [heeds.launches, List.mem_append, Option.mem_toList] at member
        obtain there | new := member
        · exact (book.pending p there).later
        · obtain ⟨args, launch, rfl⟩ := Option.map_eq_some_iff.mp new
          refine ⟨⟨k, Nat.lt_succ_self k, now, ⟨happening, handled, launch⟩, ?_⟩,
            fun goesOn : true = false => Bool.noConfusion goesOn⟩
          rintro due ⟨⟩
          rw [book.patient]
  | completes happening found started same =>
      rw [← before_succ] at same
      refine unasked (by rw [happening]; rfl) same.patience same.configured ?_ ?_
      · intro id _
        rw [same.cancelled]
      · intro p member
        rw [same.launches] at member
        exact .inl (List.mem_of_mem_eraseIdx member)
  | nothing unresumed unhandled same =>
      rw [← before_succ] at same
      refine unasked unhandled same.patience same.configured ?_ ?_
      · intro id _
        rw [same.cancelled]
      · intro p member
        rw [same.launches] at member
        exact .inl member

theorem book_course (config : Monitor.Config) (home : String) (refusal : Option Monitor.Refusal)
    (patience : Millis) (hs : Nat → Happening) (k : Nat) :
    Book patience (opening config home refusal patience) hs k := by
  induction k with
  | zero =>
      refine ⟨rfl, nofun, fun id _ => ⟨nofun, ?_⟩, nofun, .refl _⟩
      rintro ⟨j, none_, -⟩
      exact absurd none_ (Nat.not_lt_zero j)
  | succ k ih => exact book_succ ih

/-! ## Launches that go on -/

section

variable (book : ∀ k, Book patience s hs k)
  (distinct : ∀ k, ((putOff (course s hs k)).map (·.seq)).Nodup)

theorem mem_resumedBy {j : Nat} {p : PendingLaunch}
    (resumed : (before s hs j).resumed? (hs j) = some p) (later : j < k) :
    p.request ∈ resumedBy (course s hs k) := by
  induction later with
  | refl =>
      rw [Nat.succ_eq_add_one, resumedBy_succ, resumed]
      exact List.mem_append_right _ (List.mem_singleton.mpr rfl)
  | step _ ih =>
      rw [Nat.succ_eq_add_one, resumedBy_succ]
      exact List.mem_append_left _ ih

include book distinct

/-- A launch that goes on has not gone on before. -/
theorem new_of_resumed {p : PendingLaunch} (resumed : (before s hs k).resumed? (hs k) = some p) :
    p.request.seq ∉ (resumedBy (course s hs k)).map (·.seq) := by
  have nodup := ((book (k + 1)).once.map (·.seq)).nodup_iff.mpr (distinct (k + 1))
  rw [List.map_append] at nodup
  have apart := nodup.of_append_left
  rw [resumedBy_succ, resumed, List.map_append] at apart
  exact fun member => List.disjoint_of_nodup_append apart member (List.mem_singleton.mpr rfl)

theorem resumed_once {j : Nat} {p q : PendingLaunch}
    (resumed : (before s hs j).resumed? (hs j) = some p)
    (resumed' : (before s hs k).resumed? (hs k) = some q)
    (same : p.request.seq = q.request.seq) : j = k := by
  obtain earlier | rfl | later := Nat.lt_trichotomy j k
  · have member := List.mem_map_of_mem (f := (·.seq)) (mem_resumedBy resumed earlier)
    exact absurd (same ▸ member) (new_of_resumed book distinct resumed')
  · rfl
  · have member := List.mem_map_of_mem (f := (·.seq)) (mem_resumedBy resumed' later)
    exact absurd (same ▸ member) (new_of_resumed book distinct resumed)

/-- What counts when a launch goes on is what has been cancelled until then. -/
theorem cancelled_of_resumed {p : PendingLaunch}
    (resumed : (before s hs k).resumed? (hs k) = some p) :
    (before s hs k).handler.cancelled.contains p.request.seq = true ↔
      Cancelled s hs k p.request.seq := by
  rw [List.contains_iff_mem]
  exact (book k).cancelled _ (new_of_resumed book distinct resumed)

end

/-- How a launch goes on. -/
structure GoesOn (patience : Millis) (s : Session) (hs : Nat → Happening) (k : Nat)
    (p : PendingLaunch) : Prop where
  /-- It had been put off, and the configuration is finished, or has taken too long, or nobody is left
  to finish it. -/
  waited : ∃ j < k, ∃ began now i, PutsOff s hs j began p.request p.args ∧
    hs k = .activity now (.resume i) ∧
    (Configured s hs k ∨ began + patience ≤ now ∨ (before s hs k).ending.isSome = true)
  cancelled : Cancelled s hs k p.request.seq →
    (before s hs k).produced (hs k) = [.response (.failure p.request "cancelled")] ∧
      (before s hs k).startsAsked (hs k) = []
  pointless : ¬ Cancelled s hs k p.request.seq → p.args.program = none →
    (before s hs k).produced (hs k) = [.response (.error p.request noProgram)] ∧
      (before s hs k).startsAsked (hs k) = []
  started : ¬ Cancelled s hs k p.request.seq → ∀ program, p.args.program = some program →
    (before s hs k).produced (hs k) = [] ∧ ∃ asker, (before s hs k).startsAsked (hs k) =
      [{ errand := .start program (p.args.stopOnEntry.getD false) (!p.args.noDebug.getD false)
         asker := some asker }]

theorem goesOn (book : ∀ k, Book patience s hs k)
    (distinct : ∀ k, ((putOff (course s hs k)).map (·.seq)).Nodup) {p : PendingLaunch}
    (resumed : (before s hs k).resumed? (hs k) = some p) : GoesOn patience s hs k p := by
  have counts := cancelled_of_resumed book distinct resumed
  have produced := produced_resumed resumed
  have asked := (before s hs k).startsAsked_eq (hs k)
  rw [resumed, Option.map_some, Option.getD_some] at asked
  constructor
  · cases (before s hs k).affects (hs k) with
    | @resumes now i q due happening found stage ripe resumed' =>
        cases resumed.symm.trans resumed'
        obtain ⟨j, earlier, began, putOff, waits⟩ :=
          ((book k).pending p (List.mem_of_getElem? found)).putOff
        refine ⟨j, earlier, began, now, i, putOff, happening, ?_⟩
        obtain configured | ended | late := ripe
        · exact .inl ((book k).configured configured)
        · exact .inr (.inr ended)
        · exact .inr (.inl (waits due stage ▸ late))
    | handles happening => rw [happening] at resumed; cases resumed
    | completes happening => rw [happening] at resumed; cases resumed
    | nothing unresumed => cases unresumed.symm.trans resumed
  · intro cancelled
    rw [produced, asked, Handler.resumption, Handler.startOf, if_pos (counts.mpr cancelled),
      if_pos (counts.mpr cancelled)]
    exact ⟨rfl, rfl⟩
  · intro uncancelled named
    rw [produced, asked, Handler.resumption, Handler.startOf, if_neg (mt counts.mp uncancelled),
      if_neg (mt counts.mp uncancelled), named]
    exact ⟨rfl, rfl⟩
  · intro uncancelled program named
    rw [produced, asked, Handler.resumption, Handler.startOf, if_neg (mt counts.mp uncancelled),
      if_neg (mt counts.mp uncancelled), named]
    exact ⟨rfl, _, rfl⟩

/-- A launch is answered as cancelled if it had been cancelled when it went on, and not otherwise. -/
theorem answered_cancelled (book : ∀ k, Book patience s hs k)
    (distinct : ∀ k, ((putOff (course s hs k)).map (·.seq)).Nodup) {p : PendingLaunch}
    (settled : (before s hs k).settled? (hs k) = some p) :
    ∃ j ≤ k, ∃ q, (before s hs j).resumed? (hs j) = some q ∧ q.request = p.request ∧
      ((before s hs k).produced (hs k) = [.response (.failure p.request "cancelled")] ↔
        Cancelled s hs j p.request.seq) := by
  obtain ⟨resumed, -⟩ | ⟨member, started, produced⟩ := settled_cases settled
  · have counts := cancelled_of_resumed book distinct resumed
    refine ⟨k, Nat.le_refl k, p, resumed, rfl, ?_, fun cancelled =>
      ((goesOn book distinct resumed).cancelled cancelled).1⟩
    intro answer
    refine counts.mp ?_
    rw [produced_resumed resumed, Handler.resumption] at answer
    split at answer
    · assumption
    · split at answer
      · exact absurd answer (by simp [Response.error, Response.failure, Response.ack])
      · cases answer
  · obtain ⟨j, earlier, q, resumed, request, uncancelled⟩ := ((book k).pending p member).started started
    refine ⟨j, Nat.le_of_lt earlier, q, resumed, request, ?_, fun cancelled => ?_⟩
    · intro answer
      rw [produced, Handler.launchResponse] at answer
      split at answer
      · exact absurd answer (by simp [Response.error, Response.failure, Response.ack])
      · cases answer
    · rw [← request] at uncancelled cancelled
      have counted := (cancelled_of_resumed book distinct resumed).mpr cancelled
      cases counted.symm.trans uncancelled

/-! ## In time -/

/-- Whether it is tried again and again, and later and later, whether a launch can go on. -/
def Tried (hs : Nat → Happening) : Prop :=
  ∀ i n due, ∃ m ≥ n, ∃ now ≥ due, hs m = .activity now (.resume i)

/-- A launch that waits goes on in the end: each time that it does not, it has moved forward or is
where it was. -/
theorem resumed_in_time (tried : Tried hs) {i : Nat} {p : PendingLaunch}
    (found : (before s hs k).handler.launches[i]? = some p) (waits : isWaiting p = true) :
    ∃ m ≥ k, (before s hs m).resumed? (hs m) = some p := by
  induction i using Nat.strongRecOn generalizing k with
  | ind i ih =>
      obtain ⟨due, stage⟩ : ∃ due, p.stage = .waiting due := by
        unfold isWaiting at waits
        split at waits
        · exact ⟨_, ‹_›⟩
        · cases waits
      obtain ⟨m, later, now, ripe, happening⟩ := tried i k due
      -- Until then it goes on, or moves forward, or is where it was.
      have until_ : (∃ n ≥ k, (before s hs n).resumed? (hs n) = some p) ∨
          (before s hs m).handler.launches[i]? = some p := by
        clear happening
        induction later with
        | refl => exact .inr found
        | @step n later ih' =>
            obtain done | there := ih'
            · exact .inl done
            · obtain resumed | ⟨j, forward, there⟩ := stays_waiting there waits (hs n)
              · exact .inl ⟨n, later, resumed⟩
              · rw [← before_succ] at there
                obtain closer | same := Nat.lt_or_eq_of_le forward
                · obtain ⟨l, still, resumed⟩ := ih j closer there
                  exact .inl ⟨l, Nat.le_trans (Nat.le_succ_of_le later) still, resumed⟩
                · exact .inr (same ▸ there)
      obtain done | there := until_
      · exact done
      · refine ⟨m, later, ?_⟩
        have enough : ((before s hs m).handler.configured || (before s hs m).ending.isSome ||
            decide (due ≤ now)) = true := by
          rw [decide_eq_true ripe, Bool.or_true]
        rw [happening]
        simp only [resumed?, Handler.resume?, there, Option.bind_eq_bind, Option.bind_some, stage,
          enough, if_true]
        rfl

theorem launch_in_time (tried : Tried hs) {began : Millis} {r : Request} {args : Launch}
    (putOff : PutsOff s hs k began r args) :
    ∃ m > k, ∃ p, (before s hs m).resumed? (hs m) = some p ∧ p.request = r := by
  cases (before s hs k).affects (hs k) with
  | @handles now r' happening handled heeds =>
      cases putOff.handled.symm.trans handled
      rw [← before_succ] at heeds
      have found : (before s hs (k + 1)).handler.launches[(before s hs k).handler.launches.length]? =
          some { request := r, args, stage := .waiting (now + (before s hs k).handler.patience) } := by
        rw [heeds.launches, putOff.launch]
        exact List.getElem?_concat_length
      obtain ⟨m, later, resumed⟩ := resumed_in_time tried found rfl
      exact ⟨m, later, _, resumed, rfl⟩
  | resumes happening => rw [putOff.happening] at happening; cases happening
  | completes happening => rw [putOff.happening] at happening; cases happening
  | nothing _ unhandled => cases unhandled.symm.trans putOff.handled

/-! ## Starts -/

/-- How the calls of the launcher stand to the starts that have been asked for. -/
structure Turned (t : Trace Session (Session × Happening)) : Prop where
  /-- A start that has been asked for has had its turn, once, or has yet to have it. -/
  kept : List.Perm (gathered Moment.startGranted t ++ t.state.control.startsToCome) (startsBy t)
  /-- Each turn of a start calls the launcher once, and nothing else does. -/
  calls : t.state.control.launches.length = (gathered Moment.startGranted t).length
  /-- No two starts are the same. -/
  askers : (startsBy t).map (·.asker) = (List.range t.state.handler.errands).map some

theorem turned_next {t : Trace Session (Session × Happening)} (turned : Turned t) (h : Happening) :
    Turned (t.next step h) := by
  have starts : startsBy (t.next step h) = startsBy t ++ t.state.startsAsked h :=
    Trace.flatMap_next _ _ t h
  obtain ⟨errands, askers⟩ := t.state.askers_happen h
  have askers' : (startsBy (t.next step h)).map (·.asker) =
      (List.range (t.next step h).state.handler.errands).map some := by
    have errands : (t.next step h).state.handler.errands = _ := errands
    rw [starts, List.map_append, turned.askers, askers, errands, List.range_add, List.map_append,
      List.map_map]
    rfl
  obtain ⟨m, moment, before, after⟩ | ⟨none_, -⟩ := (t.state.turns h).tells
  · obtain ⟨kept, unasked, launches⟩ := Moment.starts_of_unasked (unasked_moment moment)
    have after : (t.next step h).state.control = m.after := after
    have unasked : t.state.startsAsked h = [] := by
      rw [startsAsked, ← before]
      exact after ▸ unasked
    refine ⟨?_, ?_, askers'⟩
    · rw [starts, unasked, List.append_nil, gathered_moment _ moment, after, List.append_assoc]
      exact ((before ▸ kept).append_left _).trans turned.kept
    · rw [after, launches, before, turned.calls, gathered_moment _ moment, List.length_append]
  · obtain ⟨new, asks, -⟩ := t.state.asks_happen h none_
    have gathered_ := gathered_none Moment.startGranted none_ (t := t)
    refine ⟨?_, ?_, askers'⟩
    · have come : (t.next step h).state.control.startsToCome = _ := asks.starts
      rw [starts, gathered_, come, ← List.append_assoc]
      exact turned.kept.append_right _
    · have same : (t.next step h).state.control.launches = _ := asks.launches
      rw [same, gathered_]
      exact turned.calls

theorem turned_course (config : Monitor.Config) (home : String) (refusal : Option Monitor.Refusal)
    (patience : Millis) (hs : Nat → Happening) (k : Nat) :
    Turned (course (opening config home refusal patience) hs k) :=
  Trace.run_invariant step (P := Turned) ⟨.refl _, rfl, rfl⟩ (fun _ h turned => turned_next turned h) _

/-! ## Exactness -/

/-- What there is to say of launches and of what is cancelled. -/
structure CancelsExactly (patience : Millis) (s : Session) (hs : Nat → Happening) : Prop where
  goesOn : ∀ k p, (before s hs k).resumed? (hs k) = some p → GoesOn patience s hs k p
  once : ∀ j k p q, (before s hs j).resumed? (hs j) = some p →
    (before s hs k).resumed? (hs k) = some q → p.request.seq = q.request.seq → j = k
  answered : ∀ k p, (before s hs k).settled? (hs k) = some p →
    ∃ j ≤ k, ∃ q, (before s hs j).resumed? (hs j) = some q ∧ q.request = p.request ∧
      ((before s hs k).produced (hs k) = [.response (.failure p.request "cancelled")] ↔
        Cancelled s hs j p.request.seq)
  /-- Nothing but a launch that goes on asks for a start. -/
  unasked : ∀ k, (before s hs k).resumed? (hs k) = none → (before s hs k).startsAsked (hs k) = []
  turned : ∀ k, Turned (course s hs k)
  inTime : Tried hs → ∀ k began r args, PutsOff s hs k began r args →
    ∃ m > k, ∃ p, (before s hs m).resumed? (hs m) = some p ∧ p.request = r

theorem launches_cancelled_exactly (config : Monitor.Config) (home : String)
    (refusal : Option Monitor.Refusal) (patience : Millis) (hs : Nat → Happening)
    (distinct : ∀ k, ((putOff (course (opening config home refusal patience) hs k)).map
      (·.seq)).Nodup) :
    CancelsExactly patience (opening config home refusal patience) hs := by
  have book := book_course config home refusal patience hs
  refine ⟨fun k p => goesOn book distinct, fun j k p q => resumed_once book distinct,
    fun k p => answered_cancelled book distinct, fun k unresumed => ?_,
    turned_course config home refusal patience hs, fun tried k began r args => launch_in_time tried⟩
  rw [startsAsked_eq, unresumed]
  rfl

/-! ## Two launches, one of them cancelled -/

theorem putOff_part {j : Nat} (later : j ≤ k) : putOff (course s hs j) <+: putOff (course s hs k) := by
  induction later with
  | refl => exact List.prefix_refl _
  | step _ ih =>
      rw [Nat.succ_eq_add_one, putOff_succ]
      exact ih.trans (List.prefix_append _ _)

/-- Two launches, the second of which is cancelled before it is asked for. -/
def cancelledAhead : List Request :=
  [⟨1, "request", "cancel", .object [("requestId", .int 3)]⟩,
    ⟨2, "request", "launch", .object [("program", .string "p.bbc")]⟩,
    ⟨3, "request", "launch", .object [("program", .string "p.bbc")]⟩,
    ⟨4, "request", "configurationDone", .null⟩]

/-- The requests are handled, and the second launch goes on first. -/
def cancelling : List Happening :=
  [.editor { octets := cancelledAhead.flatMap fun r => Framing.Headed.encode r.encode } {}] ++
    List.replicate 4 (.activity 0 .read) ++ [.activity 0 (.resume 1), .activity 0 (.resume 0)]

/-- After that every place is tried again and again. -/
def cancels : Nat → Happening := rounds cancelling (fun n _ => .activity n (.resume n.unpair.1)) 1

theorem tried_cancels : Tried cancels := by
  intro i n due
  have far := Nat.right_le_pair i (cancelling.length + n + due)
  refine ⟨Nat.pair i (cancelling.length + n + due), by omega, Nat.pair i (cancelling.length + n + due),
    (Nat.le_add_left due _).trans far, ?_⟩
  rw [cancels, rounds_late _ _ (by omega), Nat.unpair_pair]

theorem launches_cancelled_exactly_ahead :
    let s := opening {} "/" none 1000
    (∀ k, ((putOff (course s cancels k)).map (·.seq)).Nodup) ∧ Tried cancels ∧
      (∃ began r args, PutsOff s cancels 3 began r args ∧ r.seq = 3 ∧
        ∃ m > 3, ∃ p, (before s cancels m).resumed? (cancels m) = some p ∧ p.request = r) ∧
      (∃ p, (before s cancels 5).resumed? (cancels 5) = some p ∧ Cancelled s cancels 5 p.request.seq ∧
        (before s cancels 5).produced (cancels 5) = [.response (.failure p.request "cancelled")]) ∧
      ∃ p, (before s cancels 6).resumed? (cancels 6) = some p ∧
        ¬ Cancelled s cancels 6 p.request.seq ∧
        ((before s cancels 6).startsAsked (cancels 6)).map (·.errand) = [.start "p.bbc" false true] := by
  intro s
  have late (k : Nat) : putOff (course s cancels (cancelling.length + k)) =
      putOff (course s cancels cancelling.length) := by
    induction k with
    | zero => rfl
    | succ k ih =>
        rw [← Nat.add_assoc, putOff_succ, cancels, rounds_late _ _ (Nat.le_add_right _ _), ← cancels,
          ih]
        exact List.append_nil _
  have distinct (k : Nat) : ((putOff (course s cancels k)).map (·.seq)).Nodup := by
    have all : ((putOff (course s cancels cancelling.length)).map (·.seq)).Nodup := by
      decide +kernel
    rw [← late k] at all
    exact ((putOff_part (Nat.le_add_left k _)).map _).sublist.nodup all
  have exact_ := launches_cancelled_exactly {} "/" none 1000 cancels distinct
  obtain ⟨third, fifth, sixth⟩ :
      ((before s cancels 3).handled? (cancels 3)).map (fun r =>
        (r.seq, (r.command?.bind Command.launch?).isSome)) = some (3, true) ∧
      ((before s cancels 5).resumed? (cancels 5)).map (·.request.seq) = some 3 ∧
      ((before s cancels 6).resumed? (cancels 6)).map (fun p => (p.request.seq, p.args.program,
        p.args.stopOnEntry, p.args.noDebug)) = some (2, some "p.bbc", none, none) := by
    decide +kernel
  obtain ⟨ahead, uncancelled⟩ : Cancelled s cancels 5 3 ∧ ¬ Cancelled s cancels 6 2 := by
    constructor
    · exact ⟨1, by decide, by decide +kernel⟩
    · unfold Cancelled
      decide +kernel
  refine ⟨distinct, tried_cancels, ?_, ?_, ?_⟩
  · obtain ⟨r, handled, about⟩ := Option.map_eq_some_iff.mp third
    obtain ⟨args, launch⟩ := Option.isSome_iff_exists.mp (congrArg Prod.snd about)
    have putOff : PutsOff s cancels 3 0 r args := ⟨rfl, handled, launch⟩
    exact ⟨0, r, args, putOff, congrArg Prod.fst about,
      exact_.inTime tried_cancels 3 0 r args putOff⟩
  · obtain ⟨p, resumed, seq⟩ := Option.map_eq_some_iff.mp fifth
    rw [← seq] at ahead
    exact ⟨p, resumed, ahead, ((exact_.goesOn 5 p resumed).cancelled ahead).1⟩
  · obtain ⟨p, resumed, about⟩ := Option.map_eq_some_iff.mp sixth
    simp only [Prod.mk.injEq] at about
    obtain ⟨seq, named, stop, debug⟩ := about
    rw [← seq] at uncancelled
    obtain ⟨-, asker, asked⟩ := (exact_.goesOn 6 p resumed).started uncancelled _ named
    refine ⟨p, resumed, uncancelled, ?_⟩
    rw [asked, stop, debug]
    rfl

end Session

end DebugAdapter
