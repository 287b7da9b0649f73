import DebugAdapter.Proofs.Control.Sessions
import DebugAdapter.Proofs.Monitor.Pushes
/-!
# What becomes of pushes

Between the channel to an interpreter and the notices of execution control, pushes stay in order:
those that have led to a notice and those that are to come are together the ones that were taken.
-/

namespace DebugAdapter

open Monitor (Event Push pushesOf)

theorem Monitor.Event.notices_push {e : Event} {p : Push} (push : e.push? = some p) :
    e.notices = [.output p.category p.text] := by
  cases e with
  | console text severity =>
      cases push
      cases severity <;> rfl
  | stdout | stderr =>
      cases push
      rfl
  | _ => cases push

namespace Control

/-- A notice, with the event that it comes from and whose that is. -/
structure Tiding where
  cause : Option (Nat × Event)
  notice : Notice

/-- The push of interpreter `i` that a notice comes from. -/
def Tiding.push? (t : Tiding) (i : Nat) : Option Push :=
  t.cause.bind fun (j, e) => if j = i then e.push? else none

/-- The pushes of interpreter `i` that have been taken and not been heard. -/
def pushesToCome (c : Control) (i : Nat) : List Push :=
  ((c.debuggees[i]?).map (·.pushesToCome)).getD []

/-- What the channel to interpreter `i` has reported and has not become news. -/
def reportsOf (c : Control) (i : Nat) : List Channel.Event :=
  ((c.debuggees[i]?).map (·.reports)).getD []

/-- What is there to be heard of interpreter `i`. -/
def newsOf (c : Control) (i : Nat) : List Event := ((c.debuggees[i]?).map (·.news)).getD []

/-- To tell interpreters something takes nothing out of their queues. -/
theorem Tells.queues {c c' : Control} (tells : Tells c.debuggees c'.debuggees) (i : Nat) :
    c'.pushesToCome i = c.pushesToCome i ∧ c'.reportsOf i = c.reportsOf i ∧
      c'.newsOf i = c.newsOf i := by
  unfold pushesToCome reportsOf newsOf
  cases found : c.debuggees[i]? with
  | none =>
      rw [List.getElem?_eq_none_iff, ← tells.length, ← List.getElem?_eq_none_iff] at found
      rw [found]
      exact ⟨rfl, rfl, rfl⟩
  | some d =>
      obtain ⟨d', found', told⟩ := tells.told found
      rw [found']
      exact ⟨congrArg (List.filterMap Event.push?) told.toCome, told.reports, told.news⟩

theorem Tells.sequenced {c c' : Control} (tells : Tells c.debuggees c'.debuggees) {i : Nat}
    (sequenced : ∀ d, c.debuggees[i]? = some d → d.Sequenced) {d' : Debuggee}
    (found' : c'.debuggees[i]? = some d') : d'.Sequenced := by
  cases found : c.debuggees[i]? with
  | none =>
      rw [List.getElem?_eq_none_iff, ← tells.length, ← List.getElem?_eq_none_iff] at found
      cases found.symm.trans found'
  | some d =>
      obtain ⟨d₁, found₁, told⟩ := tells.told found
      cases found'.symm.trans found₁
      exact told.sequenced (sequenced d found)

namespace Moment

variable {m : Moment} {i : Nat}

/-- What is newly noted, and what it comes from. -/
def tidings (m : Moment) : List Tiding := m.notices.map fun n => ⟨m.heard?, n⟩

/-- The push of interpreter `i` that is taken. -/
def takenOf (m : Moment) (i : Nat) : List Push := m.doneBy i fun d now a => (d.taken? now a).toList

/-- The report of interpreter `i` that becomes news. -/
def forwardedOf (m : Moment) (i : Nat) : List Channel.Event := m.doneBy i fun d _ a => d.forwarded a

theorem pushesOf_reported (regular : ∀ d, m.before.debuggees[i]? = some d → d.link.Regular) :
    pushesOf (m.reportedOf i) = m.takenOf i := by
  by_cases does : ∃ now a d, m.happening = .activity now (.debuggee i a) ∧
      m.before.debuggees[i]? = some d
  · obtain ⟨now, a, d, happening, found⟩ := does
    rw [reportedOf, takenOf, doneBy_eq happening found, doneBy_eq happening found]
    exact Debuggee.pushes_reported (regular d found) now a
  · have nothing {α : Type} (f : Debuggee → Millis → Debuggee.Activity → List α) :
        m.doneBy i f = [] :=
      doneBy_nil fun now a d happening found => absurd ⟨now, a, d, happening, found⟩ does
    rw [reportedOf, takenOf, nothing, nothing]
    rfl

theorem tidings_heard {j : Nat} {e : Event} (heard : m.heard? = some (j, e)) :
    m.tidings = e.notices.map fun n => ⟨some (j, e), n⟩ := by
  obtain ⟨now, d, d', happening, present, found, listened, after⟩ := heard?_eq heard
  have notices : m.notices = e.notices := notices_eq (by rw [after, notices_hear]; rfl)
  rw [tidings, notices, heard]

/-- A notice that comes from a push says what was pushed. -/
theorem notice_of_push {t : Tiding} {p : Push} (member : t ∈ m.tidings)
    (push : t.push? i = some p) : t.notice = .output p.category p.text := by
  obtain ⟨n, noted, rfl⟩ := List.mem_map.mp member
  obtain ⟨⟨j, e⟩, heard, pushed⟩ := Option.bind_eq_some_iff.mp push
  rw [tidings_heard heard] at member
  obtain ⟨n', noted', same⟩ := List.mem_map.mp member
  obtain ⟨-, rfl⟩ := Tiding.mk.inj same
  change (if j = i then e.push? else none) = some p at pushed
  split at pushed
  · rw [Event.notices_push pushed] at noted'
    exact List.mem_singleton.mp noted'
  · cases pushed

/-- Every push that is heard leads to one notice. -/
theorem tidings_pushes (m : Moment) (i : Nat) :
    m.tidings.filterMap (·.push? i) = (m.heardOf i).filterMap Event.push? := by
  cases heard : m.heard? with
  | none =>
      have unheard : m.heardOf i = [] := heardOf_nil (by simp [heard])
      rw [unheard]
      refine List.filterMap_eq_nil_iff.mpr fun t member => ?_
      obtain ⟨n, -, rfl⟩ := List.mem_map.mp member
      simp [Tiding.push?, heard]
  | some je =>
      obtain ⟨j, e⟩ := je
      have tiding (n : Notice) :
          (⟨some (j, e), n⟩ : Tiding).push? i = if j = i then e.push? else none := rfl
      simp only [tidings_heard heard, heardOf, heard, List.filterMap_map, Function.comp_def, tiding]
      split
      · cases push : e.push? with
        | none => simp [push]
        | some p => simp [push, Event.notices_push push]
      · simp

/-! ## Interpreters -/

theorem started (absent : m.before.debuggees[i]? = none) {d : Debuggee}
    (found : m.after.debuggees[i]? = some d) : ∃ config now, d = .start config now := by
  have still (length : m.after.debuggees.length = m.before.debuggees.length) :
      ∃ config now, d = .start config now := by
    rw [List.getElem?_eq_none_iff, ← length, ← List.getElem?_eq_none_iff] at absent
    cases absent.symm.trans found
  have one (c : Control) (j : Nat) (f : Debuggee → Debuggee) :
      (c.modifyDebuggee j f).debuggees.length = c.debuggees.length := List.length_modify ..
  cases m.proceeds with
  | performs _ _ _ after | outside _ after => exact still (by rw [after, one])
  | hears _ _ _ _ after => exact still (by rw [after, (tells_hear _ _).length, one])
  | installs _ _ _ _ after => exact still (by rw [after, (install_same ..).1])
  | givesUp _ _ _ _ _ after => exact still (by rw [after]; exact one ..)
  | calm calm => exact still calm.tells.length
  | launches launches =>
      obtain ⟨now, t, queue, program, stopOnEntry, debug, -, -, -, -, after⟩ := launches_eq launches
      have length : (({ m.before with queue } : Control).prepared program debug).debuggees.length =
          m.before.debuggees.length := ({ m.before with queue } : Control).calm_terminate.tells.length
      obtain same | one_more :=
        ({ m.before with queue } : Control).launch_debuggees now t program debug
      · exact still (by rw [after, same, length])
      · rw [List.getElem?_eq_none_iff, ← length] at absent
        rw [after, one_more, List.getElem?_append_right absent] at found
        have member := List.mem_of_getElem? found
        exact ⟨_, now, List.mem_singleton.mp member⟩

variable {d d' : Debuggee}

theorem taken_closed (found : m.before.debuggees[i]? = some d) (regular : d.link.Regular)
    (closed : d.link.channel.closed = true) : m.takenOf i = [] := by
  refine doneBy_nil fun now a d' _ found' => ?_
  cases found.symm.trans found'
  rw [Debuggee.taken?_closed regular closed]
  rfl

theorem Fares.sequenced (fares : m.Fares i d d') (found : m.before.debuggees[i]? = some d)
    (sequenced : d.Sequenced) : d'.Sequenced := by
  have regular := sequenced.regular
  have reported (d₁ : Debuggee) (found₁ : m.before.debuggees[i]? = some d₁) : d₁.link.Regular := by
    cases found.symm.trans found₁
    exact regular
  refine sequenced.next (fares.regular regular) (fares.toCome found) (fun closed => ?_) ?_
  · exact ⟨fares.stays_closed found regular closed,
      (pushesOf_reported reported).trans (taken_closed found regular closed)⟩
  · intro front e back split ends
    cases fares with
    | @performs now a d' happening performed =>
        have same : m.reportedOf i = d.reported now a := doneBy_eq happening found
        exact Debuggee.reported_closed regular performed (same ▸ split) ends
    | outside happening =>
        rw [reportedOf, doneBy_other (by simp [happening])] at split
        simp at split
    | hears heard =>
        obtain ⟨now, -, -, happening, -⟩ := heard?_eq heard
        rw [reportedOf, doneBy_other (by simp [happening])] at split
        simp at split
    | told idle =>
        rw [reportedOf_nil found idle] at split
        simp at split

/-- An interpreter that is not there does nothing and is not heard. -/
theorem absent_or_fares (m : Moment) (i : Nat) :
    (m.before.debuggees[i]? = none ∧ m.heardOf i = [] ∧
        (∀ {α : Type} (f : Debuggee → Millis → Debuggee.Activity → List α), m.doneBy i f = []) ∧
        ∀ d, m.after.debuggees[i]? = some d → ∃ config now, d = .start config now) ∨
      ∃ d d', m.before.debuggees[i]? = some d ∧ m.after.debuggees[i]? = some d' ∧ m.Fares i d d' := by
  cases found : m.before.debuggees[i]? with
  | none =>
      refine .inl ⟨rfl, ?_, fun f => doneBy_nil ?_, fun d found' => started found found'⟩
      · refine heardOf_nil fun e heard => ?_
        obtain ⟨now, d, d', -, -, found', -⟩ := heard?_eq heard
        cases found.symm.trans found'
      · intro now a d _ found'
        cases found.symm.trans found'
  | some d =>
      obtain ⟨d', found', fares⟩ := m.fares found
      exact .inr ⟨d, d', rfl, found', fares⟩

/-- What has been heard and what is to come is what was taken. -/
theorem pushes_next (m : Moment) (sequenced : ∀ d, m.before.debuggees[i]? = some d → d.Sequenced) :
    m.tidings.filterMap (·.push? i) ++ m.after.pushesToCome i =
        m.before.pushesToCome i ++ m.takenOf i ∧
      ∀ d, m.after.debuggees[i]? = some d → d.Sequenced := by
  rw [tidings_pushes, pushesToCome, pushesToCome]
  obtain ⟨found, unheard, nothing, started⟩ | ⟨d, d', found, found', fares⟩ := m.absent_or_fares i
  · rw [unheard, takenOf, nothing, found]
    cases found' : m.after.debuggees[i]? with
    | none => exact ⟨rfl, by simp⟩
    | some d =>
        obtain ⟨config, now, rfl⟩ := started d found'
        refine ⟨rfl, ?_⟩
        rintro _ ⟨⟩
        exact Debuggee.sequenced_start config now
  · rw [found, found']
    constructor
    · have toCome := congrArg (List.filterMap Event.push?) (fares.toCome found)
      have taken := pushesOf_reported (m := m) (i := i) fun d found => (sequenced d found).regular
      rw [List.filterMap_append, List.filterMap_append, Monitor.filterMap_isForwarded,
        Monitor.pushesOf_eq, taken] at toCome
      exact toCome
    · rintro _ ⟨⟩
      exact fares.sequenced found (sequenced d found)

/-! ## On the way -/

theorem Fares.reports (fares : m.Fares i d d') (found : m.before.debuggees[i]? = some d) :
    m.forwardedOf i ++ d'.reports = d.reports ++ m.reportedOf i := by
  have same (told : d'.reports = d.reports) (forwarded : m.forwardedOf i = [])
      (reported : m.reportedOf i = []) :
      m.forwardedOf i ++ d'.reports = d.reports ++ m.reportedOf i := by
    rw [told, forwarded, reported, List.append_nil, List.nil_append]
  cases fares with
  | performs happening performed =>
      rw [forwardedOf, reportedOf, doneBy_eq happening found, doneBy_eq happening found]
      exact Debuggee.reports_perform performed
  | outside happening =>
      exact same rfl (doneBy_other (by simp [happening])) (doneBy_other (by simp [happening]))
  | hears heard taken told =>
      obtain ⟨now, -, -, happening, -⟩ := heard?_eq heard
      obtain ⟨news, -, rfl⟩ := Debuggee.hear?_eq taken
      exact same told.reports (doneBy_other (by simp [happening]))
        (doneBy_other (by simp [happening]))
  | told idle _ told =>
      exact same told.reports (doneBy_idle found idle fun _ _ => Debuggee.forwarded_impossible)
        (reportedOf_nil found idle)

theorem reports_next (m : Moment) (i : Nat) :
    m.forwardedOf i ++ m.after.reportsOf i = m.before.reportsOf i ++ m.reportedOf i := by
  rw [reportsOf, reportsOf]
  obtain ⟨found, -, nothing, started⟩ | ⟨d, d', found, found', fares⟩ := m.absent_or_fares i
  · rw [forwardedOf, reportedOf, nothing, nothing, found]
    cases found' : m.after.debuggees[i]? with
    | none => rfl
    | some d =>
        obtain ⟨config, now, rfl⟩ := started d found'
        rfl
  · rw [found, found']
    exact fares.reports found

theorem Fares.news (fares : m.Fares i d d') : d.news <+: m.heardOf i ++ d'.news := by
  cases fares with
  | performs happening performed =>
      rw [heardOf_nil (by simp [unheard, happening])]
      exact Debuggee.news_perform performed
  | outside happening =>
      rw [heardOf_nil (by simp [unheard, happening])]
      exact List.prefix_refl _
  | hears heard taken told =>
      obtain ⟨news, first, rfl⟩ := Debuggee.hear?_eq taken
      rw [heardOf_eq heard, told.news, first]
      exact List.prefix_refl _
  | told idle unheard told =>
      rw [heardOf_nil unheard, told.news]
      exact List.prefix_refl _

theorem news_next (m : Moment) (i : Nat) :
    m.before.newsOf i <+: m.heardOf i ++ m.after.newsOf i := by
  rw [newsOf, newsOf]
  obtain ⟨found, -, -, -⟩ | ⟨d, d', found, found', fares⟩ := m.absent_or_fares i
  · rw [found]
    exact List.nil_prefix
  · rw [found, found']
    exact fares.news

theorem forwards {now : Millis} (happening : m.happening = .activity now (.debuggee i .forward))
    (waits : m.before.reportsOf i ≠ []) : m.forwardedOf i ≠ [] := by
  rw [reportsOf] at waits
  cases found : m.before.debuggees[i]? with
  | none => simp [found] at waits
  | some d =>
      rw [found] at waits
      rw [forwardedOf, doneBy_eq happening found, Debuggee.forwarded]
      simpa using waits

theorem hears {now : Millis} (happening : m.happening = .activity now .hear)
    (present : m.before.present = some i) (waits : m.before.newsOf i ≠ []) : m.heardOf i ≠ [] := by
  rw [newsOf] at waits
  cases found : m.before.debuggees[i]? with
  | none => simp [found] at waits
  | some d =>
      cases news : d.news with
      | nil => simp [found, news] at waits
      | cons e rest =>
          have heard : d.hear? = some (e, { d with news := rest }) := by simp [Debuggee.hear?, news]
          rw [heardOf_eq (heard?_of happening present found heard)]
          exact List.cons_ne_nil _ _

/-! ## The end -/

/-- After the end of an interpreter, nothing of it is to come. -/
theorem silent_next (sequenced : ∀ d, m.before.debuggees[i]? = some d → d.Sequenced)
    (found : m.before.debuggees[i]? = some d) (closed : d.link.channel.closed = true)
    (none_ : m.before.pushesToCome i = []) :
    m.takenOf i = [] ∧ ∃ d', m.after.debuggees[i]? = some d' ∧ d'.Silent := by
  have regular := (sequenced d found).regular
  have untaken := taken_closed found regular closed
  obtain ⟨d', found', fares⟩ := m.fares found
  have rest := (m.pushes_next sequenced).1
  rw [none_, untaken, pushesToCome, found'] at rest
  exact ⟨untaken, d', found', fares.stays_closed found regular closed,
    (List.append_eq_nil_iff.mp rest).2⟩

/-- When the end of an interpreter is heard, all of its pushes have been heard. -/
theorem silent_of_ended (sequenced : ∀ d, m.before.debuggees[i]? = some d → d.Sequenced)
    {code : Option Int} (heard : m.heard? = some (i, .closed code)) :
    m.before.pushesToCome i = [] ∧ m.takenOf i = [] ∧
      ∃ d, m.after.debuggees[i]? = some d ∧ d.Silent := by
  obtain ⟨now, d, d', -, -, found, listened, -⟩ := heard?_eq heard
  obtain ⟨closed, rest⟩ :=
    (sequenced d found).last [] _ d'.toCome (Debuggee.toCome_hear listened) rfl
  have none_ : m.before.pushesToCome i = [] := by
    rw [pushesToCome, found, Option.map_some, Option.getD_some, Debuggee.pushesToCome,
      Debuggee.toCome_hear listened]
    exact rest
  exact ⟨none_, silent_next sequenced found closed none_⟩

end Moment

end Control

end DebugAdapter
