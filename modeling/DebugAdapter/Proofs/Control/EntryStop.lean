import DebugAdapter.Proofs.Control.Happening
/-!
# A program that has stopped on entry

A program that has stopped on entry executes nothing more, apart from the interpreter's tear-down,
until somebody asks for it. Only the task whose turn it is makes an interpreter execute instructions,
so that all there is to show is where such tasks come from: a command that has been given, or one
that an earlier start has left behind to let its own program run.
-/

namespace DebugAdapter.Control

open Monitor (Waiter)

variable {c c' : Control} {i : Nat} {task : Task} {later : List Happening}

/-! ## Who drives an interpreter -/

/-- Whether a task drives an interpreter at its stage. -/
def DrivenBy (c : Control) (i : Nat) (t : Task) (stage : Stage) : Prop :=
  ∃ waiter, c.turn = some { task := t, phase := .driving i stage waiter }

/-- How it came that a task drives an interpreter: it waited for its turn, it is the start of that
interpreter, or it has done so before; once in the tear-down it stays there. -/
def Due (c : Control) (i : Nat) (t : Task) (stage : Stage) : Prop :=
  (t ∈ c.queue ∧ t.errand.isStart = false) ∨ c.turn = some { task := t, phase := .code i } ∨
    ∃ stage', c.DrivenBy i t stage' ∧ (stage' = .trailing → stage = .trailing)

theorem orders_follow {now : Millis} {t : Task} {j : Nat} {d : Debuggee} {δ : Decision}
    (driven : c.orders i < (c.follow now t j d δ).orders i) :
    j = i ∧ ¬ d.Dismissed ∧
      ∃ stage, δ.next = .execute stage ∧ (c.follow now t j d δ).DrivenBy i t stage := by
  obtain ⟨stage, waiter, d', next, executed, followed⟩ | followed := c.follow_cases now t j d δ
  · have same : j = i := by
      by_contra other
      rw [followed] at driven
      simp [orders, modifyDebuggee, notify, other] at driven
    refine ⟨same, ?_, stage, next, waiter, ?_⟩
    · intro dismissed
      rw [d.execute?_dismissed now dismissed] at executed
      cases executed
    · rw [followed, same]
  · rw [followed] at driven
    exact absurd driven (Nat.lt_irrefl _)

theorem orders_launch (c : Control) (now : Millis) (t : Task) (program : String) (debug : Bool) :
    (c.launch now t program debug).orders i ≤ c.orders i := by
  have before : (c.prepared program debug).orders i ≤ c.orders i :=
    (c.undriven_prepared program debug).orders i
  refine Nat.le_trans ?_ before
  obtain same | one_more := c.launch_debuggees now t program debug
  · rw [orders, same, ← orders]
  · rw [orders, one_more, orders]
    by_cases inside : i < (c.prepared program debug).debuggees.length
    · rw [List.getElem?_append_left inside]
    · -- Nothing waits for an interpreter that has just been started.
      rw [List.getElem?_append_right (Nat.le_of_not_lt inside), List.getElem?_singleton]
      split
      · exact Nat.zero_le _
      · exact Nat.zero_le _

/-- An interpreter is driven by a task whose turn it is, and is not dismissed. -/
theorem drives_cases {h : Happening} (driven : c.Drives h i) :
    (∃ d, c.debuggees[i]? = some d ∧ ¬ d.Dismissed) ∧
      ∃ t stage, (c.happen h).DrivenBy i t stage ∧ c.Due i t stage := by
  have stride := c.happen_stride h
  unfold Drives at driven
  generalize c.happen h = c' at stride driven ⊢
  have undriven (same : c'.orders i ≤ c.orders i) : False := Nat.not_lt.mpr same driven
  cases stride with
  | aside new aside => exact (undriven (aside.undriven.orders i)).elim
  | closed aside => exact (undriven (aside.undriven.orders i)).elim
  | request | ask | nobody | release => exact (undriven (Nat.le_refl _)).elim
  | @launch _ now t queue program _ debug =>
      exact (undriven (orders_launch { c with queue } now t program debug)).elim
  | install =>
      refine (undriven ?_).elim
      unfold install
      split <;> exact Nat.le_refl _
  | @giveUp _ _ j =>
      have given : Undriven c.debuggees (c.modifyDebuggee j Debuggee.dispose).debuggees :=
        undriven_modify c.debuggees j _ fun d _ => d.wanes_dispose
      exact (undriven (given.orders i)).elim
  | @pursue _ now t queue _ _ _ _ idle first other _ found =>
      obtain ⟨rfl, notDismissed, stage, -, drivenBy⟩ :=
        orders_follow (c := { c with queue }) driven
      refine ⟨⟨_, found, notDismissed⟩, t, stage, drivenBy, .inl ⟨?_, other⟩⟩
      rw [first]
      exact List.mem_cons_self
  | @enter _ _ t _ _ _ _ _ turn _ found =>
      obtain ⟨rfl, notDismissed, stage, -, drivenBy⟩ := orders_follow driven
      exact ⟨⟨_, found, notDismissed⟩, t, stage, drivenBy, .inr (.inl turn)⟩
  | @drive _ _ t _ _ _ stage' waiter turn found _ trailing =>
      obtain ⟨rfl, notDismissed, stage, next, drivenBy⟩ := orders_follow driven
      exact ⟨⟨_, found, notDismissed⟩, t, stage, drivenBy,
        .inr (.inr ⟨stage', ⟨waiter, turn⟩, fun same => (trailing same).2 stage next⟩)⟩

/-! ## After the stop -/

/-- Whether a command has been given. -/
def Asked (later : List Happening) (t : Task) : Prop :=
  t.errand.isStart = false ∧ .request t.errand t.asker ∈ later

theorem Asked.next {t : Task} (asked : Asked later t) (h : Happening) : Asked (later ++ [h]) t :=
  ⟨asked.1, List.mem_append_left _ asked.2⟩

/-- Whether all that is going on comes from the start `task`, which has reported its stop, from other
starts, and from commands that have been given since. -/
structure Resting (c : Control) (task : Task) (later : List Happening) : Prop where
  waiting : ∀ t ∈ c.tasks ++ c.queue, t.errand.isStart = true ∨ Asked later t
  turn : ∀ turn, c.turn = some turn → ∃ j stage waiter, turn.phase = .driving j stage waiter ∧
    (turn.task = task ∧ stage = .trailing ∨ Asked later turn.task)

theorem Resting.asked {t : Task} (resting : c.Resting task later) (waits : t ∈ c.queue)
    (other : t.errand.isStart = false) : Asked later t := by
  obtain start | asked := resting.waiting t (List.mem_append_right _ waits)
  · rw [other] at start
    cases start
  · exact asked

theorem resting_follow {now : Millis} {t : Task} {j : Nat} {d : Debuggee} {δ : Decision}
    (waiting : ∀ t ∈ c.tasks ++ c.queue, t.errand.isStart = true ∨ Asked later t)
    (next : ∀ stage, δ.next = .execute stage → t = task ∧ stage = .trailing ∨ Asked later t) :
    (c.follow now t j d δ).Resting task later := by
  refine ⟨?_, ?_⟩
  · rw [(followed ..).tasks, (followed ..).queue]
    exact waiting
  · intro turn same
    obtain ⟨stage, waiter, d', goesOn, -, followed⟩ | followed := c.follow_cases now t j d δ
    · rw [followed] at same
      cases same
      exact ⟨j, stage, waiter, rfl, next stage goesOn⟩
    · rw [followed] at same
      cases same

/-- What comes after is at rest as well, unless an interpreter is launched. -/
theorem resting_happen (sound : c.Sound) (resting : c.Resting task later) (h : Happening) :
    (c.happen h).Resting task (later ++ [h]) ∨
      ∀ j < c.debuggees.length, ∃ d, (c.happen h).debuggees[j]? = some d ∧ d.Dismissed := by
  have stride := c.happen_stride h
  generalize c.happen h = c' at stride ⊢
  have waiting : ∀ t ∈ c.tasks ++ c.queue, t.errand.isStart = true ∨ Asked (later ++ [h]) t :=
    fun t member => (resting.waiting t member).imp_right fun asked => asked.next h
  have turns : ∀ turn, c.turn = some turn → ∃ j stage waiter,
      turn.phase = .driving j stage waiter ∧
        (turn.task = task ∧ stage = .trailing ∨ Asked (later ++ [h]) turn.task) := by
    intro turn same
    obtain ⟨j, stage, waiter, phase, origin⟩ := resting.turn turn same
    exact ⟨j, stage, waiter, phase, origin.imp_right fun asked => asked.next h⟩
  -- Neither is a start under way, nor is the code waited for.
  have elsewhere {t : Task} {phase : Phase} (turn : c.turn = some { task := t, phase })
      (other : ∀ j stage waiter, phase ≠ .driving j stage waiter) : False := by
    obtain ⟨j, stage, waiter, same, -⟩ := turns _ turn
    exact other j stage waiter same
  cases stride with
  | aside new aside =>
      refine .inl ⟨?_, ?_⟩
      · rw [aside.tasks, aside.queue]
        exact waiting
      · rw [aside.turn]
        exact turns
  | closed aside =>
      refine .inl ⟨?_, ?_⟩
      · rw [aside.tasks, aside.queue]
        exact waiting
      · rw [aside.turn]
        exact turns
  | request errand asker =>
      refine .inl ⟨fun t member => ?_, turns⟩
      obtain (old | new) | queued := List.mem_append.mp member |>.imp_left List.mem_append.mp
      · exact waiting t (List.mem_append_left _ old)
      · cases List.mem_singleton.mp new
        cases other : errand.isStart with
        | true => exact .inl rfl
        | false => exact .inr ⟨other, List.mem_append_right _ List.mem_cons_self⟩
      · exact waiting t (List.mem_append_right _ queued)
  | @ask _ j t found =>
      refine .inl ⟨fun t' member => ?_, turns⟩
      obtain old | old | new := List.mem_append.mp member |>.imp_right List.mem_append.mp
      · exact waiting t' (List.mem_append_left _ (List.mem_of_mem_eraseIdx old))
      · exact waiting t' (List.mem_append_right _ old)
      · cases List.mem_singleton.mp new
        exact waiting t (List.mem_append_left _ (List.mem_of_getElem? found))
  | @launch _ now t queue program _ debug idle _ _ =>
      refine .inr fun j inside => ?_
      let c₁ : Control := { c with queue }
      have orderly : c₁.Orderly := ⟨sound.orderly.others, sound.orderly.alone⟩
      have before := (c₁.undriven_prepared program debug).length
      have inside' : j < (c₁.prepared program debug).debuggees.length := before ▸ inside
      have found := List.getElem?_eq_getElem inside'
      refine ⟨_, ?_, dismissed_prepared orderly idle program debug _ (List.mem_of_getElem? found)⟩
      obtain same | one_more := c₁.launch_debuggees now t program debug
      · exact (congrArg (·[j]?) same).trans found
      · exact (congrArg (·[j]?) one_more).trans ((List.getElem?_append_left inside').trans found)
  | @nobody _ t queue idle first =>
      refine .inl ⟨fun t' member => waiting t' ?_, nofun⟩
      rw [first]
      exact (List.mem_append.mp member).elim (List.mem_append_left _)
        fun queued => List.mem_append_right _ (List.mem_cons_of_mem _ queued)
  | @pursue _ now t queue _ _ _ _ idle first other =>
      refine .inl (resting_follow (fun t' member => waiting t' ?_) fun stage _ => .inr ?_)
      · rw [first]
        exact (List.mem_append.mp member).elim (List.mem_append_left _)
          fun queued => List.mem_append_right _ (List.mem_cons_of_mem _ queued)
      · exact (resting.asked (first ▸ List.mem_cons_self) other).next h
  | install turn | giveUp turn => exact (elsewhere turn nofun).elim
  | release turn => exact (elsewhere turn nofun).elim
  | enter turn => exact (elsewhere turn nofun).elim
  | drive turn _ _ trailing =>
      obtain ⟨j, stage, waiter, phase, origin⟩ := turns _ turn
      cases phase
      refine .inl (resting_follow waiting fun stage' next => ?_)
      exact origin.imp_left fun ⟨same, tearDown⟩ => ⟨same, (trailing tearDown).2 stage' next⟩

/-- An interpreter is at rest until it is dismissed. -/
theorem resting_run (sound : c.Sound) (resting : c.Resting task [])
    (inside : i < c.debuggees.length) (later : List Happening) :
    (c.run later).Resting task later ∧ i < (c.run later).debuggees.length ∨
      ∃ d, (c.run later).debuggees[i]? = some d ∧ d.Dismissed := by
  induction later using List.reverseRecOn with
  | nil => exact .inl ⟨resting, inside⟩
  | append_singleton later h ih =>
      rw [run_append]
      obtain ⟨resting', inside'⟩ | ⟨d, found, dismissed⟩ := ih
      · obtain goesOn | gone := resting_happen (sound_run sound later) resting' h
        · exact .inl ⟨goesOn, inside'.trans_le ((c.run later).length_happen h)⟩
        · exact .inr (gone i inside')
      · exact .inr (((c.run later).keeps_happen h).dismissed i d found dismissed)

/-- A start reports that its program has stopped on entry. -/
theorem entry_stop (sound : c.Sound) {h : Happening}
    (stopped : .stopped .entry ∈ noted c (c.happen h)) :
    ∃ t i program, c.turn.map Turn.task = some t ∧ t.errand = .start program true true ∧
      c.present = some i ∧ i < c.debuggees.length ∧
      ∀ turn, (c.happen h).turn = some turn →
        turn.task = t ∧ ∃ waiter, turn.phase = .driving i .trailing waiter := by
  have stride := c.happen_stride h
  generalize c.happen h = c' at stride stopped ⊢
  have silent (same : c'.notices = c.notices) : False := by
    rw [noted_eq (same.trans (List.append_nil _).symm)] at stopped
    cases stopped
  have ending {s : String} (notices : c'.notices = c.notices ++ [.output .important s, .ended]) :
      False := by
    rw [noted_eq notices] at stopped
    simp at stopped
  -- A decision that reports a stop goes on with nothing but the tear-down.
  have tearDown {now : Millis} {t : Task} {i : Nat} {d : Debuggee} {δ : Decision}
      {reason? : Option StopReason} (faithful : δ.Faithful reason?) (some_ : .stopped .entry ∈ δ.notices)
      (turn : Turn) (same : (c.follow now t i d δ).turn = some turn) :
      turn.task = t ∧ ∃ waiter, turn.phase = .driving i .trailing waiter := by
    obtain ⟨stage, waiter, d', next, -, followed⟩ | followed := c.follow_cases now t i d δ
    · rw [followed] at same
      cases same
      cases faithful.stopped stage (List.ne_nil_of_mem some_) next
      exact ⟨rfl, waiter, rfl⟩
    · rw [followed] at same
      cases same
  have inside {i : Nat} {d : Debuggee} (found : c.debuggees[i]? = some d) :
      i < c.debuggees.length := (List.getElem?_eq_some_iff.mp found).1
  cases stride with
  | aside new aside notices outputs =>
      rw [noted_eq notices] at stopped
      obtain ⟨g, s, output⟩ := outputs _ stopped
      cases output
  | closed _ _ _ _ notices =>
      rw [noted_eq notices] at stopped
      simp at stopped
  | request | ask | nobody | release => exact (silent rfl).elim
  | @launch _ now t queue program _ debug =>
      obtain ⟨e, launched⟩ | ⟨due, launched⟩ :=
        ({ c with queue } : Control).launch_cases now t program debug
      · refine (ending (s := e.message) ?_).elim
        rw [launched]
        exact congrArg (· ++ _) (terminate_notices { c with queue })
      · refine (silent ?_).elim
        rw [launched]
        exact terminate_notices { c with queue }
  | install =>
      refine (silent ?_).elim
      unfold install
      split <;> rfl
  | @giveUp _ _ _ _ e => exact (ending (s := e.message) rfl).elim
  | @pursue _ now t queue i d δ _ _ _ _ _ _ faithful reason =>
      have notices : (({ c with queue } : Control).follow now t i d δ).notices =
          c.notices ++ δ.notices := (followed { c with queue } now t i d δ).notices
      rw [noted_eq notices] at stopped
      exact absurd (faithful.entry stopped) reason
  | @enter _ now t i d δ program _ turn errand found faithful =>
      rw [noted_eq (followed c now t i d δ).notices] at stopped
      obtain ⟨present, _, _, errand'⟩ := sound.attends _ turn
      cases errand.symm.trans errand'
      exact ⟨t, i, program, by rw [turn]; rfl, errand, present, inside found,
        tearDown faithful stopped⟩
  | @drive _ now t i d δ stage waiter turn found faithful =>
      rw [noted_eq (followed c now t i d δ).notices] at stopped
      obtain ⟨present, entry⟩ := sound.attends _ turn
      obtain ⟨program, errand⟩ := entry (faithful.entry stopped)
      exact ⟨t, i, program, by rw [turn]; rfl, errand, present, inside found,
        tearDown faithful stopped⟩

/-- Whether interpreter `i` is driven, after a stop on entry, only by the start that has stopped,
which steps through the tear-down, and by commands that have been given since. -/
def Holds (c : Control) (i : Nat) (start : Task) : Prop :=
  ∀ later h, (c.run later).Drives h i → ∃ t stage, ((c.run later).happen h).DrivenBy i t stage ∧
    (t = start ∧ stage = .trailing ∨ Asked later t)

theorem holds_of_resting (sound : c.Sound) (resting : c.Resting task [])
    (inside : i < c.debuggees.length) : c.Holds i task := by
  intro later h driven
  obtain ⟨⟨d, found, notDismissed⟩, t, stage, drivenBy, due⟩ := drives_cases driven
  refine ⟨t, stage, drivenBy, ?_⟩
  obtain ⟨atRest, -⟩ | ⟨d', found', dismissed⟩ := resting_run sound resting inside later
  · obtain ⟨waits, other⟩ | turn | ⟨stage', ⟨waiter, turn⟩, trailing⟩ := due
    · exact .inr (atRest.asked waits other)
    · obtain ⟨j, stage, waiter, phase, -⟩ := atRest.turn _ turn
      cases phase
    · obtain ⟨j, stage₀, waiter₀, phase, origin⟩ := atRest.turn _ turn
      cases phase
      exact origin.imp_left fun ⟨same, tearDown⟩ => ⟨same, trailing tearDown⟩
  · cases found.symm.trans found'
    exact absurd dismissed notDismissed

/-- A program that has stopped on entry stays where it is until a command to go on or to step runs
that has been given after the stop, apart from the tear-down; unless such a command had been given
before, or an earlier start had left one behind. -/
theorem entry_stop_holds (config : Monitor.Config) (home : String)
    (refusal : Option Monitor.Refusal) (earlier : List Happening) (last : Happening)
    (stopped : .stopped .entry ∈ noted ((opening config home refusal).run earlier)
      (((opening config home refusal).run earlier).happen last))
    (alone : ∀ t ∈ (((opening config home refusal).run earlier).happen last).tasks ++
      (((opening config home refusal).run earlier).happen last).queue, t.errand.isStart = true) :
    ∃ t i program, ((opening config home refusal).run earlier).turn.map Turn.task = some t ∧
      t.errand = .start program true true ∧
      ((opening config home refusal).run earlier).present = some i ∧
      (((opening config home refusal).run earlier).happen last).Holds i t := by
  have sound := sound_run (sound_opening config home refusal) earlier
  obtain ⟨t, i, program, turn, errand, present, inside, next⟩ := entry_stop sound stopped
  refine ⟨t, i, program, turn, errand, present, ?_⟩
  refine holds_of_resting (sound_happen sound last) ⟨fun t member => .inl (alone t member), ?_⟩
    (inside.trans_le (length_happen ..))
  intro turn' same
  obtain ⟨task, waiter, phase⟩ := next turn' same
  exact ⟨i, .trailing, waiter, phase, .inl ⟨task, rfl⟩⟩

/-- A start that has to stop on entry. -/
def entering : Task := { errand := .start "p.bbc" true true }

/-- Interpreter `i`, which is started at 1000, has reported its first status: it executes an
instruction, and reports its second status. -/
def enteringBy (i : Nat) (now : Millis) : List Happening :=
  ticking i now 1 "CallUpdate"
    ++ [.activity now .advance]
    ++ doing i (now + 1000) [.fetch, .link .command, .link .command]
    ++ answering i (now + 1000) [("5", .null), ("6", .null)]
    ++ [.activity (now + 1000) .advance]
    ++ doing i (now + 2000) [.link .command]
    ++ ticking i (now + 2000) 8 "CallUpdate"

/-- A program is started that has to stop on entry. -/
def entered : List Happening :=
  [.request entering.errand none, .activity 1000 (.ask 0), .activity 1000 .grant]
    ++ enteringBy 0 2000

theorem entry_stop_holds_entered :
    let c := ((opening {} "/" none).run entered).happen (.activity 4000 .advance)
    .stopped .entry ∈ noted ((opening {} "/" none).run entered) c ∧
      (∀ t ∈ c.tasks ++ c.queue, t.errand.isStart = true) ∧ c.Holds 0 entering := by
  intro c
  obtain ⟨stopped, none_, turn, present⟩ :
      .stopped .entry ∈ noted ((opening {} "/" none).run entered) c ∧ c.tasks ++ c.queue = [] ∧
        ((opening {} "/" none).run entered).turn.map Turn.task = some entering ∧
        ((opening {} "/" none).run entered).present = some 0 := by
    decide +kernel
  have alone : ∀ t ∈ c.tasks ++ c.queue, t.errand.isStart = true := by
    rw [none_]
    nofun
  obtain ⟨t, i, program, turn', -, present', holds⟩ :=
    entry_stop_holds {} "/" none entered (.activity 4000 .advance) stopped alone
  cases turn.symm.trans turn'
  cases present.symm.trans present'
  exact ⟨stopped, alone, holds⟩

/-- A program runs without a stop on entry while a second start already waits for its turn, which has
to stop on entry. -/
def overtaken : List Happening :=
  [.request (.start "p.bbc" false false) none, .activity 1000 (.ask 0), .activity 1000 .grant,
      .request entering.errand none, .activity 1000 (.ask 0)]
    ++ ticking 0 2000 1 "CallUpdate"
    ++ [.activity 2000 .advance, .activity 2000 .grant]
    ++ enteringBy 1 3000

/-- What the first start has left behind, to let its program run, drives the program that has stopped
on entry. -/
theorem entry_stop_left :
    ¬ ∀ (earlier : List Happening) (last : Happening) (t : Task) (i : Nat),
      .stopped .entry ∈ noted ((opening {} "/" none).run earlier)
        (((opening {} "/" none).run earlier).happen last) →
      ((opening {} "/" none).run earlier).turn.map Turn.task = some t →
      ((opening {} "/" none).run earlier).present = some i →
      (((opening {} "/" none).run earlier).happen last).Holds i t := by
  intro claim
  let c := ((opening {} "/" none).run overtaken).happen (.activity 5000 .advance)
  let waits := c.run [.activity 5000 (.ask 0)]
  obtain ⟨stopped, turn, present, fewer, resumed⟩ :
      .stopped .entry ∈ noted ((opening {} "/" none).run overtaken) c ∧
        ((opening {} "/" none).run overtaken).turn.map Turn.task = some entering ∧
        ((opening {} "/" none).run overtaken).present = some 1 ∧
        waits.orders 1 < (waits.happen (.activity 5000 .grant)).orders 1 ∧
        (waits.happen (.activity 5000 .grant)).turn.map Turn.task = some { errand := .resume } := by
    decide +kernel
  have holds : c.Holds 1 entering := claim overtaken (.activity 5000 .advance) entering 1 stopped turn present
  obtain ⟨t, stage, ⟨waiter, turn'⟩, ⟨same, -⟩ | ⟨-, asked⟩⟩ :=
    holds [.activity 5000 (.ask 0)] (.activity 5000 .grant) fewer
  · rw [same] at turn'
    have other : (waits.happen (.activity 5000 .grant)).turn.map Turn.task = some entering :=
      congrArg (Option.map Turn.task) turn'
    cases resumed.symm.trans other
  · simp at asked

end DebugAdapter.Control
