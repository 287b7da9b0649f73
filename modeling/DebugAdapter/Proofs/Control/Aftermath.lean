import DebugAdapter.Proofs.Control.Happening
/-!
# After the end

When the end of a session has been reported, every interpreter is spent, and stays so until the next
start. No command makes one execute an instruction any more. But a command that was given before the
end or is given after it still gets its turn, looks at what was last known about the program, and may
report that the program stopped.
-/

namespace DebugAdapter.Control

/-! ## Stops and commands -/

/-- Whether a notice says that the program stopped. -/
def Notice.isStop : Notice → Bool
  | .stopped _ => true
  | .output .. | .ended => false

/-- Whether a task is a command to go on or to step. -/
def Task.isCommand (t : Task) : Bool := !t.errand.isStart

/-- How many commands have been given and not been carried out. A start whose turn it is counts, for
it may step as well. -/
def commands (c : Control) : Nat :=
  c.tasks.countP Task.isCommand + c.queue.countP Task.isCommand + c.turn.toList.length

/-- Whether a command to go on or to step is given. -/
def Happening.isCommand : Happening → Bool
  | .request errand _ => !errand.isStart
  | .activity .. | .terminate | .breakpoints _ | .evaluate .. | .interpreter .. => false

theorem Decision.Faithful.stops_le {reason? : Option StopReason} {δ : Decision}
    (faithful : δ.Faithful reason?) : δ.notices.countP Notice.isStop ≤ 1 := by
  obtain silent | ⟨r, stop⟩ := faithful.notices
  · simp [silent]
  · simp [stop, Notice.isStop]

theorem Decision.Faithful.ended_not_mem {reason? : Option StopReason} {δ : Decision}
    (faithful : δ.Faithful reason?) : .ended ∉ δ.notices := by
  obtain silent | ⟨r, stop⟩ := faithful.notices
  · simp [silent]
  · simp [stop]

variable {c c' : Control}

/-! ## The end -/

/-- Whether nothing executes an instruction any more, unless an interpreter is started. -/
structure Lapsed (c : Control) : Prop where
  spent : ∀ d ∈ c.debuggees, d.Spent
  awaitsNone : c.AwaitsNone

/-- When nobody is present and nothing is being started, all is over. -/
theorem lapsed_of_dismissed (orderly : c.Orderly) (present : c.present = none) (turn : c.turn = none) :
    c.Lapsed := by
  have awaitsNone : c.AwaitsNone := by
    rintro i ⟨task, due, turn'⟩
    rw [turn] at turn'
    cases turn'
  refine ⟨?_, awaitsNone⟩
  intro d member
  obtain ⟨i, found⟩ := List.getElem?_of_mem member
  obtain dismissed | present' | awaits := orderly.others i d found
  · exact dismissed.spent
  · rw [present] at present'
    cases present'
  · exact absurd awaits (awaitsNone i)

/-- When the end of the present interpreter has been heard of, all is over. -/
theorem lapsed_of_closed (sound : c.Sound) (aside : Aside c c') {i : Nat} {d : Debuggee}
    {code : Option Int} (present : c.present = some i) (found : c.debuggees[i]? = some d)
    (heard : .closed code ∈ d.news) : c'.Lapsed := by
  have awaitsNone : c.AwaitsNone := by
    intro j awaits
    rw [sound.orderly.alone j awaits] at present
    cases present
  refine ⟨?_, ?_⟩
  · intro x' member
    obtain ⟨j, found'⟩ := List.getElem?_of_mem member
    obtain ⟨x, before⟩ := aside.undriven.find found'
    have candid : x.Candid := sound.candid x (List.mem_of_getElem? before)
    refine (aside.undriven.wanes before found').spent candid ?_
    obtain dismissed | present' | awaits := sound.orderly.others j x before
    · exact dismissed.spent
    · rw [present] at present'
      cases present'
      cases found.symm.trans before
      exact .inr (candid.news code heard)
    · exact absurd awaits (awaitsNone j)
  · intro j awaits
    rw [Awaits, aside.turn] at awaits
    exact awaitsNone j awaits

/-- When the end is reported, all is over. -/
theorem lapsed_of_ended (sound : c.Sound) (h : Happening) (ended : .ended ∈ noted c (c.happen h)) :
    (c.happen h).Lapsed := by
  have stride := c.happen_stride h
  have orderly : (c.happen h).Orderly := (c.keeps_happen h).orderly sound.orderly
  generalize c.happen h = c' at stride ended orderly ⊢
  have silent (same : c'.notices = c.notices) : c'.Lapsed := by
    rw [noted_eq (same.trans (List.append_nil _).symm)] at ended
    cases ended
  have followed_ {δ : Decision} {reason? : Option StopReason} (faithful : δ.Faithful reason?)
      (notices : c'.notices = c.notices ++ δ.notices) : c'.Lapsed := by
    rw [noted_eq notices] at ended
    exact absurd ended faithful.ended_not_mem
  cases stride with
  | aside new aside notices outputs =>
      rw [noted_eq notices] at ended
      obtain ⟨g, s, output⟩ := outputs _ ended
      cases output
  | closed aside present found heard => exact lapsed_of_closed sound aside present found heard
  | request | ask | nobody | release => exact silent rfl
  | @launch _ now t queue program _ debug _ _ _ =>
      obtain ⟨e, launched⟩ | ⟨due, launched⟩ :=
        ({ c with queue } : Control).launch_cases now t program debug
      · refine lapsed_of_dismissed orderly ?_ ?_
        all_goals
          rw [launched]
          rfl
      · refine silent ?_
        rw [launched]
        exact terminate_notices _
  | install =>
      refine silent ?_
      unfold install
      split <;> rfl
  | giveUp turn =>
      exact lapsed_of_dismissed orderly (sound.orderly.alone _ ⟨_, _, turn⟩) rfl
  | pursue _ _ _ _ _ faithful => exact followed_ faithful (followed ..).notices
  | enter _ _ _ faithful => exact followed_ faithful (followed ..).notices
  | drive _ _ faithful => exact followed_ faithful (followed ..).notices

/-! ## Afterwards -/

/-- What happens after the end: `asked` commands are given, each reports at most one stop, and no
interpreter is driven. -/
structure Lapses (c c' : Control) (asked : Nat) : Prop where
  lapsed : c'.Lapsed
  notices : c.notices <+: c'.notices
  stops : (noted c c').countP Notice.isStop + c'.commands ≤ c.commands + asked
  orders : ∀ i, c'.orders i ≤ c.orders i

theorem Lapses.refl (lapsed : c.Lapsed) : Lapses c c 0 where
  lapsed := lapsed
  notices := List.prefix_refl _
  stops := by simp [noted]
  orders := fun _ => Nat.le_refl _

theorem noted_trans {c₁ c₂ c₃ : Control} (first : c₁.notices <+: c₂.notices)
    (second : c₂.notices <+: c₃.notices) : noted c₁ c₃ = noted c₁ c₂ ++ noted c₂ c₃ := by
  obtain ⟨new, first⟩ := first
  obtain ⟨newer, second⟩ := second
  rw [noted_eq first.symm, noted_eq second.symm]
  refine noted_eq ?_
  rw [← second, ← first, List.append_assoc]

theorem Lapses.trans {c₁ c₂ c₃ : Control} {n m : Nat} (first : Lapses c₁ c₂ n)
    (second : Lapses c₂ c₃ m) : Lapses c₁ c₃ (n + m) where
  lapsed := second.lapsed
  notices := first.notices.trans second.notices
  stops := by
    rw [noted_trans first.notices second.notices, List.countP_append]
    have stops := first.stops
    have stops' := second.stops
    omega
  orders := fun i => (second.orders i).trans (first.orders i)

theorem lapsed_of_undriven (sound : c.Sound) (lapsed : c.Lapsed)
    (undriven : Undriven c.debuggees c'.debuggees) (awaitsNone : c'.AwaitsNone) : c'.Lapsed := by
  refine ⟨?_, awaitsNone⟩
  intro d' member
  obtain ⟨i, found'⟩ := List.getElem?_of_mem member
  obtain ⟨d, found⟩ := undriven.find found'
  have member := List.mem_of_getElem? found
  exact (undriven.wanes found found').spent (sound.candid d member) (lapsed.spent d member)

theorem lapses_aside {asked : Nat} (sound : c.Sound) (lapsed : c.Lapsed) (aside : Aside c c') {new : List Notice}
    (notices : c'.notices = c.notices ++ new) (quiet : new.countP Notice.isStop = 0) :
    Lapses c c' asked where
  lapsed := by
    refine lapsed_of_undriven sound lapsed aside.undriven ?_
    intro i awaits
    rw [Awaits, aside.turn] at awaits
    exact lapsed.awaitsNone i awaits
  notices := ⟨new, notices.symm⟩
  stops := by
    rw [noted_eq notices, quiet, commands, aside.tasks, aside.queue, aside.turn, ← commands]
    omega
  orders := aside.undriven.orders

theorem lapses_of_turn {asked : Nat} (sound : c.Sound) (lapsed : c.Lapsed)
    (undriven : Undriven c.debuggees c'.debuggees) (turn : c'.turn = none) {new : List Notice}
    (notices : c'.notices = c.notices ++ new)
    (stops : new.countP Notice.isStop + c'.commands ≤ c.commands) : Lapses c c' asked where
  lapsed := by
    refine lapsed_of_undriven sound lapsed undriven ?_
    rintro i ⟨task, due, turn'⟩
    rw [turn] at turn'
    cases turn'
  notices := ⟨new, notices.symm⟩
  stops := by
    rw [noted_eq notices]
    omega
  orders := undriven.orders

/-- Spent interpreters are not driven: a command gets no further than its turn. -/
theorem follow_spent {now : Millis} {t : Task} {i : Nat} {d : Debuggee} (spent : d.Spent)
    (δ : Decision) : c.follow now t i d δ =
      ({ c.notify δ.notices with memory := δ.memory } : Control).finish t := by
  obtain ⟨stage, waiter, d', -, executed, -⟩ | finished := c.follow_cases now t i d δ
  · rw [spent.execute? now] at executed
    cases executed
  · exact finished

theorem commands_ask {i : Nat} {t : Task} (member : c.tasks[i]? = some t) :
    ({ c with tasks := c.tasks.eraseIdx i, queue := c.queue ++ [t] } : Control).commands =
      c.commands := by
  obtain ⟨inside, rfl⟩ := List.getElem?_eq_some_iff.mp member
  have counted := (List.getElem_cons_eraseIdx_perm inside).countP_eq Task.isCommand
  rw [List.countP_cons] at counted
  simp only [commands, List.countP_append, List.countP_singleton]
  omega

/-- Whatever happens after the end, unless an interpreter is started. -/
theorem lapses_happen (sound : c.Sound) (lapsed : c.Lapsed) (h : Happening)
    (unstarted : (c.happen h).launches = c.launches) :
    Lapses c (c.happen h) (if h.isCommand then 1 else 0) := by
  have stride := c.happen_stride h
  generalize c.happen h = c' at stride unstarted ⊢
  cases stride with
  | aside new aside notices outputs =>
      refine lapses_aside sound lapsed aside notices ?_
      rw [List.countP_eq_zero]
      intro n member
      obtain ⟨g, s, rfl⟩ := outputs n member
      simp [Notice.isStop]
  | closed aside _ _ _ notices => exact lapses_aside sound lapsed aside notices rfl
  | request errand asker =>
      refine ⟨⟨lapsed.spent, lapsed.awaitsNone⟩, List.prefix_refl _, ?_, fun _ => Nat.le_refl _⟩
      have silent : noted c (c.request errand asker) = [] := noted_eq (List.append_nil _).symm
      rw [silent]
      cases other : errand.isStart with
      | true => simp [request, commands, Task.isCommand, Happening.isCommand, other]
      | false =>
          simp [request, commands, Task.isCommand, Happening.isCommand, other]
          omega
  | @ask _ i t member =>
      refine ⟨⟨lapsed.spent, lapsed.awaitsNone⟩, List.prefix_refl _, ?_, fun _ => Nat.le_refl _⟩
      have silent : noted c { c with tasks := c.tasks.eraseIdx i, queue := c.queue ++ [t] } = [] :=
        noted_eq (List.append_nil _).symm
      rw [silent, commands_ask member]
      simp
  | @launch _ now t queue program _ debug _ _ _ =>
      obtain ⟨arguments, launches⟩ :=
        ({ c with queue } : Control).launch_launches now t program debug
      rw [launches] at unstarted
      simp at unstarted
  | nobody idle first other =>
      refine lapses_of_turn sound lapsed (.refl _) rfl (List.append_nil _).symm ?_
      simp [finish, commands, first, Task.isCommand, other, idle]
  | pursue idle first other _ found faithful =>
      rw [follow_spent (lapsed.spent _ (List.mem_of_getElem? found))]
      refine lapses_of_turn sound lapsed (.refl _) rfl rfl ?_
      have stops := faithful.stops_le
      simp only [finish, notify, commands, first, List.countP_cons, Task.isCommand, other, idle]
      simp
      omega
  | install turn | giveUp turn => exact absurd ⟨_, _, turn⟩ (lapsed.awaitsNone _)
  | release turn =>
      refine lapses_of_turn sound lapsed (.refl _) rfl (List.append_nil _).symm ?_
      simp [finishRunning, finish, commands, turn, Task.isCommand, Errand.isStart]
      omega
  | enter turn _ found faithful =>
      rw [follow_spent (lapsed.spent _ (List.mem_of_getElem? found))]
      refine lapses_of_turn sound lapsed (.refl _) rfl rfl ?_
      have stops := faithful.stops_le
      simp [finish, notify, commands, turn]
      omega
  | drive turn found faithful =>
      rw [follow_spent (lapsed.spent _ (List.mem_of_getElem? found))]
      refine lapses_of_turn sound lapsed (.refl _) rfl rfl ?_
      have stops := faithful.stops_le
      simp [finish, notify, commands, turn]
      omega

theorem lapses_run (sound : c.Sound) (lapsed : c.Lapsed) (later : List Happening)
    (unlaunched : (c.run later).launches = c.launches) :
    Lapses c (c.run later) (later.countP Happening.isCommand) := by
  induction later generalizing c with
  | nil => exact .refl lapsed
  | cons h later ih =>
      have first : (c.happen h).launches = c.launches :=
        unlaunched_run [h] later unlaunched
      have went := lapses_happen sound lapsed h first
      have goesOn := ih (sound_happen sound h) went.lapsed (unlaunched.trans first.symm)
      rw [List.countP_cons, Nat.add_comm]
      exact went.trans goesOn

/-- After the end of a session, and as long as no interpreter is launched: no interpreter is told to
execute an instruction, and each command that had not been carried out at the end, or is given
afterwards, leads to one report of a stop at most. -/
theorem stops_after_end (config : Monitor.Config) (home : String)
    (refusal : Option Monitor.Refusal) (earlier later : List Happening) (last : Happening)
    (ended : .ended ∈ noted ((opening config home refusal).run earlier)
      (((opening config home refusal).run earlier).happen last))
    (unlaunched : ((((opening config home refusal).run earlier).happen last).run later).launches =
      (((opening config home refusal).run earlier).happen last).launches) :
    let c := ((opening config home refusal).run earlier).happen last
    (noted c (c.run later)).countP Notice.isStop ≤ c.commands + later.countP Happening.isCommand ∧
      ∀ before h after, later = before ++ h :: after → ∀ i, ¬ (c.run before).Drives h i := by
  intro c
  have running : ((opening config home refusal).run earlier).Sound :=
    sound_run (sound_opening config home refusal) earlier
  have sound : c.Sound := sound_happen running last
  have lapsed : c.Lapsed := lapsed_of_ended running last ended
  refine ⟨?_, ?_⟩
  · have stops := (lapses_run sound lapsed later unlaunched).stops
    omega
  · rintro before h after rfl i driven
    -- Nothing is launched before `h` nor by `h`.
    have same : (c.run before).launches = c.launches :=
      unlaunched_run before (h :: after) unlaunched
    have same' : ((c.run before).happen h).launches = c.launches := by
      have first : (c.run (before ++ [h])).launches = c.launches := by
        refine unlaunched_run (before ++ [h]) after ?_
        rwa [List.append_assoc, List.singleton_append]
      rwa [run_append] at first
    have quiet := lapses_run sound lapsed before same
    have next := lapses_happen (sound_run sound before) quiet.lapsed h (same'.trans same.symm)
    exact absurd driven (Nat.not_lt.mpr (next.orders i))

/-- A program is started without a stop on entry, and terminated after its first status. -/
def terminated : List Happening :=
  [.request (.start "p.bbc" false false) none, .activity 1000 (.ask 0), .activity 1000 .grant]
    ++ ticking 0 2000 1 "SetGlobalVariables"
    ++ [.activity 2000 .advance, .terminate]
    ++ doing 0 2000 [.link .command, .forward]

/-- A step that gets its turn. -/
def stepped : List Happening :=
  [.request (.step .instruction) none, .activity 2000 (.ask 1), .activity 2000 .grant]

theorem stops_after_end_stepped :
    let c := ((opening {} "/" none).run terminated).happen (.activity 2000 .hear)
    .ended ∈ noted ((opening {} "/" none).run terminated) c ∧
      (c.run stepped).launches = c.launches ∧
      (noted c (c.run stepped)).countP Notice.isStop ≤ 2 := by
  intro c
  obtain ⟨ended, unlaunched, commands⟩ :
      .ended ∈ noted ((opening {} "/" none).run terminated) c ∧
        (c.run stepped).launches = c.launches ∧
        c.commands + stepped.countP Happening.isCommand = 2 := by
    decide +kernel
  refine ⟨ended, unlaunched, ?_⟩
  rw [← commands]
  exact (stops_after_end {} "/" none terminated stepped (.activity 2000 .hear) ended unlaunched).1

/-- A step after the end reports a stop. -/
theorem stopped_after_end :
    ¬ ∀ (earlier later : List Happening) (last : Happening),
      .ended ∈ noted ((opening {} "/" none).run earlier)
        (((opening {} "/" none).run earlier).happen last) →
      ((((opening {} "/" none).run earlier).happen last).run later).launches =
        (((opening {} "/" none).run earlier).happen last).launches →
      ∀ notice ∈ noted (((opening {} "/" none).run earlier).happen last)
        ((((opening {} "/" none).run earlier).happen last).run later), notice.isStop = false := by
  intro claim
  let c := ((opening {} "/" none).run terminated).happen (.activity 2000 .hear)
  obtain ⟨ended, unlaunched, stopped⟩ :
      .ended ∈ noted ((opening {} "/" none).run terminated) c ∧
        (c.run stepped).launches = c.launches ∧ .stopped .step ∈ noted c (c.run stepped) := by
    decide +kernel
  exact absurd (claim terminated stepped _ ended unlaunched _ stopped) (by decide)

end DebugAdapter.Control
