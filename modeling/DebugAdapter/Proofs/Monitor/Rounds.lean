import DebugAdapter.Proofs.Monitor.Dismissal
import DebugAdapter.Proofs.Monitor.Turn
/-!
# Ticks that overlap

Ticks begin before the ones before them have ended, but since every answer comes in its turn, they
are settled one after the other and part by part. So a snapshot never shows more than two steps, the
ones of the last tick that was noted and of the one that is being settled; and of a tick that began
after the last command it shows the step that the command led to.
-/

namespace DebugAdapter.Monitor

open Interpreter (ScriptedProgram ScriptedStep)
open Program (Snapshot)

/-! ## What a snapshot shows -/

/-- Whether a part of a snapshot is that of a step. -/
def Shows (step : ScriptedStep) (s : Snapshot) : Part → Prop
  | .registers => s.basePointer = step.basePointer ∧ s.codePointer = step.codePointer
  | .stack => s.stack = some step.stack
  | .callStack => s.callStack = some (Interpreter.parseCallStack step.callStack)
  | .state => s.state = step.state

section

variable {p : ScriptedProgram} (fits : p.Fits) {tick n : Nat} {data : Json}

include fits

theorem noteDetail_shows {q : Part} (reported : p.answer? n (Query.part tick q).type = some data)
    (detail : q ≠ .state) (s : Snapshot) :
    Shows (p.stepAfter n) (noteDetail s q (.ok data)) q := by
  have step := fits.steps _ (ScriptedProgram.stepAfter_mem fits.nonempty n)
  cases q with
  | registers =>
      obtain rfl := Option.some.inj reported
      have read := Interpreter.Registers.decoder_encode
        (r := ⟨(p.stepAfter n).basePointer, (p.stepAfter n).codePointer⟩) step.basePointer
        step.codePointer .value
      simp only [noteDetail, read?, Decode.fromJson, read]
      exact ⟨rfl, rfl⟩
  | stack =>
      obtain rfl := Option.some.inj reported
      have read := Interpreter.StackDump.decoder_encode
        ⟨(p.stepAfter n).stack.length, (p.stepAfter n).stack⟩ step.size step.wired .value
      simp only [noteDetail, read?, Decode.fromJson, read]
      rfl
  | callStack =>
      obtain rfl := Option.some.inj reported
      have read := Interpreter.strings_decoder (p.stepAfter n).callStack .value
      simp only [noteDetail, read?, Decode.fromJson, read]
      rfl
  | state => exact absurd rfl detail

omit fits in
theorem read?_state (reported : p.answer? n (Query.part tick .state).type = some data) :
    read? Interpreter.State.decoder (.ok data) = some (p.stepAfter n).state := by
  obtain rfl := Option.some.inj reported
  simp only [read?, Decode.fromJson, Interpreter.State.decoder_encode]
  rfl

end

/-- An answer to one part leaves the others alone. -/
theorem shows_noteDetail (step : ScriptedStep) (s : Snapshot) {q q' : Part} (other : q' ≠ q)
    (a : Except Channel.RequestError Json) :
    Shows step (noteDetail s q a) q' ↔ Shows step s q' := by
  cases q with
  | registers =>
      unfold noteDetail
      cases read? Interpreter.Registers.decoder a with
      | none => rfl
      | some r =>
          cases q' with
          | registers => exact absurd rfl other
          | stack | callStack | state => rfl
  | stack =>
      unfold noteDetail
      cases read? Interpreter.StackDump.decoder a with
      | none => rfl
      | some r =>
          cases q' with
          | stack => exact absurd rfl other
          | registers | callStack | state => rfl
  | callStack =>
      unfold noteDetail
      cases read? (Decode.list Decode.string) a with
      | none => rfl
      | some r =>
          cases q' with
          | callStack => exact absurd rfl other
          | registers | stack | state => rfl
  | state => rfl

theorem parts_apart {k : Nat} {q : Part} {later : List Part} (split : parts.drop k = q :: later) :
    parts.take (k + 1) = parts.take k ++ [q] ∧ (∀ q' ∈ parts.take k, q' ≠ q) ∧
      ∀ q' ∈ later, q' ≠ q := by
  have distinct : parts.Nodup := by decide
  have inOrder : parts = parts.take k ++ q :: later := by rw [← split, List.take_append_drop]
  have here : parts[k]? = some q := by rw [← List.head?_drop, split, List.head?_cons]
  rw [inOrder, List.nodup_append, List.nodup_cons] at distinct
  refine ⟨by rw [List.take_add_one, here, Option.toList_some], ?_, ?_⟩
  · intro q' before
    exact distinct.2.2 q' before q List.mem_cons_self
  · rintro q' after rfl
    exact distinct.2.1.1 after

theorem parts_last {k : Nat} {q : Part} {later : List Part} (split : parts.drop k = q :: later) :
    q = .state ↔ later = [] := by
  rcases k with _ | _ | _ | _ | k <;>
    simp only [parts, List.drop_succ_cons, List.drop_zero, List.drop_nil, List.cons.injEq,
      reduceCtorEq] at split
  all_goals
    obtain ⟨rfl, rfl⟩ := split
    simp

/-! ## Ticks that are under way -/

/-- The tick that a question belongs to, and its part of it. -/
def Query.part? : Query → Option (Nat × Part)
  | .part tick q => some (tick, q)
  | .debugInfo | .code => none

/-- The questions of ticks among those that are owed an answer. -/
def outstanding (owed : List (Query × Nat)) : List ((Nat × Part) × Nat) :=
  owed.filterMap fun o => o.1.part?.map (·, o.2)

/-- The questions of a tick are always answered. -/
theorem part?_of_unreported {p : ScriptedProgram} {q : Query} {n : Nat}
    (unreported : p.answer? n q.type = none) : q.part? = none := by
  cases q with
  | part tick q => cases q <;> cases unreported
  | debugInfo | code => rfl

/-- The questions of some ticks from `tick` on, each with the steps after which it is answered; `k`
parts of the first one have been settled. -/
def unsettled : Nat → Nat → List Nat → List ((Nat × Part) × Nat)
  | _, _, [] => []
  | k, tick, n :: ns =>
    (parts.drop k).map (fun q => ((tick, q), n)) ++ unsettled 0 (tick + 1) ns

/-- What a monitor keeps about so many ticks. -/
def underway : Nat → Nat → Nat → List Refresh
  | _, _, 0 => []
  | k, tick, n + 1 => { tick, waiting := parts.drop k } :: underway 0 (tick + 1) n

theorem unsettled_append (tick : Nat) (ns : List Nat) (n : Nat) {k : Nat} (h : ns = [] → k = 0) :
    unsettled k tick (ns ++ [n]) =
      unsettled k tick ns ++ parts.map fun q => ((tick + ns.length, q), n) := by
  induction ns generalizing k tick with
  | nil =>
      cases h rfl
      rfl
  | cons m ns ih =>
      rw [List.cons_append, unsettled, unsettled, ih (tick + 1) fun _ => rfl, List.append_assoc,
        List.length_cons, show tick + 1 + ns.length = tick + (ns.length + 1) by omega]

theorem underway_succ (tick n : Nat) {k : Nat} (h : n = 0 → k = 0) :
    underway k tick (n + 1) = underway k tick n ++ [{ tick := tick + n, waiting := parts }] := by
  induction n generalizing k tick with
  | zero =>
      cases h rfl
      rfl
  | succ n ih =>
      rw [underway, ih (tick + 1) fun _ => rfl, underway, List.cons_append,
        show tick + 1 + n = tick + (n + 1) by omega]

theorem lt_of_mem_underway {k tick n : Nat} {r : Refresh} (h : r ∈ underway k tick n) :
    tick ≤ r.tick := by
  induction n generalizing k tick with
  | zero => cases h
  | succ n ih =>
      cases h with
      | head => exact Nat.le_refl tick
      | tail _ later => exact Nat.le_of_succ_le (ih later)

theorem map_underway {t tick : Nat} (h : t < tick) (k n : Nat) (r : Refresh) :
    (underway k tick n).map (fun x => if x.tick = t then r else x) = underway k tick n := by
  refine (List.map_congr_left fun x member => ?_).trans (List.map_id' _)
  exact if_neg (Nat.ne_of_gt (Nat.lt_of_lt_of_le h (lt_of_mem_underway member)))

theorem filter_underway {t tick : Nat} (h : t < tick) (k n : Nat) :
    (underway k tick n).filter (·.tick ≠ t) = underway k tick n := by
  refine List.filter_eq_self.mpr fun x member => ?_
  exact decide_eq_true (Nat.ne_of_gt (Nat.lt_of_lt_of_le h (lt_of_mem_underway member)))

/-- Where the ticks stand: how many parts have been settled of the first tick that is under way,
which step the last tick showed that was noted, and which steps those under way will show. -/
structure Standing where
  settled : Nat := 0
  noted : Nat := 0
  stages : List Nat := []

/-- What a monitor keeps, and what it shows, agrees with the questions that it has asked. -/
structure Timely (p : ScriptedProgram) (m : Monitor) (owed : List ((Nat × Part) × Nat))
    (r : Standing) : Prop where
  owed_eq : owed = unsettled r.settled (m.refreshed + 1) r.stages
  started : m.ticksStarted = m.refreshed + r.stages.length
  refreshes : m.refreshes = underway r.settled (m.refreshed + 1) r.stages.length
  settled_lt : r.settled < parts.length
  idle : r.stages = [] → r.settled = 0
  /-- The parts that have been settled show the step of the tick that is being settled. -/
  newer : ∀ n ∈ r.stages.head?, ∀ q ∈ parts.take r.settled, Shows (p.stepAfter n) m.snapshot q
  /-- The other parts show the step of the tick before it. -/
  older : 0 < m.refreshed → ∀ q ∈ parts.drop r.settled, Shows (p.stepAfter r.noted) m.snapshot q

/-- Whether a monitor reports the end of the program when it learns of it for the first time, and not
before the program has come to its end within `made` steps. -/
structure Reports (p : ScriptedProgram) (made : Nat) (m m' : Monitor) (es : List Event) : Prop where
  events : es = if m'.doneReported && !m.doneReported then [.done] else []
  terminal : m'.doneReported = true →
    m.doneReported = true ∨ ∃ n ≤ made, (p.stepAfter n).state.isTerminal = true

theorem Reports.quiet {p : ScriptedProgram} {made : Nat} {m m' : Monitor}
    (same : m'.doneReported = m.doneReported) : Reports p made m m' [] where
  events := by rw [same, Bool.and_not_self, if_neg Bool.false_ne_true]
  terminal := fun reported => .inl (same ▸ reported)

namespace Timely

variable {p : ScriptedProgram} {m : Monitor} {owed : List ((Nat × Part) × Nat)} {r : Standing}

theorem start (config : Config) (now : Millis) : Timely p (.start config now) [] {} where
  owed_eq := rfl
  started := rfl
  refreshes := rfl
  settled_lt := Nat.succ_pos _
  idle := fun _ => rfl
  newer := by simp
  older := fun none_ => absurd none_ (Nat.lt_irrefl 0)

/-- Only these parts of a monitor matter. -/
theorem congr (timely : Timely p m owed r) {m' : Monitor} (refreshed : m'.refreshed = m.refreshed)
    (started : m'.ticksStarted = m.ticksStarted) (refreshes : m'.refreshes = m.refreshes)
    (shows : ∀ step q, Shows step m'.snapshot q ↔ Shows step m.snapshot q) :
    Timely p m' owed r where
  owed_eq := refreshed ▸ timely.owed_eq
  started := by rw [started, refreshed, timely.started]
  refreshes := by rw [refreshes, refreshed, timely.refreshes]
  settled_lt := timely.settled_lt
  idle := timely.idle
  newer := fun n head q part => (shows _ q).mpr (timely.newer n head q part)
  older := fun some_ q part => (shows _ q).mpr (timely.older (refreshed ▸ some_) q part)

/-- A tick begins. -/
theorem poll (timely : Timely p m owed r) {now : Millis} (polling : m.nextPoll ≠ none) (n : Nat) :
    Timely p (m.poll now .running).1
      (owed ++ parts.map fun q => ((m.ticksStarted + 1, q), n))
      { r with stages := r.stages ++ [n] } := by
  obtain ⟨due, scheduled⟩ := Option.ne_none_iff_exists'.mp polling
  have idle : r.stages.length = 0 → r.settled = 0 := fun none_ =>
    timely.idle (List.length_eq_zero_iff.mp none_)
  simp only [Monitor.poll, scheduled, if_true]
  refine ⟨?_, ?_, ?_, timely.settled_lt, ?_, ?_, timely.older⟩
  · rw [unsettled_append _ _ _ timely.idle, ← timely.owed_eq, timely.started,
      show m.refreshed + 1 + r.stages.length = m.refreshed + r.stages.length + 1 by omega]
  · rw [List.length_append, List.length_singleton, timely.started, Nat.add_assoc]
  · rw [List.length_append, List.length_singleton, underway_succ _ _ idle, ← timely.refreshes,
      timely.started,
      show m.refreshed + 1 + r.stages.length = m.refreshed + r.stages.length + 1 by omega]
  · intro none_
    simp at none_
  · intro n' head q part
    cases stages : r.stages with
    | nil =>
        rw [timely.idle stages] at part
        cases part
    | cons n₁ ns =>
        rw [stages] at head
        exact timely.newer n' (by rw [stages]; exact head) q part

theorem fetchCode (timely : Timely p m owed r) (status : Channel.Status) :
    Timely p (m.fetchCode status).1 owed r := by
  unfold Monitor.fetchCode
  split <;> exact timely.congr rfl rfl rfl fun _ _ => .rfl

theorem noteCode (timely : Timely p m owed r) (info : Option (Option (List Interpreter.DebugInfo)))
    (code : Option (Option (List Interpreter.Instruction))) :
    Timely p (m.noteCode info code) owed r := by
  unfold Monitor.noteCode
  split
  · refine timely.congr rfl rfl rfl fun step q => ?_
    cases q <;> rfl
  · exact timely.congr rfl rfl rfl fun _ _ => .rfl

/-- The next question to be settled belongs to the first tick under way. -/
theorem head (timely : Timely p m owed r) {tick n : Nat} {q : Part}
    {rest : List ((Nat × Part) × Nat)} (owed_eq : owed = ((tick, q), n) :: rest) :
    ∃ ns, r.stages = n :: ns ∧ tick = m.refreshed + 1 ∧
      parts.drop r.settled = q :: parts.drop (r.settled + 1) ∧
      rest = (parts.drop (r.settled + 1)).map (fun q => ((tick, q), n)) ++
        unsettled 0 (tick + 1) ns := by
  have whole := owed_eq.symm.trans timely.owed_eq
  have more := List.drop_eq_getElem_cons timely.settled_lt
  cases stages : r.stages with
  | nil =>
      rw [stages] at whole
      cases whole
  | cons n' ns =>
      rw [stages, unsettled, more, List.map_cons, List.cons_append] at whole
      cases whole
      exact ⟨ns, rfl, rfl, more, rfl⟩

theorem compiler (timely : Timely p m owed r) {q : Query} (other : q.part? = none) (made : Nat)
    (a : Except Channel.RequestError Json) : Timely p (m.answer q a).1 owed r ∧
      (m.answer q a).1.refreshed = m.refreshed ∧
      Reports p made m (m.answer q a).1 (m.answer q a).2 := by
  cases q with
  | part tick q => cases other
  | debugInfo | code =>
      simp only [answer]
      split
      · refine ⟨timely.noteCode _ _, ?_, .quiet ?_⟩ <;>
          · unfold Monitor.noteCode
            split <;> rfl
      · exact ⟨timely, rfl, .quiet rfl⟩

/-- A part of a tick is settled, and not the last one. -/
theorem detail (timely : Timely p m owed r) (fits : p.Fits) {tick n : Nat} {q : Part}
    {rest : List ((Nat × Part) × Nat)} (owed_eq : owed = ((tick, q), n) :: rest) (detail : q ≠ .state)
    {data : Json} (reported : p.answer? n (Query.part tick q).type = some data) :
    Timely p (m.answer (.part tick q) (.ok data)).1 rest { r with settled := r.settled + 1 } ∧
      (m.answer (.part tick q) (.ok data)).1.refreshed = m.refreshed ∧
      ∀ made, Reports p made m (m.answer (.part tick q) (.ok data)).1
        (m.answer (.part tick q) (.ok data)).2 := by
  obtain ⟨ns, stages, rfl, split, rfl⟩ := timely.head owed_eq
  obtain ⟨taken, earlier, later⟩ := parts_apart split
  have refreshes := timely.refreshes
  rw [stages, List.length_cons, underway, split] at refreshes
  have more : (parts.drop (r.settled + 1)).isEmpty = false := by
    rw [List.isEmpty_eq_false_iff]
    exact fun none_ => detail ((parts_last split).mpr none_)
  have answered : m.answer (.part (m.refreshed + 1) q) (.ok data) =
      ({ m with
        snapshot := noteDetail m.snapshot q (.ok data)
        refreshes := underway (r.settled + 1) (m.refreshed + 1) r.stages.length }, []) := by
    simp only [answer, refreshes, List.find?_cons_of_pos, decide_true, conclude, Refresh.settle,
      List.erase_cons_head, more, Bool.false_eq_true, if_false, detail, List.map_cons, if_true,
      map_underway (Nat.lt_succ_self _)]
    rw [stages, List.length_cons, underway]
  rw [answered]
  refine ⟨⟨?_, timely.started, rfl, ?_, ?_, ?_, ?_⟩, rfl, fun _ => .quiet rfl⟩
  · rw [stages, unsettled]
  · have inside : (parts.drop (r.settled + 1)).length ≠ 0 := by
      rw [Ne, List.length_eq_zero_iff, ← List.isEmpty_iff, more]
      exact Bool.false_ne_true
    rw [List.length_drop] at inside
    dsimp only
    omega
  · intro none_
    rw [stages] at none_
    cases none_
  · intro n' head q' settled
    rw [stages, List.head?_cons] at head
    cases head
    rw [taken] at settled
    obtain old | new := List.mem_append.mp settled
    · have before := timely.newer n (by rw [stages]; rfl) q' old
      exact (shows_noteDetail _ _ (earlier q' old) _).mpr before
    · rw [List.mem_singleton.mp new]
      exact noteDetail_shows fits reported detail _
  · intro some_ q' waits
    have before := timely.older some_ q' (split ▸ List.mem_cons_of_mem q waits)
    exact (shows_noteDetail _ _ (later q' waits) _).mpr before

/-- The last part of a tick is settled. -/
theorem state (timely : Timely p m owed r) {tick n : Nat}
    {rest : List ((Nat × Part) × Nat)} (owed_eq : owed = ((tick, .state), n) :: rest)
    {data : Json} (reported : p.answer? n (Query.part tick .state).type = some data) :
    ∃ ns, r.stages = n :: ns ∧
      Timely p (m.answer (.part tick .state) (.ok data)).1 rest ⟨0, n, ns⟩ ∧
      (m.answer (.part tick .state) (.ok data)).1.refreshed = m.refreshed + 1 ∧
      ∀ made, n ≤ made → Reports p made m (m.answer (.part tick .state) (.ok data)).1
        (m.answer (.part tick .state) (.ok data)).2 := by
  obtain ⟨ns, stages, rfl, split, rfl⟩ := timely.head owed_eq
  have last : parts.drop (r.settled + 1) = [] := (parts_last split).mp rfl
  obtain ⟨taken, -, -⟩ := parts_apart split
  have refreshes := timely.refreshes
  rw [stages, List.length_cons, underway, split, last] at refreshes
  have started := timely.started
  rw [stages, List.length_cons] at started
  have read := read?_state reported
  have answered : m.answer (.part (m.refreshed + 1) .state) (.ok data) =
      ({ m with
        snapshot := { m.snapshot with state := (p.stepAfter n).state }
        doneReported := m.doneReported || ((p.stepAfter n).state.isTerminal && !m.doneReported)
        refreshed := m.refreshed + 1
        refreshes := underway 0 (m.refreshed + 1 + 1) ns.length },
        if (p.stepAfter n).state.isTerminal && !m.doneReported then [.done] else []) := by
    have kept := filter_underway (Nat.lt_succ_self (m.refreshed + 1)) 0 ns.length
    simp only [ne_eq] at kept
    simp only [answer, refreshes, List.find?_cons_of_pos, decide_true, conclude, Refresh.settle,
      List.erase_cons_head, List.isEmpty_nil, if_true, read, noteState, noteDetail,
      Nat.max_eq_right (Nat.le_succ m.refreshed), List.filter_cons, ne_eq, not_true_eq_false,
      decide_false, Bool.false_eq_true, if_false, kept]
  refine ⟨ns, stages, ?_, by rw [answered], fun made past => ?_⟩
  rotate_left
  · rw [answered]
    constructor
    · dsimp only
      cases m.doneReported <;> simp
    · intro done
      rw [Bool.or_eq_true, Bool.and_eq_true] at done
      exact done.imp_right fun terminal => ⟨n, past, terminal.1⟩
  rw [answered]
  refine ⟨?_, ?_, rfl, Nat.succ_pos _, fun _ => rfl, by simp, ?_⟩
  · rw [last, List.map_nil, List.nil_append]
  · dsimp only
    omega
  · intro _ q member
    -- All parts but the state have been settled before.
    have all : parts.take (r.settled + 1) = parts :=
      List.take_of_length_le (List.drop_eq_nil_iff.mp last)
    rw [List.drop_zero, ← all, taken] at member
    obtain before | now := List.mem_append.mp member
    · have shown := timely.newer n (by rw [stages]; rfl) q before
      cases q with
      | registers | stack | callStack => exact shown
      | state => rfl
    · rw [List.mem_singleton.mp now]
      rfl

/-- The first question that waits is settled: nothing new can be noted yet, or a tick is. -/
theorem settle (timely : Timely p m owed r) (fits : p.Fits) {made : Nat} {a : Answer}
    (right : a.Right p made) {rest : List ((Nat × Part) × Nat)}
    (owed_eq : owed = (a.query.part?.map (·, a.stage)).toList ++ rest) :
    ∃ r', Timely p (m.answer a.query (.ok a.data)).1 rest r' ∧
      Reports p r'.noted m (m.answer a.query (.ok a.data)).1 (m.answer a.query (.ok a.data)).2 ∧
      ((m.answer a.query (.ok a.data)).1.refreshed = m.refreshed ∧ r'.noted = r.noted ∧
          r'.stages = r.stages ∨
        (m.answer a.query (.ok a.data)).1.refreshed = m.refreshed + 1 ∧ r'.noted = a.stage ∧
          r.stages = r'.noted :: r'.stages) := by
  obtain ⟨query, n, data⟩ := a
  cases part : query.part? with
  | none =>
      rw [part] at owed_eq
      cases owed_eq
      obtain ⟨left, refreshed, reports⟩ := timely.compiler part r.noted (.ok data)
      exact ⟨r, left, reports, .inl ⟨refreshed, rfl, rfl⟩⟩
  | some q =>
      rw [part] at owed_eq
      cases query with
      | debugInfo | code => cases part
      | part tick q =>
          cases part
          by_cases detail : q = .state
          · subst detail
            obtain ⟨ns, stages, left, refreshed, reports⟩ := timely.state owed_eq right.reported
            exact ⟨_, left, reports n (Nat.le_refl n), .inr ⟨refreshed, rfl, stages⟩⟩
          · obtain ⟨left, refreshed, reports⟩ := timely.detail fits owed_eq detail right.reported
            exact ⟨_, left, reports r.noted, .inl ⟨refreshed, rfl, rfl⟩⟩

end Timely

/-! ## Waiting for a step -/

/-- Whether the answers that are owed show later and later steps, none before `noted`. -/
def Ascending (noted : Nat) (t : Transit) : Prop :=
  (noted :: (t.owed.map (·.2) ++ [t.sent])).Pairwise (· ≤ ·)

namespace Ascending

variable {noted : Nat} {t t' : Transit}

theorem sublist (ascending : Ascending noted t) (owed : t'.owed.Sublist t.owed)
    (sent : t'.sent = t.sent) : Ascending noted t' := by
  rw [Ascending, sent]
  exact List.Pairwise.sublist (((owed.map _).append (List.Sublist.refl _)).cons_cons _) ascending

/-- What is owed at last shows the step that has been ordered. -/
theorem ask (ascending : Ascending noted t) {asks : List (Query × Nat)}
    (owed : t'.owed = t.owed ++ asks) (last : ∀ o ∈ asks, o.2 = t.sent) (sent : t'.sent = t.sent) :
    Ascending noted t' := by
  have asks_eq : asks.map (·.2) = List.replicate asks.length t.sent :=
    List.eq_replicate_iff.mpr ⟨List.length_map .., List.forall_mem_map.mpr last⟩
  rw [Ascending, List.pairwise_cons, List.pairwise_append] at ascending
  rw [Ascending, sent, owed, List.map_append, asks_eq, List.pairwise_cons, List.append_assoc,
    ← List.replicate_succ', List.pairwise_append]
  refine ⟨fun k member => ascending.1 k ?_, ascending.2.1, ?_, fun k member l last => ?_⟩
  · simp only [List.mem_append, List.mem_replicate, List.mem_singleton] at member ⊢
    tauto
  · exact List.pairwise_replicate.mpr (.inr (Nat.le_refl _))
  · exact ascending.2.2.2 k member l (List.mem_singleton.mpr (List.eq_of_mem_replicate last))

theorem settle (ascending : Ascending noted t) {q : Query} {n : Nat}
    (owed : t.owed = (q, n) :: t'.owed) (sent : t'.sent = t.sent) :
    noted ≤ n ∧ Ascending n t' := by
  rw [Ascending, owed, List.map_cons, List.cons_append] at ascending
  rw [Ascending, sent]
  exact ⟨(List.pairwise_cons.mp ascending).1 n List.mem_cons_self,
    (List.pairwise_cons.mp ascending).2⟩

/-- A step is ordered. -/
theorem order (ascending : Ascending noted t) (owed : t'.owed = t.owed) (sent : t.sent ≤ t'.sent) :
    Ascending noted t' := by
  rw [Ascending, List.pairwise_cons, List.pairwise_append] at ascending ⊢
  rw [owed]
  simp only [List.mem_append, List.mem_singleton, forall_eq] at ascending ⊢
  refine ⟨fun k member => ?_, ascending.2.1, List.pairwise_singleton .., fun k member =>
    (ascending.2.2.2 k member).trans sent⟩
  obtain old | rfl := member
  · exact ascending.1 k (.inl old)
  · exact (ascending.1 t.sent (.inr rfl)).trans sent

/-- Once the last step is noted, nothing earlier is owed. -/
theorem stages (ascending : Ascending noted t) (last : t.sent ≤ noted) :
    ∀ o ∈ t.owed, o.2 = t.sent := by
  intro o member
  rw [Ascending, List.pairwise_cons, List.pairwise_append] at ascending
  have listed : o.2 ∈ t.owed.map (·.2) := List.mem_map_of_mem member
  exact Nat.le_antisymm (ascending.2.2.2 _ listed _ (List.mem_singleton.mpr rfl))
    (last.trans (ascending.1 _ (List.mem_append_left _ listed)))

end Ascending

/-- Whether every tick that began after the tick `issued` shows the step `n`. -/
def Awaits (m : Monitor) (r : Standing) (issued n : Nat) : Prop :=
  ∀ stage ∈ (r.noted :: r.stages).drop (issued + 1 - m.refreshed), stage = n

section

variable {p : ScriptedProgram} {m m' : Monitor} {t t' : Transit} {r : Standing} {now : Millis}

theorem awaits_next {owed : List ((Nat × Part) × Nat)} (timely : Timely p m owed r) (n : Nat) :
    Awaits m r m.ticksStarted n := by
  intro stage later
  rw [timely.started, List.drop_eq_nil_of_le] at later
  · cases later
  · rw [List.length_cons]
    omega

theorem Awaits.congr {issued n : Nat} (waits : Awaits m r issued n) {r' : Standing}
    (refreshed : m'.refreshed = m.refreshed) (noted : r'.noted = r.noted)
    (stages : r'.stages = r.stages) : Awaits m' r' issued n := by
  rwa [Awaits, refreshed, noted, stages]

/-- Another tick begins, after everything that was commanded. -/
theorem Awaits.begin {issued n : Nat} (waits : Awaits m r issued n)
    (refreshed : m'.refreshed = m.refreshed) :
    Awaits m' { r with stages := r.stages ++ [n] } issued n := by
  intro stage later
  rw [refreshed, ← List.cons_append, List.drop_append] at later
  obtain old | new := List.mem_append.mp later
  · exact waits stage old
  · exact List.mem_singleton.mp (List.mem_of_mem_drop new)

/-- The first tick under way is noted. -/
theorem Awaits.noted {issued n : Nat} (waits : Awaits m r issued n) {r' : Standing}
    (refreshed : m'.refreshed = m.refreshed + 1) (stages : r.stages = r'.noted :: r'.stages) :
    Awaits m' r' issued n := by
  intro stage later
  rw [refreshed] at later
  refine waits stage ?_
  rw [stages]
  by_cases past : issued + 1 ≤ m.refreshed
  · rw [show issued + 1 - m.refreshed = 0 by omega]
    exact List.mem_cons_of_mem _ (List.mem_of_mem_drop later)
  · rw [show issued + 1 - m.refreshed = issued + 1 - (m.refreshed + 1) + 1 by omega]
    exact later

/-- What a turn means to those who wait. -/
theorem Turn.timely {es : List Event} (turn : Turn p now m t m' t' es) (fits : p.Fits)
    (timely : Timely p m (outstanding t.owed) r) (noted : r.noted ≤ t.made)
    (ascending : Ascending r.noted t) :
    ∃ r', Timely p m' (outstanding t'.owed) r' ∧ r'.noted ≤ t'.made ∧ Ascending r'.noted t' ∧
      r.noted ≤ r'.noted ∧ Reports p r'.noted m m' es ∧
      ∀ issued, Awaits m r issued t.sent → Awaits m' r' issued t'.sent := by
  cases turn with
  | pass owed sent made =>
      refine ⟨r, owed ▸ timely, noted.trans made, ascending.sublist (by rw [owed]) sent,
        Nat.le_refl _, .quiet rfl, fun issued waits => ?_⟩
      rwa [sent]
  -- A question of no tick: no part is awaited for it.
  | drop unreported before after sent made =>
      have fewer : t'.owed.Sublist t.owed := by
        rw [before, after]
        exact (List.Sublist.refl _).append (List.sublist_cons_self ..)
      refine ⟨r, ?_, made ▸ noted, ascending.sublist fewer sent, Nat.le_refl _, .quiet rfl,
        fun issued waits => ?_⟩
      · rw [before, outstanding, List.filterMap_append, List.filterMap_cons,
          part?_of_unreported unreported] at timely
        rw [after, outstanding, List.filterMap_append]
        exact timely
      · rwa [sent]
  | poll polling owed sent made =>
      refine ⟨{ r with stages := r.stages ++ [t.sent] }, ?_, made ▸ noted,
        ascending.ask owed (by simp) sent, Nat.le_refl _, .quiet ?_, fun issued waits => ?_⟩
      · rw [owed, outstanding, List.filterMap_append]
        exact timely.poll polling t.sent
      · obtain ⟨due, scheduled⟩ := Option.ne_none_iff_exists'.mp polling
        simp only [Monitor.poll, scheduled, if_true]
      · rw [sent]
        exact waits.begin (m.poll_knows now .running).refreshed
  | fetch _ owed sent made =>
      refine ⟨r, ?_, made ▸ noted, ascending.ask owed (by simp) sent, Nat.le_refl _, .quiet rfl,
        fun issued waits => ?_⟩
      · rw [owed, outstanding, List.filterMap_append, show List.filterMap _ [_, _] = [] from rfl,
          List.append_nil]
        exact timely.fetchCode .running
      · rw [sent]
        exact waits.congr (m.fetchCode_knows .running).refreshed rfl rfl
  | settle a right owed sent made =>
      have first : outstanding t.owed =
          (a.query.part?.map (·, a.stage)).toList ++ outstanding t'.owed := by
        rw [owed, outstanding, List.filterMap_cons]
        cases a.query.part? <;> rfl
      obtain ⟨later, ascending'⟩ := ascending.settle owed sent
      rw [sent, made]
      -- Either the answer is not the last of its tick, or the tick is noted with it.
      obtain ⟨r', left, reports, ⟨refreshed, same, stages⟩ | ⟨refreshed, same, stages⟩⟩ :=
        timely.settle fits right first
      · refine ⟨r', left, same ▸ noted, ?_, Nat.le_of_eq same.symm, reports, fun issued waits =>
          waits.congr refreshed same stages⟩
        exact same ▸ ascending.sublist (owed ▸ List.sublist_cons_self ..) sent
      · exact ⟨r', left, same ▸ right.past, same ▸ ascending', same ▸ later, reports,
          fun issued waits => waits.noted refreshed stages⟩

theorem Turn.sent {p : ScriptedProgram} {es : List Event} (turn : Turn p now m t m' t' es) :
    t'.sent = t.sent ∧ t.made ≤ t'.made := by
  cases turn with
  | pass owed sent made => exact ⟨sent, made⟩
  | drop _ _ _ sent made => exact ⟨sent, Nat.le_of_eq made.symm⟩
  | poll _ _ sent made => exact ⟨sent, Nat.le_of_eq made.symm⟩
  | fetch _ _ sent made => exact ⟨sent, Nat.le_of_eq made.symm⟩
  | settle _ _ _ sent made => exact ⟨sent, Nat.le_of_eq made.symm⟩

/-- Whether a snapshot is that of a step in all its parts. -/
structure Exhibits (step : ScriptedStep) (s : Snapshot) : Prop where
  state : s.state = step.state
  codePointer : s.codePointer = step.codePointer
  basePointer : s.basePointer = step.basePointer
  stack : s.stack = some step.stack
  callStack : s.callStack = some (Interpreter.parseCallStack step.callStack)

theorem exhibits_of_shows {step : ScriptedStep} {s : Snapshot} (shows : ∀ q, Shows step s q) :
    Exhibits step s where
  state := shows .state
  codePointer := (shows .registers).2
  basePointer := (shows .registers).1
  stack := shows .stack
  callStack := shows .callStack

/-- Once the tick that is waited for has been noted, nothing of an earlier step is left. -/
theorem Awaits.exhibits {issued n : Nat} {owed : List ((Nat × Part) × Nat)}
    (waits : Awaits m r issued n) (timely : Timely p m owed r) (refreshed : issued < m.refreshed) :
    Exhibits (p.stepAfter n) m.snapshot ∧ r.noted = n := by
  rw [Awaits, show issued + 1 - m.refreshed = 0 by omega, List.drop_zero] at waits
  have noted := waits r.noted List.mem_cons_self
  refine ⟨exhibits_of_shows fun q => ?_, noted⟩
  have member : q ∈ parts.take r.settled ++ parts.drop r.settled := by
    rw [List.take_append_drop]
    cases q <;> decide
  obtain newer | older := List.mem_append.mp member
  · cases stages : r.stages with
    | nil =>
        rw [timely.idle stages] at newer
        cases newer
    | cons stage stages' =>
        have same := waits stage (by rw [stages]; simp)
        exact same ▸ timely.newer stage (by rw [stages]; rfl) q newer
  · exact noted ▸ timely.older (Nat.zero_lt_of_lt refreshed) q older

end

end DebugAdapter.Monitor
