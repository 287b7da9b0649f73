import DebugAdapter.Proofs.Control.Blocks
/-!
# Where a program halts

A command to run on goes through the set-up, then goes on until the program is found to halt, and
last goes through the tear-down. The program halts where it does not run, and at the breakpoints that
count. What does not count is a breakpoint on the line where the command began, until the program has
been on another one, and a breakpoint on the instruction where it began, as long as the program has
not moved.
-/

namespace DebugAdapter

open Program (Breakpoints Snapshot)

namespace Program.Snapshot

/-- Whether the current instruction comes from a line: of all entries that hold it the last one says
so. -/
def IsOn (s : Snapshot) (line : Int) : Prop :=
  ∃ info first later, s.debugInfo = first ++ info :: later ∧ info.holds s.codePointer = true ∧
    (∀ e ∈ later, e.holds s.codePointer = false) ∧ info.position.startLine = line

theorem currentLine?_eq_some {s : Snapshot} {line : Int} :
    s.currentLine? = some line ↔ s.IsOn line := by
  rw [currentLine?, Interpreter.debugInfoAt?, Option.map_eq_some_iff]
  constructor
  · rintro ⟨info, found, same⟩
    obtain ⟨holds, later, first, split, others⟩ := List.find?_eq_some_iff_append.mp found
    refine ⟨info, first.reverse, later.reverse, ?_, holds, ?_, same⟩
    · rw [← List.reverse_reverse s.debugInfo, split]
      simp
    · intro e member
      simpa using others e (List.mem_reverse.mp member)
  · rintro ⟨info, first, later, split, holds, others, same⟩
    refine ⟨info, List.find?_eq_some_iff_append.mpr ⟨holds, later.reverse, first.reverse, ?_, ?_⟩, same⟩
    · rw [split]
      simp
    · intro e member
      simpa using others e (List.mem_reverse.mp member)

end Program.Snapshot

namespace Control

/-! ## Breakpoints that count -/

section

variable (bs : Breakpoints) (memory : Memory) (s : Nat → Snapshot) (k : Nat)

/-- Whether the program has never been off the line where the command began. -/
def Leaves : Prop :=
  ∃ start line, memory.resumeFrom = some start ∧ start.line = some line ∧ ∀ j ≤ k, (s j).IsOn line

/-- Whether the program has not moved from the instruction where the command began. -/
def Skips : Prop :=
  k = 0 ∧ ∃ start, memory.resumeFrom = some start ∧ start.codePointer = (s 0).codePointer

/-- Whether the program is at an instruction breakpoint that counts. -/
def HitsInstruction : Prop :=
  memory.debug = true ∧ (s k).codePointer ∈ bs.instructions ∧ ¬ Skips memory s k

/-- Whether the program is at a line breakpoint that counts. -/
def HitsLine : Prop :=
  memory.debug = true ∧ (∃ line ≠ 0, (s k).IsOn line ∧ ∃ e ∈ bs.lines, e.2.line = line) ∧
    ¬ Leaves memory s k

/-- Whether a command to run on goes no further. -/
def Halts : Prop :=
  (s k).state.isRunningCode = false ∨ HitsInstruction bs memory s k ∨ HitsLine bs memory s k

/-- What is reported where the program halts, and what is remembered then. -/
inductive Outcome : List StopReason → Memory → Prop
  | idle (idle : (s k).state.isRunningCode = false) : Outcome [] { memory with resumeFrom := none }
  | instruction (running : (s k).state.isRunningCode = true) (hits : HitsInstruction bs memory s k) :
      Outcome [.instructionBreakpoint] { memory with resumeFrom := some (s k).location }
  | line (running : (s k).state.isRunningCode = true) (hits : HitsLine bs memory s k)
      (other : ¬ HitsInstruction bs memory s k) :
      Outcome [.breakpoint] { memory with resumeFrom := some (s k).location }

end

variable {bs : Breakpoints} {memory : Memory} {s : Nat → Snapshot} {k : Nat}

theorem stopsAtLine_currentLine? (x : Snapshot) :
    bs.stopsAtLine x.currentLine? = true ↔
      ∃ line ≠ 0, x.IsOn line ∧ ∃ e ∈ bs.lines, e.2.line = line := by
  simp only [← Snapshot.currentLine?_eq_some]
  cases x.currentLine? with
  | none => simp [Breakpoints.stopsAtLine]
  | some line =>
      rw [Breakpoints.stopsAtLine_some_iff]
      constructor
      · rintro ⟨mapped, set_⟩
        exact ⟨line, mapped, rfl, set_⟩
      · rintro ⟨_, mapped, ⟨⟩, set_⟩
        exact ⟨mapped, set_⟩

/-! ## One decision -/

/-- What a command to run on carries along: the line that it is leaving, and the instruction that it
skips. -/
structure Carries (memory : Memory) (s : Nat → Snapshot) (k : Nat) (leaving skipped : Option Int) :
    Prop where
  leaving : ∀ line, leaving = some line ↔
    (∃ start, memory.resumeFrom = some start ∧ start.line = some line) ∧ ∀ j < k, (s j).IsOn line
  skipped : skipped = some (s k).codePointer ↔ Skips memory s k

/-- What a command sees of a program whose interpreter does as it is told. -/
def sight (bs : Breakpoints) (x : Snapshot) : View := { breakpoints := bs, snapshot := x, able := true }

theorem carries_begin : Carries memory s 0 (memory.resumeFrom.bind (·.line))
    (memory.resumeFrom.map (·.codePointer)) where
  leaving := by
    intro line
    rw [Option.bind_eq_some_iff]
    exact ⟨fun start => ⟨start, nofun⟩, (·.1)⟩
  skipped := by
    rw [Option.map_eq_some_iff]
    exact ⟨fun start => ⟨rfl, start⟩, (·.2)⟩

section

variable {leaving skipped : Option Int} (carries : Carries memory s k leaving skipped)
include carries

theorem stillLeaving_eq_some (line : Int) :
    (sight bs (s k)).stillLeaving leaving = some line ↔
      (∃ start, memory.resumeFrom = some start ∧ start.line = some line) ∧
        ∀ j < k + 1, (s j).IsOn line := by
  rw [Nat.forall_lt_succ_right, ← and_assoc, ← carries.leaving, ← Snapshot.currentLine?_eq_some]
  unfold View.stillLeaving
  split
  · rename_i same
    exact ⟨fun left => ⟨left, same.trans left⟩, (·.1)⟩
  · rename_i other
    exact ⟨nofun, fun ⟨left, here⟩ => absurd (here.trans left.symm) other⟩

theorem isNone_stillLeaving :
    ((sight bs (s k)).stillLeaving leaving).isNone = true ↔ ¬ Leaves memory s k := by
  rw [Option.isNone_iff_eq_none, Option.eq_none_iff_forall_ne_some]
  simp only [ne_eq, stillLeaving_eq_some carries, Nat.lt_succ_iff]
  constructor
  · rintro none_ ⟨start, line, from_, here, on⟩
    exact none_ line ⟨⟨start, from_, here⟩, on⟩
  · rintro left line ⟨⟨start, from_, here⟩, on⟩
    exact left ⟨start, line, from_, here, on⟩

/-- Instruction breakpoints come first. -/
theorem stopReason?_eq_some (reason : StopReason) :
    (sight bs (s k)).stopReason? memory.debug ((sight bs (s k)).stillLeaving leaving) skipped =
        some reason ↔
      reason = .instructionBreakpoint ∧ HitsInstruction bs memory s k ∨
        reason = .breakpoint ∧ HitsLine bs memory s k ∧ ¬ HitsInstruction bs memory s k := by
  have instruction : HitsInstruction bs memory s k ↔ memory.debug = true ∧
      (skipped ≠ some (s k).codePointer && bs.stopsAtInstruction (s k).codePointer) = true := by
    rw [HitsInstruction, ← carries.skipped, Bool.and_eq_true, decide_eq_true_eq,
      Breakpoints.stopsAtInstruction, List.contains_iff_mem, and_comm (a := _ ∈ _)]
  have line : HitsLine bs memory s k ↔ memory.debug = true ∧
      (((sight bs (s k)).stillLeaving leaving).isNone && bs.stopsAtLine (s k).currentLine?) = true := by
    rw [HitsLine, Bool.and_eq_true, isNone_stillLeaving carries, stopsAtLine_currentLine?,
      and_comm (a := ¬ _)]
  rw [instruction, line]
  change (if !memory.debug then none
    else if (skipped ≠ some (s k).codePointer && bs.stopsAtInstruction (s k).codePointer) = true then
      some StopReason.instructionBreakpoint
    else if (((sight bs (s k)).stillLeaving leaving).isNone &&
      bs.stopsAtLine (s k).currentLine?) = true then some StopReason.breakpoint
    else none) = some reason ↔ _
  generalize (skipped ≠ some (s k).codePointer && _) = atInstruction
  generalize (Option.isNone _ && _) = atLine
  cases memory.debug <;> cases atInstruction <;> cases atLine <;> simp [eq_comm]

/-- The command goes on as long as the program does not halt. -/
theorem run_of_not_halts (on : ¬ Halts bs memory s k) :
    (sight bs (s k)).run { memory with resumeFrom := none } leaving skipped =
      { memory := { memory with resumeFrom := none }
        notices := []
        next := .execute (.running ((sight bs (s k)).stillLeaving leaving) none) } := by
  rw [Halts, not_or, not_or, Bool.not_eq_false] at on
  obtain ⟨running, noInstruction, noLine⟩ := on
  have running' : (sight bs (s k)).snapshot.state.isRunningCode = true := running
  have none_ : (sight bs (s k)).stopReason? memory.debug
      ((sight bs (s k)).stillLeaving leaving) skipped = none := by
    rw [Option.eq_none_iff_forall_ne_some]
    intro reason stops
    obtain ⟨-, hits⟩ | ⟨-, hits, -⟩ := (stopReason?_eq_some carries reason).mp stops
    · exact noInstruction hits
    · exact noLine hits
  rw [View.run, if_pos running']
  simp only [none_]
  rfl

theorem Carries.next : Carries memory s (k + 1) ((sight bs (s k)).stillLeaving leaving) none where
  leaving := stillLeaving_eq_some carries
  skipped := ⟨nofun, fun skips => absurd skips.1 (Nat.succ_ne_zero k)⟩

/-- Where the program halts its own part is over. -/
theorem run_of_halts (halts : Halts bs memory s k) :
    ∃ reasons memory', Outcome bs memory s k reasons memory' ∧
      (sight bs (s k)).run { memory with resumeFrom := none } leaving skipped =
        { memory := memory', notices := reasons.map .stopped, next := (sight bs (s k)).trail } := by
  cases running : (s k).state.isRunningCode with
  | false =>
      have idle : ¬ (sight bs (s k)).snapshot.state.isRunningCode = true := by
        rw [Bool.not_eq_true]
        exact running
      refine ⟨_, _, .idle running, ?_⟩
      rw [View.run, if_neg idle]
      rfl
  | true =>
      have running' : (sight bs (s k)).snapshot.state.isRunningCode = true := running
      have stopped {reason : StopReason} (stops : (sight bs (s k)).stopReason? memory.debug
          ((sight bs (s k)).stillLeaving leaving) skipped = some reason) :
          (sight bs (s k)).run { memory with resumeFrom := none } leaving skipped =
            { memory := { memory with resumeFrom := some (s k).location }
              notices := [reason].map .stopped
              next := (sight bs (s k)).trail } := by
        rw [View.run, if_pos running']
        simp only [stops]
        rfl
      have reason (r : StopReason) : (sight bs (s k)).stopReason? memory.debug
          ((sight bs (s k)).stillLeaving leaving) skipped = some r ↔ _ :=
        stopReason?_eq_some carries r
      by_cases instruction : HitsInstruction bs memory s k
      · exact ⟨_, _, .instruction running instruction,
          stopped ((reason _).mpr (.inl ⟨rfl, instruction⟩))⟩
      · have line : HitsLine bs memory s k := by
          obtain idle | hits | line := halts
          · cases idle.symm.trans running
          · exact absurd hits instruction
          · exact line
        exact ⟨_, _, .line running line instruction,
          stopped ((reason _).mpr (.inr ⟨rfl, line, instruction⟩))⟩

end

/-! ## All decisions -/

/-- What a command to run on decides, each time that it looks at the program; `course j` is where the
program is after `j` instructions. -/
def decisions (bs : Breakpoints) (memory : Memory) (course : Nat → Snapshot) : Nat → Decision
  | 0 => (sight bs (course 0)).lead memory .run
  | j + 1 =>
    match (decisions bs memory course j).next with
    | .execute stage =>
      (sight bs (course (j + 1))).after (decisions bs memory course j).memory true stage
    | .finished => decisions bs memory course j

theorem decisions_succ {course : Nat → Snapshot} {j : Nat} {stage : Stage}
    (next : (decisions bs memory course j).next = .execute stage) :
    decisions bs memory course (j + 1) =
      (sight bs (course (j + 1))).after (decisions bs memory course j).memory true stage := by
  rw [decisions, next]

/-- The set-up is gone through as long as it lasts. -/
theorem lead_attended {x : Snapshot} {goal : Goal} (attended : x.state.isBootstrap = true) :
    (sight bs x).lead memory goal =
      { memory, notices := [], next := .execute (.leading goal) } := by
  have leads : ((sight bs x).snapshot.state.isBootstrap && true) = true := by
    rw [Bool.and_true]
    exact attended
  exact if_pos leads

theorem lead_unattended {x : Snapshot} {goal : Goal} (unattended : x.state.isBootstrap = false) :
    (sight bs x).lead memory goal = (sight bs x).begin memory goal := by
  have begins : ¬ ((sight bs x).snapshot.state.isBootstrap && true) = true := by
    rw [Bool.and_true, Bool.not_eq_true]
    exact unattended
  exact if_neg begins

/-- Whether the interpreter's set-up, or its tear-down, takes `m` instructions. -/
structure Takes (course : Nat → Snapshot) (m : Nat) : Prop where
  through : ∀ j < m, (course j).state.isBootstrap = true
  past : (course m).state.isBootstrap = false

section

variable {course : Nat → Snapshot} {m : Nat} (setUp : Takes course m)
include setUp

theorem decisions_leading {j : Nat} (early : j < m) : decisions bs memory course j =
    { memory, notices := [], next := .execute (.leading .run) } := by
  induction j with
  | zero => exact lead_attended (setUp.through 0 early)
  | succ j ih =>
      have before := ih (Nat.lt_of_succ_lt early)
      rw [decisions_succ (congrArg Decision.next before), before]
      exact lead_attended (setUp.through (j + 1) early)

theorem decisions_begin : decisions bs memory course m =
    (sight bs (course m)).run { memory with resumeFrom := none } (memory.resumeFrom.bind (·.line))
      (memory.resumeFrom.map (·.codePointer)) := by
  cases m with
  | zero => exact lead_unattended setUp.past
  | succ m =>
      have before : decisions bs memory course m = _ := decisions_leading setUp (Nat.lt_succ_self m)
      rw [decisions_succ (congrArg Decision.next before), before]
      exact lead_unattended setUp.past

/-- As long as the program has not halted the command goes on with what it carries along. -/
theorem decisions_running (on : ∀ j < k, ¬ Halts bs memory (fun j => course (m + j)) j) :
    ∃ leaving skipped, Carries memory (fun j => course (m + j)) k leaving skipped ∧
      decisions bs memory course (m + k) =
        (sight bs (course (m + k))).run { memory with resumeFrom := none } leaving skipped := by
  induction k with
  | zero => exact ⟨_, _, carries_begin, decisions_begin setUp⟩
  | succ k ih =>
      obtain ⟨leaving, skipped, carries, decided⟩ := ih fun j earlier => on j (Nat.lt_succ_of_lt earlier)
      replace decided := decided.trans
        (run_of_not_halts (s := fun j => course (m + j)) carries (on k (Nat.lt_succ_self k)))
      refine ⟨(sight bs (course (m + k))).stillLeaving leaving, none, carries.next, ?_⟩
      rw [← Nat.add_assoc, decisions_succ (congrArg Decision.next decided), decided]
      rfl

theorem decisions_of_not_halts (on : ∀ j ≤ k, ¬ Halts bs memory (fun j => course (m + j)) j) :
    ∃ leaving, decisions bs memory course (m + k) =
      { memory := { memory with resumeFrom := none }, notices := [],
        next := .execute (.running leaving none) } := by
  obtain ⟨leaving, skipped, carries, decided⟩ :=
    decisions_running setUp fun j earlier => on j (Nat.le_of_lt earlier)
  exact ⟨_, decided.trans
    (run_of_not_halts (s := fun j => course (m + j)) carries (on k (Nat.le_refl k)))⟩

theorem decisions_of_halts (on : ∀ j < k, ¬ Halts bs memory (fun j => course (m + j)) j)
    (halts : Halts bs memory (fun j => course (m + j)) k) :
    ∃ reasons memory', Outcome bs memory (fun j => course (m + j)) k reasons memory' ∧
      decisions bs memory course (m + k) =
        { memory := memory', notices := reasons.map .stopped,
          next := (sight bs (course (m + k))).trail } := by
  obtain ⟨leaving, skipped, carries, decided⟩ := decisions_running setUp on
  obtain ⟨reasons, memory', outcome, halted⟩ := run_of_halts carries halts
  exact ⟨reasons, memory', outcome, decided.trans halted⟩

end

/-- As long as the program has not halted an instruction is ordered at each look, and nothing else. -/
theorem decisions_steps {course : Nat → Snapshot} {m n : Nat} (setUp : Takes course m)
    (on : ∀ k < n, ¬ Halts bs memory (fun k => course (m + k)) k) :
    ∀ l < m + n, (decisions bs memory course l).notices = [] ∧
      ∃ stage, (decisions bs memory course l).next = .execute stage := by
  intro l earlier
  obtain leading | later := Nat.lt_or_ge l m
  · rw [decisions_leading setUp leading]
    exact ⟨rfl, _, rfl⟩
  · obtain ⟨k, rfl⟩ := Nat.exists_eq_add_of_le later
    obtain ⟨leaving, decided⟩ := decisions_of_not_halts (k := k) setUp fun j le => on j (by omega)
    rw [decided]
    exact ⟨rfl, _, rfl⟩

/-- The tear-down is gone through as long as it lasts. -/
theorem trail_sight (x : Snapshot) : (sight bs x).trail =
    if x.state.isBootstrap then .execute .trailing else .finished := by
  rw [View.trail]
  cases attended : x.state.isBootstrap <;> simp [sight, attended]

/-- Whether each decision follows from the one before and from where the program then is; the last one
stands. -/
structure Chained (bs : Breakpoints) (course : Nat → Snapshot) (δs : Nat → Decision) : Prop where
  next : ∀ j stage, (δs j).next = .execute stage →
    δs (j + 1) = (sight bs (course (j + 1))).after (δs j).memory true stage
  rests : ∀ j, (δs j).next = .finished → δs (j + 1) = δs j

/-- After the command's own part only the tear-down is gone through. -/
theorem Chained.trailing {course : Nat → Snapshot} {δs : Nat → Decision} {h r : Nat}
    {memory' : Memory} {notices : List Notice} (chained : Chained bs course δs)
    (halted : δs h = { memory := memory', notices, next := (sight bs (course h)).trail })
    (torn : ∀ j < r, (course (h + j)).state.isBootstrap = true) :
    δs (h + r) = { memory := memory', notices := if r = 0 then notices else []
                   next := (sight bs (course (h + r))).trail } := by
  induction r with
  | zero => exact halted
  | succ r ih =>
      have before := ih fun j earlier => torn j (Nat.lt_succ_of_lt earlier)
      have next := congrArg Decision.next before
      rw [trail_sight, if_pos (torn r (Nat.lt_succ_self r))] at next
      rw [← Nat.add_assoc, chained.next _ _ next, before]
      rfl

theorem chained_decisions (bs : Breakpoints) (memory : Memory) (course : Nat → Snapshot) :
    Chained bs course (decisions bs memory course) where
  next _ _ := decisions_succ
  rests j finished := by rw [decisions, finished]

theorem decisions_trailing {course : Nat → Snapshot} {h r : Nat} {memory' : Memory}
    {notices : List Notice}
    (halted : decisions bs memory course h =
      { memory := memory', notices, next := (sight bs (course h)).trail })
    (torn : ∀ j < r, (course (h + j)).state.isBootstrap = true) :
    decisions bs memory course (h + r) =
      { memory := memory', notices := if r = 0 then notices else []
        next := (sight bs (course (h + r))).trail } :=
  (chained_decisions bs memory course).trailing halted torn

end Control

end DebugAdapter
