import DebugAdapter.Program.Snapshot
import Mathlib.Data.List.Nodup
/-!
# The frames of a program

The frames that the user sees are those of the call stack that belong to the program, in the opposite
order, under one for the current instruction if its line is known. Their numbers go down to 0.
-/

namespace DebugAdapter.Program

open Interpreter (CallFrame)

/-- A frame without its number. -/
def Frame.unnumbered (f : Frame) : Frame := { f with index := 0 }

/-- The frame of an entry of the call stack that belongs to the program, without a number. -/
def sourceFrame? : CallFrame → Option Frame
  | .state _ => none
  | .source name file offset line =>
    some { index := 0, name, file, line, instruction := some offset }

namespace Snapshot

theorem unnumbered_framesFrom (n : Nat) (cs : List CallFrame) :
    (framesFrom n cs).map Frame.unnumbered = cs.filterMap sourceFrame? := by
  induction cs generalizing n with
  | nil => rfl
  | cons c cs ih =>
      cases c with
      | state name =>
          rw [framesFrom, List.filterMap_cons_none rfl]
          exact ih n
      | source name file offset line =>
          simpa [framesFrom, sourceFrame?, Frame.unnumbered] using ih (n + 1)

theorem index_framesFrom (n : Nat) (cs : List CallFrame) :
    (framesFrom n cs).map (·.index) = List.range' n (framesFrom n cs).length := by
  induction cs generalizing n with
  | nil => rfl
  | cons c cs ih =>
      cases c with
      | state name => simpa [framesFrom] using ih n
      | source name file offset line =>
          simpa [framesFrom, List.range'_succ] using ih (n + 1)

variable {s : Snapshot} {cs : List CallFrame}

theorem instructionFrame?_eq {n : Nat} {f : Frame} (top : s.instructionFrame? cs n = some f) :
    f.index = n ∧ f.name = "Instruction " ++ toString s.codePointer ∧ f.instruction = none := by
  unfold instructionFrame? at top
  split at top
  · split at top <;> cases top
    exact ⟨rfl, rfl, rfl⟩
  · cases top

/-- The frame of the current instruction stands above an entry of the program. -/
theorem instructionFrame?_source {outer : List CallFrame} {name file : String}
    {offset line here : Int} (current : s.currentLine? = some here) (known : here ≠ 0) (n : Nat) :
    s.instructionFrame? (outer ++ [.source name file offset line]) n =
      some { index := n, name := "Instruction " ++ toString s.codePointer, file, line := here
             instruction := none } := by
  simp [instructionFrame?, current, known]

theorem instructionFrame?_none (plain : ∀ outer name file offset line here,
    cs = outer ++ [.source name file offset line] → s.currentLine? = some here → here = 0)
    (n : Nat) : s.instructionFrame? cs n = none := by
  unfold instructionFrame?
  split
  · rename_i name file offset line here last current
    obtain ⟨outer, rfl⟩ := List.getLast?_eq_some_iff.mp last
    exact if_pos (plain outer name file offset line here rfl current)
  · rfl

theorem frames_eq (s : Snapshot) : s.frames =
    (s.instructionFrame? (s.callStack.getD []) (framesFrom 0 (s.callStack.getD [])).length).toList ++
      (framesFrom 0 (s.callStack.getD [])).reverse := by
  rw [frames, List.reverse_append]
  cases s.instructionFrame? (s.callStack.getD []) (framesFrom 0 (s.callStack.getD [])).length <;> rfl

theorem index_frames (s : Snapshot) :
    s.frames.map (·.index) = (List.range s.frames.length).reverse := by
  have outer := index_framesFrom 0 (s.callStack.getD [])
  rw [← List.range_eq_range'] at outer
  rw [frames_eq, List.map_append, List.map_reverse, outer]
  cases top : s.instructionFrame? (s.callStack.getD [])
      (framesFrom 0 (s.callStack.getD [])).length with
  | none => simp
  | some f => simp [(instructionFrame?_eq top).1, List.range_succ]

/-- A frame is that of the current instruction, or that of an entry of the program. -/
theorem origin_of_mem_frames {f : Frame} (mem : f ∈ s.frames) :
    f.name = "Instruction " ++ toString s.codePointer ∧ f.instruction = none ∨
      ∃ offset, f.instruction = some offset ∧
        .source f.name f.file offset f.line ∈ s.callStack.getD [] := by
  rw [frames_eq, List.mem_append, Option.mem_toList, List.mem_reverse] at mem
  obtain top | outer := mem
  · exact .inl (instructionFrame?_eq top).2
  · have seen := List.mem_map_of_mem (f := Frame.unnumbered) outer
    rw [unnumbered_framesFrom] at seen
    obtain ⟨c, entry, same⟩ := List.mem_filterMap.mp seen
    cases c with
    | state => cases same
    | source name file offset line =>
        obtain ⟨index, name', file', line', instruction⟩ := f
        cases same
        exact .inr ⟨offset, rfl, entry⟩

/-- What the user sees of a call stack. -/
structure Shows (s : Snapshot) (cs : List CallFrame) (frames : List Frame) : Prop where
  /-- The current instruction comes first if the innermost entry belongs to the program and the line
  of the instruction is known. -/
  topped : ∀ outer name file offset line here,
    cs = outer ++ [.source name file offset line] → s.currentLine? = some here → here ≠ 0 →
      frames.map Frame.unnumbered =
        { index := 0, name := "Instruction " ++ toString s.codePointer, file, line := here
          instruction := none } :: (cs.filterMap sourceFrame?).reverse
  /-- Otherwise the frames are the entries of the program alone. -/
  plain : (∀ outer name file offset line here,
      cs = outer ++ [.source name file offset line] → s.currentLine? = some here → here = 0) →
    frames.map Frame.unnumbered = (cs.filterMap sourceFrame?).reverse
  numbers : frames.map (·.index) = (List.range frames.length).reverse
  distinct : (frames.map (·.index)).Nodup

theorem shows_frames (reported : s.callStack = some cs) : s.Shows cs s.frames := by
  have seen : s.frames.map Frame.unnumbered =
      ((s.instructionFrame? cs (framesFrom 0 cs).length).map Frame.unnumbered).toList ++
        (cs.filterMap sourceFrame?).reverse := by
    rw [frames_eq, reported, Option.getD_some, List.map_append, List.map_reverse,
      unnumbered_framesFrom, Option.toList_map]
  constructor
  case topped =>
    rintro outer name file offset line here rfl current known
    rw [seen, instructionFrame?_source current known]
    rfl
  case plain =>
    intro plain
    rw [seen, instructionFrame?_none plain]
    rfl
  case numbers => exact s.index_frames
  case distinct =>
    rw [s.index_frames]
    exact List.nodup_reverse.mpr List.nodup_range

end Snapshot

end DebugAdapter.Program
