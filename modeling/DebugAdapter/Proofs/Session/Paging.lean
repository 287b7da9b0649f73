import DebugAdapter.Proofs.Program.Frames
import DebugAdapter.Proofs.Session.Breakpoints
/-!
# Pages of the stack

The editor asks for the frames of the stack in pages. A page holds those frames that it is asked for
and no others, so that pages of any size, one after the other, make up the whole stack.
-/

namespace DebugAdapter

theorem Control.index_frames (c : Control) :
    c.frames.map (·.index) = (List.range c.frames.length).reverse := by
  rw [frames]
  cases c.snapshot? with
  | none => rfl
  | some s => exact s.index_frames

namespace Session

open Protocol
open Handler (stackFrame)

/-- Pages of some size, one after the other, are what they are cut from. -/
theorem flatMap_pages {α : Type} (as : List α) (size n : Nat) :
    (List.range n).flatMap (fun i => (as.drop (i * size)).take size) = as.take (n * size) := by
  induction n with
  | zero => simp
  | succ n ih => simp [List.range_succ, ih, Nat.succ_mul, List.take_add]

/-- A request for a page of the stack that a session handles. -/
structure StackRead where
  session : Session
  now : Millis
  request : Request
  args : StackTrace
  handled : session.handled? (.activity now .read) = some request
  parsed : request.parse = .ok (.stackTrace args)

namespace StackRead

variable (p : StackRead)

/-- The frames of the session's program, as they are shown. -/
def frames : List StackFrame := p.session.control.frames.map stackFrame

/-- The place of the first frame that it asks for. -/
def start : Nat := p.args.startFrame.getD 0

/-- Whether it is answered with some frames and their number in all, and with nothing else. -/
def Answers (shown : List StackFrame) (total : Nat) : Prop :=
  p.session.produced (.activity p.now .read) =
    [.response (.ok p.request (.stackTrace shown total))]

/-- What a request for a page of the stack does. -/
structure Exact : Prop where
  /-- It is answered. -/
  answered : ∃ shown total, p.Answers shown total
  /-- The answer says how many frames there are. -/
  total : ∀ shown total, p.Answers shown total → total = p.frames.length
  /-- It holds as many frames as are asked for, as far as there are any. -/
  page : ∀ levels, p.args.levels = some levels → 0 < levels →
    ∀ shown total, p.Answers shown total → shown = p.frames.extract p.start (p.start + levels)
  /-- If no number is asked for it holds all frames from the first one on. -/
  rest : p.args.levels = none ∨ p.args.levels = some 0 →
    ∀ shown total, p.Answers shown total → shown = p.frames.drop p.start
  /-- No two frames have the same number. -/
  ids : p.frames.map (·.id) = (List.range p.frames.length).reverse.map (↑) ∧
    (p.frames.map (·.id)).Nodup
  /-- The program and its frames stay as they are. -/
  kept : (p.session.happen (.activity p.now .read)).control = p.session.control

variable {p}

theorem answers_page (p : StackRead) :
    p.Answers ((p.frames.drop p.start).take ((p.args.levels.filter (0 < ·)).getD p.frames.length))
      p.frames.length := by
  have produces : Handler.Produces (fun h => h.carryOut p.now p.request (.stackTrace p.args))
      p.session.handler _ :=
    Handler.produces_send (m := fun h => .response (.ok p.request (.stackTrace
      (((h.control.frames.drop (p.args.startFrame.getD 0)).take
        ((p.args.levels.filter (0 < ·)).getD h.control.frames.length)).map stackFrame)
      h.control.frames.length))) (fun _ => rfl) (fun _ => rfl) (fun _ => rfl) (fun _ => rfl)
  have produced := produced_carryOut p.handled p.parsed produces
  rw [List.map_take, List.map_drop] at produced
  simpa [Answers, frames, start, control] using produced

/-- There is only one answer. -/
theorem Answers.eq {shown : List StackFrame} {total : Nat} (answers : p.Answers shown total) :
    shown = (p.frames.drop p.start).take ((p.args.levels.filter (0 < ·)).getD p.frames.length) ∧
      total = p.frames.length := by
  cases answers.symm.trans p.answers_page
  exact ⟨rfl, rfl⟩

theorem exact (p : StackRead) : p.Exact where
  answered := ⟨_, _, p.answers_page⟩
  total shown total answers := answers.eq.2
  page levels asked some_ shown total answers := by
    have most : p.args.levels.filter (0 < ·) = some levels := by
      rw [asked]
      exact if_pos (decide_eq_true some_)
    rw [answers.eq.1, most, List.extract_eq_take_drop, Nat.add_sub_cancel_left]
    rfl
  rest asked shown total answers := by
    have all : p.args.levels.filter (0 < ·) = none := by
      rcases asked with asked | asked <;> simp [asked]
    rw [answers.eq.1, all]
    exact List.take_of_length_le (by simp)
  ids := by
    have ids : p.frames.map (·.id) = (List.range p.frames.length).reverse.map (↑) := by
      rw [frames, List.length_map, ← p.session.control.index_frames, List.map_map, List.map_map]
      rfl
    rw [ids]
    exact ⟨rfl, (List.nodup_reverse.mpr List.nodup_range).map fun _ _ => Int.ofNat.inj⟩
  kept := by
    have after := handler_read p.handled p.parsed rfl
    rw [Session.control, after]
    exact Handler.succeed_control _ _ _

end StackRead

/-- Whether some requests ask for the pages of a stack, all of one size, one after the other and as
many as there are. -/
structure Pages (frames : List StackFrame) (size n : Nat) (reads : Nat → StackRead) : Prop where
  same : ∀ i < n, (reads i).frames = frames
  start : ∀ i < n, (reads i).start = i * size
  levels : ∀ i < n, (reads i).args.levels = some size
  enough : frames.length ≤ n * size

/-- The pages make up the stack. -/
theorem Pages.whole {frames : List StackFrame} {size n : Nat} {reads : Nat → StackRead}
    (pages : Pages frames size n reads) (positive : 0 < size) {shown : Nat → List StackFrame}
    (answers : ∀ i < n, ∃ total, (reads i).Answers (shown i) total) :
    (List.range n).flatMap shown = frames := by
  have cut (i : Nat) (member : i ∈ List.range n) :
      shown i = (frames.drop (i * size)).take size := by
    have inside := List.mem_range.mp member
    obtain ⟨total, answers⟩ := answers i inside
    have page := (reads i).exact.page size (pages.levels i inside) positive _ _ answers
    rw [page, pages.same i inside, pages.start i inside, List.extract_eq_take_drop,
      Nat.add_sub_cancel_left]
  rw [List.flatMap_congr cut, flatMap_pages]
  exact List.take_of_length_le pages.enough

/-- The stack is shown as it is, in one page or in several. -/
theorem shows_stack :
    (∀ (c : Control) snapshot cs, c.snapshot? = some snapshot → snapshot.callStack = some cs →
      snapshot.Shows cs c.frames) ∧
    (∀ p : StackRead, p.Exact) ∧
    ∀ frames size n reads, 0 < size → Pages frames size n reads → ∀ shown : Nat → List StackFrame,
      (∀ i < n, ∃ total, (reads i).Answers (shown i) total) →
        (List.range n).flatMap shown = frames := by
  refine ⟨?_, StackRead.exact, ?_⟩
  · intro c snapshot cs running reported
    have frames : c.frames = snapshot.frames := by rw [Control.frames, running]; rfl
    rw [frames]
    exact Program.Snapshot.shows_frames reported
  · intro frames size n reads positive pages shown answers
    exact pages.whole positive answers

end Session

end DebugAdapter
