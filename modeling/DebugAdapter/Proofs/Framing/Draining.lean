import DebugAdapter.Proofs.Framing.LastFrames
/-!
# What the limit puts off

A drain takes as many segments with octets off the buffer as the limit allows, blank ones included,
and leaves the others where they are. So the limit puts frames off and loses none: drains one after
the other come to all of them.
-/

namespace DebugAdapter.Framing

open Delimiting

namespace Delimiting

/-- The first `n` segments with octets are off the front of `bs`, with the empty ones between and
directly behind them; `rest` is what is left. -/
structure TakesOff (d : Delimiting) (n : Nat) (bs rest : Bytes) : Prop where
  cut : ∃ front, bs = front ++ rest ∧ Closed d front ∧ d.filled front = (d.filled bs).take n
  ahead : rest.head? ≠ some d.delimiter

namespace TakesOff

variable {d : Delimiting} {n : Nat} {bs rest : Bytes}

theorem filled (takesOff : d.TakesOff n bs rest) : d.filled rest = (d.filled bs).drop n := by
  obtain ⟨⟨front, cut, closed, taken⟩, -⟩ := takesOff
  have whole := closed.filled_append rest
  rw [← cut, taken] at whole
  exact (List.append_cancel_left (whole.symm.trans (List.take_append_drop n _).symm))

/-- Octets that do not begin with a delimiter hold none if no segment of them holds octets. -/
theorem notMem_of_filled (ahead : rest.head? ≠ some d.delimiter) (none_ : d.filled rest = []) :
    d.delimiter ∉ rest := by
  intro member
  obtain ⟨segment, more, rfl, free⟩ := List.eq_append_cons_of_mem member
  cases segment with
  | nil => exact ahead rfl
  | cons b segment =>
      rw [d.filled_cons free (List.cons_ne_nil b segment)] at none_
      cases none_

/-- Where all segments have been taken off, no delimiter is left. -/
theorem notMem (takesOff : d.TakesOff n bs rest) (all : (d.filled bs).length ≤ n) :
    d.delimiter ∉ rest := by
  refine notMem_of_filled takesOff.ahead ?_
  rw [takesOff.filled, List.drop_eq_nil_of_le all]

/-- More segments are taken off behind closed octets. -/
theorem behind {front : Bytes} (closed : Closed d front) (takesOff : d.TakesOff n bs rest) :
    d.TakesOff ((d.filled front).length + n) (front ++ bs) rest := by
  obtain ⟨⟨more, rfl, closed', taken⟩, ahead⟩ := takesOff
  refine ⟨⟨front ++ more, (List.append_assoc ..).symm, closed.append closed', ?_⟩, ahead⟩
  rw [closed.filled_append, closed.filled_append, taken, List.take_length_add_append]

end TakesOff

end Delimiting

namespace FrameReader

/-! ## One drain -/

/-- Attempts up to the first one that gives no frame, with the frames that the others give. -/
inductive Drains : FrameReader → List Frame → FrameReader → Prop
  | done {r r' : FrameReader} (nothing : r.next = (none, r')) : Drains r [] r'
  | frame {r r' r'' : FrameReader} {f : Frame} {fs : List Frame} (taken : r.next = (some f, r'))
      (others : Drains r' fs r'') : Drains r (f :: fs) r''

/-- Attempts come to one that gives no frame. -/
theorem drains_drain (r : FrameReader) : Drains r r.drain.1 r.drain.2 := by
  rw [drain_eq]
  cases taken : r.next with
  | mk frame r' =>
      cases frame with
      | none => exact .done taken
      | some f =>
          have shorter := next_shortens taken
          exact .frame taken (drains_drain r')
termination_by r.buffer.length

/-- What a drain does to the buffer when some frames may still be taken. -/
structure Drained (r : FrameReader) (fs : List Frame) (r' : FrameReader) : Prop where
  takesOff : r.delimiting.TakesOff (r.delimiting.bound - r.taken) r.buffer r'.buffer
  frames : fs =
    framesOf ((r.delimiting.filled r.buffer).take (r.delimiting.bound - r.taken))
  taken : r'.taken = 0
  delimiting : r'.delimiting = r.delimiting

theorem next_advanced {r r' : FrameReader} {frame : Option Frame} (taken : r.next = (frame, r')) :
    Advanced r.delimiting r.taken r.buffer ⟨frame, r'.taken, r'.buffer⟩ ∧
      r'.delimiting = r.delimiting := by
  obtain ⟨rfl, rfl⟩ := Prod.mk.inj taken
  exact ⟨take_advanced r.taken [] r.buffer List.not_mem_nil, rfl⟩

theorem drained_of_drains {r r' : FrameReader} {fs : List Frame} (drains : Drains r fs r')
    (below : r.taken ≤ r.delimiting.bound) : Drained r fs r' := by
  induction drains with
  | @done r r' nothing =>
      obtain ⟨advanced, delimiting⟩ := next_advanced nothing
      obtain ⟨d, taken, buffer⟩ := r'
      cases advanced with
      | @nothing front _ cut closed blank count ahead reached =>
          have taken : r.delimiting.filled front =
              (r.delimiting.filled r.buffer).take (r.delimiting.bound - r.taken) := by
            rw [cut, closed.filled_append]
            obtain none_ | full := reached
            · rw [filled_of_notMem _ none_, List.append_nil, List.take_of_length_le count]
            · rw [← full, List.take_left]
          refine ⟨⟨⟨front, cut, closed, taken⟩, ahead⟩, ?_, rfl, delimiting⟩
          rw [← taken, framesOf_blank blank]
  | @frame r r' r'' f fs taken others ih =>
      obtain ⟨advanced, delimiting⟩ := next_advanced taken
      obtain ⟨d, taken, buffer⟩ := r'
      cases delimiting
      cases advanced with
      | @frame front _ segment blanks cut closed content blank few visible =>
          have count : (r.delimiting.filled front).length = blanks.length + 1 := by
            rw [content, List.length_append, List.length_singleton]
          obtain ⟨takesOff, frames, untaken, same⟩ := ih few
          have more : r.delimiting.bound - r.taken = (r.delimiting.filled front).length +
              (r.delimiting.bound - (r.taken + blanks.length + 1)) := by omega
          refine ⟨?_, ?_, untaken, same⟩
          · rw [cut, more]
            exact takesOff.behind closed
          · rw [cut, more, closed.filled_append, List.take_length_add_append, framesOf_append,
              content, framesOf_append, framesOf_blank blank, framesOf_cons visible, frames]
            rfl

/-! ## Drains one after the other -/

/-- Some drains one after the other, nothing being added between them. -/
def drains : Nat → FrameReader → List Frame × FrameReader
  | 0, r => ([], r)
  | k + 1, r => (r.drain.1 ++ (drains k r.drain.2).1, (drains k r.drain.2).2)

/-- A reader that is new, or whose last attempt gave no frame, with some octets in its buffer. -/
inductive AtRest : FrameReader → Prop
  | new (d : Delimiting) (buffer : Bytes) : AtRest { delimiting := d, buffer }
  | refused {r r' : FrameReader} (nothing : r.next = (none, r')) (buffer : Bytes) :
      AtRest { r' with buffer }

theorem AtRest.taken {r : FrameReader} (rest : r.AtRest) : r.taken = 0 := by
  cases rest with
  | new => rfl
  | @refused _ r' nothing =>
      obtain ⟨advanced, -⟩ := next_advanced nothing
      obtain ⟨d, taken, buffer⟩ := r'
      cases advanced
      rfl

theorem drained_drain {r : FrameReader} (untaken : r.taken = 0) :
    Drained r r.drain.1 r.drain.2 :=
  drained_of_drains r.drains_drain (by omega)

theorem drains_taken (k : Nat) {r : FrameReader} (untaken : r.taken = 0) :
    (drains k r).1 = framesOf ((r.delimiting.filled r.buffer).take (k * r.delimiting.bound)) ∧
      r.delimiting.filled (drains k r).2.buffer =
        (r.delimiting.filled r.buffer).drop (k * r.delimiting.bound) := by
  induction k generalizing r with
  | zero => simp [drains, framesOf]
  | succ k ih =>
      obtain ⟨takesOff, frames, untaken', same⟩ := drained_drain untaken
      have left := takesOff.filled
      rw [untaken, Nat.sub_zero] at left frames
      obtain ⟨frames', left'⟩ := ih untaken'
      rw [same, left] at frames' left'
      rw [drains, Nat.succ_mul, Nat.add_comm (k * _)]
      refine ⟨?_, ?_⟩
      · rw [frames, frames', List.take_add, framesOf_append]
      · rw [left', List.drop_drop]

/-- A drain takes as many segments with octets off the buffer as the limit allows, blank ones
included, together with the empty ones between and directly behind them, and touches nothing behind
these. If the limit allows all of them, no delimiter is left; and as many drains as it takes to come
to all of them yield all frames. -/
theorem drain_within_limit (r : FrameReader) (rest : r.AtRest) :
    let segments := r.delimiting.filled r.buffer
    let limit := r.delimiting.bound
    let rounds := (segments.length + limit - 1) / limit
    Drains r r.drain.1 r.drain.2 ∧
      r.delimiting.TakesOff (min segments.length limit) r.buffer r.drain.2.buffer ∧
      r.drain.1 = framesOf (segments.take limit) ∧
      (segments.length ≤ limit → r.delimiting.delimiter ∉ r.drain.2.buffer) ∧
      (∀ k, (drains k r).1 = framesOf (segments.take (k * limit)) ∧
        r.delimiting.filled (drains k r).2.buffer = segments.drop (k * limit)) ∧
      (drains rounds r).1 = r.delimiting.reference r.buffer ∧
      r.delimiting.filled (drains rounds r).2.buffer = [] := by
  intro segments limit rounds
  have untaken := rest.taken
  obtain ⟨takesOff, frames, -, -⟩ := drained_drain untaken
  rw [untaken, Nat.sub_zero] at takesOff frames
  have all : segments.length ≤ rounds * limit := by
    have positive : 0 < limit := Nat.le_max_left ..
    have whole : limit * rounds + (segments.length + limit - 1) % limit =
        segments.length + limit - 1 := Nat.div_add_mod ..
    have left := Nat.mod_lt (segments.length + limit - 1) positive
    rw [Nat.mul_comm]
    omega
  have every (k : Nat) := drains_taken k untaken
  refine ⟨r.drains_drain, ?_, frames, takesOff.notMem, every, ?_, ?_⟩
  · obtain ⟨⟨front, cut, closed, taken⟩, ahead⟩ := takesOff
    have same : segments.take limit = segments.take (min segments.length limit) :=
      List.take_eq_take_iff.mpr (by omega)
    exact ⟨⟨front, cut, closed, taken.trans same⟩, ahead⟩
  · rw [(every rounds).1, List.take_of_length_le all, reference_eq_framesOf]
  · rw [(every rounds).2, List.drop_eq_nil_of_le all]

/-- With a limit of two, a drain leaves the third segment with octets, and two drains leave none. -/
theorem drain_within_limit_two :
    let r : FrameReader :=
      { delimiting := { limit := 2 }
        buffer := [0x04, 0x20, 0x04, 0x04, 0x7B, 0x04, 0x04, 0x31, 0x04, 0x32] }
    r.AtRest ∧ r.delimiting.TakesOff 2 r.buffer r.drain.2.buffer ∧
      r.delimiting.filled (drains 2 r).2.buffer = [] := by
  intro r
  have rest : r.AtRest := .new { limit := 2 } _
  have segments : r.delimiting.filled r.buffer = [[0x20], [0x7B], [0x31]] := by decide
  obtain ⟨-, takesOff, -, -, -, -, left⟩ := drain_within_limit r rest
  have bound : r.delimiting.bound = 2 := rfl
  rw [segments, bound] at takesOff left
  exact ⟨rest, takesOff, left⟩

end FrameReader

end DebugAdapter.Framing
