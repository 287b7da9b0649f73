import DebugAdapter.Proofs.Framing.Reference
/-!
# Reading against the reference

However octets are added to a buffer and frames are asked of it, the frames taken and those that
are still in the buffer are the frames of all the octets. The limit only puts frames off.
-/

namespace DebugAdapter.Framing.FrameReader

/-! ## One attempt -/

section

variable (d : Delimiting)

/-- An attempt takes segments off the front of the buffer, whatever octets follow later; they give
the frame, if there is one, and are blank otherwise. -/
theorem take_segments (taken : Nat) (segment bs more : Bytes) (free : d.delimiter ∉ segment) :
    ∃ front, d.segments (segment.reverse ++ (bs ++ more)) =
        front ++ d.segments ((take d taken segment bs).buffer ++ more) ∧
      front.filterMap Delimiting.frameOf? = (take d taken segment bs).frame.toList := by
  have free' : d.delimiter ∉ segment.reverse := fun mem => free (List.mem_reverse.mp mem)
  -- `segment` is what has been read of the present segment, backwards: no delimiter is in it.
  fun_induction take d taken segment bs with
  | case1 taken segment => exact ⟨[], rfl, rfl⟩
  | case2 taken segment rest isEmpty ih =>
      cases List.isEmpty_iff.mp isEmpty
      obtain ⟨front, cut, frames⟩ := ih List.not_mem_nil List.not_mem_nil
      refine ⟨[] :: front, ?_, frames⟩
      rw [List.cons_append, d.segments_cons free', List.cons_append]
      exact congrArg ([] :: ·) cut
  | case3 taken segment rest _ _ => exact ⟨[], by simp, rfl⟩
  | case4 taken segment rest _ _ blank ih =>
      obtain ⟨front, cut, frames⟩ := ih List.not_mem_nil List.not_mem_nil
      refine ⟨segment.reverse :: front, ?_, ?_⟩
      · rw [List.cons_append, d.segments_cons free', List.cons_append]
        exact congrArg (segment.reverse :: ·) cut
      · rw [List.filterMap_cons_none blank, frames]
  | case5 taken segment rest _ _ f frame =>
      refine ⟨[segment.reverse], ?_, ?_⟩
      · rw [List.cons_append, d.segments_cons free', List.singleton_append]
      · rw [List.filterMap_cons_some frame]
        rfl
  | case6 taken segment b rest other ih =>
      have free'' : d.delimiter ∉ b :: segment :=
        List.not_mem_cons_of_ne_of_not_mem (Ne.symm other) free
      obtain ⟨front, cut, frames⟩ := ih free'' (fun mem => free'' (List.mem_reverse.mp mem))
      refine ⟨front, ?_, frames⟩
      rw [← cut, List.reverse_cons, List.append_assoc]
      rfl

/-- An attempt comes closer to the end of the buffer or to the next refill, unless no frame is left
in the buffer. -/
theorem take_measure (taken : Nat) (segment bs : Bytes) (free : d.delimiter ∉ segment) :
    let a := take d taken segment bs
    a.taken + a.buffer.length ≤ taken + (segment.length + bs.length) ∧
      (d.reference a.buffer = [] ∨
        a.taken + a.buffer.length < taken + (segment.length + bs.length)) := by
  fun_induction take d taken segment bs with
  | case1 taken segment =>
      refine ⟨?_, .inl (d.reference_of_notMem (fun mem => free (List.mem_reverse.mp mem)))⟩
      simp only [List.length_reverse, List.length_nil]
      omega
  | case2 taken segment rest _ ih =>
      obtain ⟨le, later⟩ := ih List.not_mem_nil
      simp only [List.length_nil, List.length_cons] at le later ⊢
      exact ⟨by omega, later.imp_right (fun less => by omega)⟩
  | case3 taken segment rest _ full =>
      -- Nothing is taken out of the buffer, but the count starts over.
      have : 1 ≤ d.bound := Nat.le_max_left ..
      simp only [List.length_append, List.length_reverse, List.length_cons]
      exact ⟨by omega, .inr (by omega)⟩
  | case4 taken segment rest nonempty _ _ ih =>
      have : 0 < segment.length := List.length_pos_iff.mpr (by simpa using nonempty)
      obtain ⟨le, later⟩ := ih List.not_mem_nil
      simp only [List.length_nil, List.length_cons] at le later ⊢
      exact ⟨by omega, later.imp_right (fun less => by omega)⟩
  | case5 taken segment rest nonempty _ f _ =>
      have : 0 < segment.length := List.length_pos_iff.mpr (by simpa using nonempty)
      simp only [List.length_cons]
      exact ⟨by omega, .inr (by omega)⟩
  | case6 taken segment b rest other ih =>
      obtain ⟨le, later⟩ := ih (List.not_mem_cons_of_ne_of_not_mem (Ne.symm other) free)
      simp only [List.length_cons] at le later ⊢
      exact ⟨by omega, later.imp_right (fun less => by omega)⟩

end

/-! ## Runs -/

/-- What a reader's owner does with it. -/
inductive Call where
  | append (bs : Bytes)
  | decode

namespace Call

/-- The octets a call adds. -/
def octets : Call → Bytes
  | .append bs => bs
  | .decode => []

end Call

/-- One call: the frame it yields, if it yields one. -/
def perform (r : FrameReader) : Call → List Frame × FrameReader
  | .append bs => ([], r.feed bs)
  | .decode => (r.next.1.toList, r.next.2)

/-- The frames that calls yield one after the other. -/
def run (r : FrameReader) : List Call → List Frame × FrameReader
  | [] => ([], r)
  | call :: calls =>
    let first := r.perform call
    let others := first.2.run calls
    (first.1 ++ others.1, others.2)

theorem run_append (r : FrameReader) (calls others : List Call) :
    r.run (calls ++ others) =
      ((r.run calls).1 ++ ((r.run calls).2.run others).1, ((r.run calls).2.run others).2) := by
  induction calls generalizing r with
  | nil => rfl
  | cons call calls ih => simp only [List.cons_append, run, ih, List.append_assoc]

@[simp]
theorem perform_delimiting (r : FrameReader) (call : Call) :
    (r.perform call).2.delimiting = r.delimiting := by
  cases call <;> rfl

@[simp]
theorem run_delimiting (r : FrameReader) (calls : List Call) :
    (r.run calls).2.delimiting = r.delimiting := by
  induction calls generalizing r with
  | nil => rfl
  | cons call calls ih => rw [run, ih, perform_delimiting]

theorem perform_segments (r : FrameReader) (call : Call) (more : Bytes) :
    ∃ front, r.delimiting.segments (r.buffer ++ (call.octets ++ more)) =
        front ++ r.delimiting.segments ((r.perform call).2.buffer ++ more) ∧
      front.filterMap Delimiting.frameOf? = (r.perform call).1 := by
  cases call with
  | append bs => exact ⟨[], by simp [perform, feed, Call.octets], rfl⟩
  | decode => exact take_segments r.delimiting r.taken [] r.buffer more List.not_mem_nil

/-- Calls take segments off the front of the octets and yield the frames in them. -/
theorem run_segments (r : FrameReader) (calls : List Call) (more : Bytes) :
    ∃ front, r.delimiting.segments (r.buffer ++ (calls.flatMap Call.octets ++ more)) =
        front ++ r.delimiting.segments ((r.run calls).2.buffer ++ more) ∧
      front.filterMap Delimiting.frameOf? = (r.run calls).1 := by
  induction calls generalizing r with
  | nil => exact ⟨[], rfl, rfl⟩
  | cons call calls ih =>
      obtain ⟨first, cut, yielded⟩ := r.perform_segments call (calls.flatMap Call.octets ++ more)
      obtain ⟨others, cut', yielded'⟩ := ih (r.perform call).2
      rw [perform_delimiting] at cut'
      refine ⟨first ++ others, ?_, ?_⟩
      · rw [List.flatMap_cons, List.append_assoc, cut, cut', List.append_assoc]
        rfl
      · rw [List.filterMap_append, yielded, yielded']
        rfl

theorem run_reference (r : FrameReader) (calls : List Call) :
    (r.run calls).1 ++ r.delimiting.reference (r.run calls).2.buffer =
      r.delimiting.reference (r.buffer ++ calls.flatMap Call.octets) := by
  obtain ⟨front, cut, yielded⟩ := r.run_segments calls []
  rw [List.append_nil, List.append_nil] at cut
  rw [Delimiting.reference_eq_filterMap, Delimiting.reference_eq_filterMap, cut,
    List.filterMap_append, yielded]

/-! ## Nothing stays behind -/

/-- What bounds the number of attempts until no frame is left in the buffer. -/
def measure (r : FrameReader) : Nat := r.taken + r.buffer.length

theorem next_measure (r : FrameReader) :
    r.next.2.measure ≤ r.measure ∧
      (r.delimiting.reference r.next.2.buffer = [] ∨ r.next.2.measure < r.measure) := by
  have attempt := take_measure r.delimiting r.taken [] r.buffer List.not_mem_nil
  rw [List.length_nil, Nat.zero_add] at attempt
  exact attempt

theorem perform_measure (r : FrameReader) (call : Call) :
    (r.perform call).2.measure ≤ r.measure + call.octets.length := by
  cases call with
  | append bs => simp [perform, feed, measure, Call.octets, Nat.add_assoc]
  | decode => exact r.next_measure.1

theorem run_measure (r : FrameReader) (calls : List Call) :
    (r.run calls).2.measure ≤ r.measure + (calls.flatMap Call.octets).length := by
  induction calls generalizing r with
  | nil => exact Nat.le_refl _
  | cons call calls ih =>
      have first := r.perform_measure call
      have others := ih (r.perform call).2
      rw [List.flatMap_cons, List.length_append]
      exact Nat.le_trans others (by omega)

theorem next_reference_nil (r : FrameReader) (done : r.delimiting.reference r.buffer = []) :
    r.delimiting.reference r.next.2.buffer = [] := by
  have attempt := r.run_reference [.decode]
  rw [List.flatMap_singleton, Call.octets, List.append_nil, done, List.append_eq_nil_iff] at attempt
  exact attempt.2

/-- As many attempts as the measure says leave no frame in the buffer. -/
theorem run_decode_reference (n : Nat) (r : FrameReader)
    (enough : r.delimiting.reference r.buffer = [] ∨ r.measure ≤ n) :
    r.delimiting.reference (r.run (List.replicate n .decode)).2.buffer = [] := by
  induction n generalizing r with
  | zero =>
      cases enough with
      | inl done => exact done
      | inr empty =>
          have : r.buffer = [] := List.length_eq_zero_iff.mp (by unfold measure at empty; omega)
          simp [run, this]
  | succ n ih =>
      refine ih r.next.2 ?_
      cases enough with
      | inl done => exact .inl (r.next_reference_nil done)
      | inr few => exact r.next_measure.2.imp_right (fun less => by omega)

/-- However octets and attempts alternate, the frames taken and those that are still in the buffer
are the frames of all the octets; as many attempts more as there were octets take them all, and a
delimiter keeps what stands before it apart from what stands behind it. -/
theorem run_refines_reference (d : Delimiting) (calls : List Call) :
    let bs := calls.flatMap Call.octets
    let r : FrameReader := { delimiting := d }
    (r.run calls).1 ++ d.reference (r.run calls).2.buffer = d.reference bs ∧
      (r.run (calls ++ List.replicate bs.length .decode)).1 = d.reference bs ∧
      ∀ front rest, d.reference (front ++ d.delimiter :: rest) =
        d.reference (front ++ [d.delimiter]) ++ d.reference rest := by
  intro bs r
  refine ⟨?_, ?_, d.reference_append_cons⟩
  · exact r.run_reference calls
  · have few : (r.run calls).2.measure ≤ bs.length := by
      have := r.run_measure calls
      rw [show r.measure = 0 from rfl, Nat.zero_add] at this
      exact this
    have all := r.run_reference (calls ++ List.replicate bs.length .decode)
    have none_ := (r.run calls).2.run_decode_reference bs.length (.inr few)
    rw [run_delimiting] at none_
    have silent : (List.replicate bs.length Call.decode).flatMap Call.octets = [] := by
      simp [List.flatMap_replicate, Call.octets]
    rw [List.flatMap_append, silent, List.append_nil, run_append r calls, none_,
      List.append_nil] at all
    rw [run_append r calls]
    exact all

end DebugAdapter.Framing.FrameReader
