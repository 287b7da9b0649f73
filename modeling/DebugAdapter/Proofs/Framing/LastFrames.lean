import DebugAdapter.Proofs.Framing.RoundTrip
/-!
# The last frames of a stream

At the end of a stream the count of frames starts over before each attempt, so the limit puts off no
frame that follows another one. But blank segments count and give no frame: where as many of them as
the limit allows stand one behind the other, an attempt finds nothing, although more may follow, and
everything that does is given up together with what no delimiter follows.
-/

namespace DebugAdapter.Framing

open Interpreter (Message)

namespace Delimiting

/-- The segments that hold any octets. -/
def filled (d : Delimiting) (bs : Bytes) : List Bytes :=
  (d.segments bs).filter fun segment => !segment.isEmpty

/-- The frames in some segments. -/
def framesOf (segments : List Bytes) : List Frame :=
  (segments.filter fun segment => !isBlankSegment segment).map verdict

/-- Octets at whose end no segment is left open. -/
def Closed (d : Delimiting) (bs : Bytes) : Prop := bs = [] ∨ bs.getLast? = some d.delimiter

/-- Whether the first `n` segments are there and blank. -/
def Stalls (n : Nat) (segments : List Bytes) : Prop :=
  n ≤ segments.length ∧ ∀ segment ∈ segments.take n, isBlankSegment segment = true

variable (d : Delimiting)

theorem framesOf_append (segments others : List Bytes) :
    framesOf (segments ++ others) = framesOf segments ++ framesOf others := by
  rw [framesOf, List.filter_append, List.map_append]
  rfl

theorem framesOf_blank {segments : List Bytes}
    (blank : ∀ segment ∈ segments, isBlankSegment segment = true) : framesOf segments = [] := by
  rw [framesOf, List.map_eq_nil_iff, List.filter_eq_nil_iff]
  intro segment member
  simp [blank segment member]

theorem framesOf_cons {segment : Bytes} (visible : isBlankSegment segment = false)
    (segments : List Bytes) :
    framesOf (segment :: segments) = verdict segment :: framesOf segments := by
  rw [framesOf, List.filter_cons_of_pos (by simpa using visible)]
  rfl

/-- Segments without octets say nothing. -/
theorem reference_eq_framesOf (bs : Bytes) : d.reference bs = framesOf (d.filled bs) := by
  rw [reference, framesOf, filled, List.filter_filter]
  refine congrArg (List.map verdict) (List.filter_congr fun segment _ => ?_)
  cases segment with
  | nil => rfl
  | cons b rest => exact (Bool.and_true _).symm

theorem filled_of_notMem {bs : Bytes} (free : d.delimiter ∉ bs) : d.filled bs = [] := by
  rw [filled, segments_of_notMem d free, List.filter_nil]

theorem filled_nil_cons (rest : Bytes) : d.filled (d.delimiter :: rest) = d.filled rest := by
  have cut : d.segments ([] ++ d.delimiter :: rest) = [] :: d.segments rest :=
    d.segments_cons List.not_mem_nil rest
  rw [List.nil_append] at cut
  rw [filled, cut]
  rfl

theorem filled_cons {segment : Bytes} (free : d.delimiter ∉ segment) (some_ : segment ≠ [])
    (rest : Bytes) : d.filled (segment ++ d.delimiter :: rest) = segment :: d.filled rest := by
  rw [filled, d.segments_cons free, List.filter_cons_of_pos (by simpa using some_)]
  rfl

theorem closed_cons (segment : Bytes) {rest : Bytes} (closed : Closed d rest) :
    Closed d (segment ++ d.delimiter :: rest) := by
  obtain rfl | last := closed
  · exact .inr List.getLast?_concat
  · refine .inr ?_
    rw [List.getLast?_append, List.getLast?_cons, last]
    rfl

theorem Closed.append {d : Delimiting} {front back : Bytes} (closed : Closed d front)
    (closed' : Closed d back) : Closed d (front ++ back) := by
  obtain rfl | last := closed'
  · rwa [List.append_nil]
  · refine .inr ?_
    rw [List.getLast?_append, last]
    rfl

/-- What stands before a closed end and what stands behind it are cut apart. -/
theorem Closed.filled_append {d : Delimiting} {front : Bytes} (closed : Closed d front)
    (rest : Bytes) : d.filled (front ++ rest) = d.filled front ++ d.filled rest := by
  obtain rfl | last := closed
  · rw [List.nil_append, d.filled_of_notMem List.not_mem_nil, List.nil_append]
  · obtain ⟨before, rfl⟩ := List.getLast?_eq_some_iff.mp last
    have alone := d.segments_append_cons before []
    rw [segments_of_notMem d List.not_mem_nil, List.append_nil] at alone
    rw [filled, filled, filled, List.append_assoc, List.singleton_append, segments_append_cons,
      alone, List.filter_append]

/-- Where a frame follows in time, the segments before it do not stall. -/
theorem not_stalls_of_frame {n k : Nat} {blanks rest : List Bytes} {segment : Bytes}
    (few : blanks.length < n) (visible : isBlankSegment segment = false) (le : k ≤ blanks.length) :
    ¬ Stalls n ((blanks ++ segment :: rest).drop k) := by
  rintro ⟨-, blank⟩
  have member : segment ∈ ((blanks ++ segment :: rest).drop k).take n := by
    rw [List.drop_append_of_le_length le, List.take_append]
    refine List.mem_append_right _ ?_
    obtain ⟨m, more⟩ : ∃ m, n - (blanks.drop k).length = m + 1 :=
      ⟨n - (blanks.drop k).length - 1, by rw [List.length_drop]; omega⟩
    rw [more, List.take_succ_cons]
    exact List.mem_cons_self
  cases visible.symm.trans (blank segment member)

end Delimiting

open Delimiting

namespace FrameReader

/-! ## One attempt -/

/-- What an attempt makes of the octets, if `taken` frames have been taken before: it takes closed
octets off their front, in which only the last segment can be other than blank. -/
inductive Advanced (d : Delimiting) (taken : Nat) (bs : Bytes) : Attempt → Prop
  /-- The last segment taken off is a frame. -/
  | frame {front buffer segment : Bytes} {blanks : List Bytes} (cut : bs = front ++ buffer)
      (closed : Closed d front) (content : d.filled front = blanks ++ [segment])
      (blank : ∀ s ∈ blanks, isBlankSegment s = true) (few : taken + blanks.length < d.bound)
      (visible : isBlankSegment segment = false) :
      Advanced d taken bs ⟨some (verdict segment), taken + blanks.length + 1, buffer⟩
  /-- No delimiter is left, or the limit has been reached. -/
  | nothing {front buffer : Bytes} (cut : bs = front ++ buffer) (closed : Closed d front)
      (blank : ∀ s ∈ d.filled front, isBlankSegment s = true)
      (count : (d.filled front).length ≤ d.bound - taken)
      (ahead : buffer.head? ≠ some d.delimiter)
      (reached : d.delimiter ∉ buffer ∨ (d.filled front).length = d.bound - taken) :
      Advanced d taken bs ⟨none, 0, buffer⟩

/-- An empty segment is passed over. -/
theorem Advanced.skip {d : Delimiting} {taken : Nat} {bs : Bytes} {a : Attempt}
    (advanced : Advanced d taken bs a) : Advanced d taken (d.delimiter :: bs) a := by
  cases advanced with
  | @frame front buffer _ _ cut closed content blank few visible =>
      have cut' : d.delimiter :: bs = (d.delimiter :: front) ++ buffer := congrArg _ cut
      have content' := (d.filled_nil_cons front).trans content
      exact .frame cut' (d.closed_cons [] closed) content' blank few visible
  | @nothing front buffer cut closed blank count ahead reached =>
      have cut' : d.delimiter :: bs = (d.delimiter :: front) ++ buffer := congrArg _ cut
      rw [← d.filled_nil_cons] at blank count reached
      exact .nothing cut' (d.closed_cons [] closed) blank count ahead reached

/-- A blank segment is passed over, and counts. -/
theorem Advanced.cons {d : Delimiting} {taken : Nat} {segment bs : Bytes} {a : Attempt}
    (free : d.delimiter ∉ segment) (some_ : segment ≠ []) (below : taken < d.bound)
    (blank : isBlankSegment segment = true) (advanced : Advanced d (taken + 1) bs a) :
    Advanced d taken (segment ++ d.delimiter :: bs) a := by
  cases advanced with
  | @frame front buffer last blanks cut closed content others few visible =>
      have cut' : segment ++ d.delimiter :: bs = (segment ++ d.delimiter :: front) ++ buffer := by
        rw [cut, List.append_assoc, List.cons_append]
      have content' : d.filled (segment ++ d.delimiter :: front) =
          (segment :: blanks) ++ [last] := by
        rw [d.filled_cons free some_, content, List.cons_append]
      have few' : taken + (segment :: blanks).length < d.bound := by
        rw [List.length_cons]
        omega
      have advanced := Advanced.frame cut' (d.closed_cons segment closed) content'
        (List.forall_mem_cons.mpr ⟨blank, others⟩) few' visible
      have count : taken + (segment :: blanks).length + 1 = taken + 1 + blanks.length + 1 := by
        rw [List.length_cons]
        omega
      rwa [count] at advanced
  | @nothing front buffer cut closed others count ahead reached =>
      have cut' : segment ++ d.delimiter :: bs = (segment ++ d.delimiter :: front) ++ buffer := by
        rw [cut, List.append_assoc, List.cons_append]
      have content' := d.filled_cons free some_ front
      refine .nothing cut' (d.closed_cons segment closed) ?_ ?_ ahead ?_
      · rw [content']
        exact List.forall_mem_cons.mpr ⟨blank, others⟩
      · rw [content', List.length_cons]
        omega
      · rw [content', List.length_cons]
        exact reached.imp_right fun full => by omega

theorem head?_ne_of_notMem {b : UInt8} {front rest : Bytes} (free : b ∉ front)
    (some_ : front ≠ []) : (front ++ rest).head? ≠ some b := by
  cases front with
  | nil => exact absurd rfl some_
  | cons c front =>
      intro first
      cases first
      exact free List.mem_cons_self

theorem take_advanced {d : Delimiting} (taken : Nat) (segment bs : Bytes)
    (free : d.delimiter ∉ segment) :
    Advanced d taken (segment.reverse ++ bs) (take d taken segment bs) := by
  have free' : d.delimiter ∉ segment.reverse := fun member => free (List.mem_reverse.mp member)
  have nonempty {segment : Bytes} (some_ : ¬ segment.isEmpty = true) : segment.reverse ≠ [] :=
    fun none_ => some_ (by simpa using none_)
  have nothing : d.filled [] = [] := d.filled_of_notMem List.not_mem_nil
  fun_induction take d taken segment bs with
  | case1 taken segment =>
      rw [List.append_nil]
      refine .nothing (List.nil_append _).symm (.inl rfl) ?_ ?_ ?_ (.inl free')
      · simp [nothing]
      · simp [nothing]
      · exact fun first => free' (List.mem_of_mem_head? first)
  | case2 taken segment rest empty ih =>
      cases List.isEmpty_iff.mp empty
      exact (ih List.not_mem_nil List.not_mem_nil).skip
  | case3 taken segment rest some_ full =>
      refine .nothing (List.nil_append _).symm (.inl rfl) ?_ ?_
        (head?_ne_of_notMem free' (nonempty some_)) (.inr ?_)
      · simp [nothing]
      · simp [nothing]
      · simp [nothing, Nat.sub_eq_zero_of_le full]
  | case4 taken segment rest some_ below none_ ih =>
      have blank : isBlankSegment segment.reverse = true := by
        rw [frameOf?_eq] at none_
        simpa using none_
      exact (ih List.not_mem_nil List.not_mem_nil).cons free' (nonempty some_)
        (Nat.not_le.mp below) blank
  | case5 taken segment rest some_ below f reads =>
      rw [frameOf?_eq] at reads
      split at reads
      · cases reads
      · rename_i visible
        cases reads
        have cut : segment.reverse ++ d.delimiter :: rest =
            (segment.reverse ++ [d.delimiter]) ++ rest := by
          rw [List.append_assoc, List.singleton_append]
        have content : d.filled (segment.reverse ++ [d.delimiter]) = [] ++ [segment.reverse] := by
          rw [d.filled_cons free' (nonempty some_), nothing, List.nil_append]
        exact .frame cut (d.closed_cons segment.reverse (.inl rfl)) content (List.forall_mem_nil _)
          (Nat.not_le.mp below) (Bool.eq_false_iff.mpr visible)
  | case6 taken segment b rest other ih =>
      have free'' : d.delimiter ∉ b :: segment :=
        List.not_mem_cons_of_ne_of_not_mem (Ne.symm other) free
      have same : (b :: segment).reverse ++ rest = segment.reverse ++ b :: rest := by simp
      rw [← same]
      exact ih free'' fun member => free'' (List.mem_reverse.mp member)

/-- What an attempt comes to, out of some segments, if `taken` frames have been taken before. -/
inductive Attempted (d : Delimiting) (taken : Nat) (segments : List Bytes) : Attempt → Prop
  /-- The first segment that is not blank gives a frame. -/
  | frame {blanks : List Bytes} {segment : Bytes} {taken' : Nat} {buffer : Bytes}
      (cut : segments = blanks ++ segment :: d.filled buffer)
      (blank : ∀ s ∈ blanks, isBlankSegment s = true) (few : taken + blanks.length < d.bound)
      (visible : isBlankSegment segment = false) :
      Attempted d taken segments ⟨some (verdict segment), taken', buffer⟩
  /-- As many segments as the limit allows are blank, or all of them. -/
  | nothing {taken' : Nat} {buffer : Bytes}
      (blank : ∀ s ∈ segments.take (d.bound - taken), isBlankSegment s = true) :
      Attempted d taken segments ⟨none, taken', buffer⟩

variable {d : Delimiting}

theorem take_attempted (taken : Nat) (segment bs : Bytes) (free : d.delimiter ∉ segment) :
    Attempted d taken (d.filled (segment.reverse ++ bs)) (take d taken segment bs) := by
  have advanced := take_advanced taken segment bs free
  generalize take d taken segment bs = a at advanced
  cases advanced with
  | frame cut closed content blank few visible =>
      refine .frame ?_ blank few visible
      rw [cut, closed.filled_append, content, List.append_assoc, List.singleton_append]
  | @nothing front buffer cut closed blank count ahead reached =>
      refine .nothing ?_
      rw [cut, closed.filled_append]
      obtain none_ | full := reached
      · rw [d.filled_of_notMem none_, List.append_nil]
        exact fun s member => blank s (List.mem_of_mem_take member)
      · rw [← full, List.take_left]
        exact blank

/-! ## All attempts -/

/-- Each attempt is one after no frame; the first one without a frame gives the buffer up. -/
theorem drainAtEnd_take (r : FrameReader) :
    r.drainAtEnd =
      match take r.delimiting 0 [] r.buffer with
      | ⟨none, taken, _⟩ => ([], { r with taken, buffer := [] })
      | ⟨some f, taken, buffer⟩ =>
        (f :: ({ r with taken, buffer } : FrameReader).drainAtEnd.1,
          ({ r with taken, buffer } : FrameReader).drainAtEnd.2) := by
  rw [drainAtEnd_eq, nextAtEnd, next]
  dsimp only
  rcases take r.delimiting 0 [] r.buffer with ⟨_ | f, taken, buffer⟩ <;> rfl

/-- At the end of a stream the frames of the segments are taken in order, up to where as many blank
ones as the limit allows stand one behind the other; what follows there is given up, and with it its
frames. Nothing is left in the buffer. -/
theorem drainAtEnd_until_stall (r : FrameReader) :
    ∃ kept lost, r.delimiting.filled r.buffer = kept ++ lost ∧
      (∀ k < kept.length, ¬ Stalls r.delimiting.bound ((kept ++ lost).drop k)) ∧
      (lost = [] ∨ Stalls r.delimiting.bound lost) ∧
      r.drainAtEnd.1 = framesOf kept ∧
      r.delimiting.reference r.buffer = r.drainAtEnd.1 ++ framesOf lost ∧
      r.drainAtEnd.2.buffer = [] := by
  suffices drained : ∃ kept lost, r.delimiting.filled r.buffer = kept ++ lost ∧
      (∀ k < kept.length, ¬ Stalls r.delimiting.bound ((kept ++ lost).drop k)) ∧
      (lost = [] ∨ Stalls r.delimiting.bound lost) ∧
      r.drainAtEnd.1 = framesOf kept ∧ r.drainAtEnd.2.buffer = [] by
    obtain ⟨kept, lost, cut, going, stalled, frames, empty⟩ := drained
    refine ⟨kept, lost, cut, going, stalled, frames, ?_, empty⟩
    rw [reference_eq_framesOf, cut, framesOf_append, frames]
  have attempted := take_attempted (d := r.delimiting) 0 [] r.buffer List.not_mem_nil
  have shorter := take_length r.delimiting 0 [] r.buffer
  rw [List.reverse_nil, List.nil_append] at attempted
  rw [drainAtEnd_take]
  generalize take r.delimiting 0 [] r.buffer = a at attempted shorter
  cases attempted with
  | @frame blanks segment taken buffer cut blank few visible =>
      have shorter : buffer.length < r.buffer.length := by simpa using shorter
      obtain ⟨kept, lost, cut', going, stalled, frames, -, empty⟩ :=
        drainAtEnd_until_stall { r with taken, buffer }
      refine ⟨blanks ++ segment :: kept, lost, ?_, ?_, stalled, ?_, empty⟩
      · rw [cut, cut', List.append_assoc]
        rfl
      · intro k inside
        rw [List.append_assoc, List.cons_append]
        obtain early | later := Nat.lt_or_ge blanks.length k
        · obtain ⟨k, rfl⟩ := Nat.exists_eq_add_of_lt early
          rw [List.length_append, List.length_cons] at inside
          rw [Nat.add_assoc, List.drop_append, List.drop_eq_nil_of_le (by omega), List.nil_append,
            Nat.add_sub_cancel_left, List.drop_succ_cons]
          exact going k (by omega)
        · rw [Nat.zero_add] at few
          exact not_stalls_of_frame few visible later
      · rw [framesOf_append, framesOf_blank blank, framesOf_cons visible, List.nil_append, ← frames]
  | nothing blank =>
      rw [Nat.sub_zero] at blank
      obtain few | many := Nat.lt_or_ge (r.delimiting.filled r.buffer).length r.delimiting.bound
      · rw [List.take_of_length_le (Nat.le_of_lt few)] at blank
        refine ⟨_, [], (List.append_nil _).symm, fun k _ stalls => ?_, .inl rfl,
          (framesOf_blank blank).symm, rfl⟩
        have enough := stalls.1
        rw [List.length_drop, List.length_append, List.length_nil] at enough
        omega
      · exact ⟨[], _, rfl, fun _ inside => absurd inside (Nat.not_lt_zero _), .inr ⟨many, blank⟩,
          rfl, rfl⟩
termination_by r.buffer.length

/-- With a limit of one, a blank segment keeps the message behind it from being taken. -/
theorem drainAtEnd_behind_blank :
    let m : Message := { type := "a", id := "1", reply := none, data := .null }
    let r : FrameReader :=
      { delimiting := { limit := 1 }, buffer := [0x20] ++ 0x04 :: (m.encode.bytes ++ [0x04]) }
    r.drainAtEnd.1 = [] ∧ r.delimiting.reference r.buffer = [.ok m] := by
  intro m r
  have faithful : m.Faithful := { ordered := trivial, integral := trivial, nested := by decide }
  have free : (0x04 : UInt8) ∉ m.encode.bytes := by decide
  have cut : r.delimiting.segments r.buffer = [[0x20], m.encode.bytes] := by
    have blank : (0x04 : UInt8) ∉ ([0x20] : Bytes) := by decide
    rw [r.delimiting.segments_cons blank, r.delimiting.segments_cons free,
      r.delimiting.segments_of_notMem List.not_mem_nil]
  refine ⟨List.isEmpty_iff.mp (by decide +kernel), ?_⟩
  rw [reference_eq_filterMap, cut, List.filterMap_cons_none (by rfl),
    List.filterMap_cons_some (frameOf?_encode faithful), List.filterMap_nil]

end FrameReader

end DebugAdapter.Framing
