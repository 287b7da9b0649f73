import DebugAdapter.Framing.Intake
import DebugAdapter.Proofs.Framing.RoundTrip
/-!
# Messages on their way through a pipe

A pipe and the buffer behind it hold whole messages. What is written goes behind them, what is taken
is the first of them, and as long as the pipe holds any octets there is one to be taken.
-/

namespace DebugAdapter.Framing

open Interpreter (Message)

variable {d : Delimiting}

/-! ## Octets that are whole messages -/

/-- Octets that end with a delimiter, if there are any, and whose segments are some messages. -/
structure Holds (d : Delimiting) (bs : Bytes) (ms : List Message) : Prop where
  frames : (d.segments bs).map Delimiting.frameOf? = ms.map fun m => some (.ok m)
  closed : ∀ b, bs.getLast? = some b → b = d.delimiter

theorem holds_nil : Holds d [] [] := by
  refine ⟨?_, by simp⟩
  rw [d.segments_of_notMem List.not_mem_nil]
  rfl

theorem segments_closed (front rest : Bytes) :
    d.segments (front ++ [d.delimiter] ++ rest) =
      d.segments (front ++ [d.delimiter]) ++ d.segments rest := by
  rw [List.append_assoc, List.singleton_append, d.segments_append_cons, d.segments_append_cons,
    d.segments_of_notMem List.not_mem_nil, List.append_nil]

theorem Holds.append {bs bs' : Bytes} {ms ms' : List Message} (first : Holds d bs ms)
    (second : Holds d bs' ms') : Holds d (bs ++ bs') (ms ++ ms') := by
  refine ⟨?_, ?_⟩
  · rcases List.eq_nil_or_concat bs with rfl | ⟨front, b, rfl⟩
    · have frames := first.frames
      rw [d.segments_of_notMem List.not_mem_nil] at frames
      rw [List.map_eq_nil_iff.mp frames.symm]
      exact second.frames
    · rw [List.concat_eq_append] at first ⊢
      cases first.closed b (by simp)
      rw [segments_closed, List.map_append, first.frames, second.frames, List.map_append]
  · intro b last
    rw [List.getLast?_append] at last
    cases later : bs'.getLast? with
    | some b' =>
        rw [later, Option.some_or, Option.some_inj] at last
        exact last ▸ second.closed b' later
    | none =>
        rw [later, Option.none_or] at last
        exact first.closed b last

theorem holds_message {m : Message} (faithful : m.Faithful) {wire : Bytes}
    (written : d.encode m = .ok wire) : Holds d wire [m] := by
  obtain ⟨free, rfl⟩ := Delimiting.encode_ok written
  refine ⟨?_, ?_⟩
  · rw [d.segments_cons free, d.segments_of_notMem List.not_mem_nil, List.map_singleton,
      Delimiting.frameOf?_encode faithful]
    rfl
  · intro b last
    simpa using last.symm

/-- What an attempt leaves stands at the end of the octets. -/
theorem take_suffix (d : Delimiting) (taken : Nat) (segment bs : Bytes) :
    (FrameReader.take d taken segment bs).buffer <:+ segment.reverse ++ bs := by
  have behind (segment : Bytes) (b : UInt8) (rest : Bytes) : rest <:+ segment.reverse ++ b :: rest :=
    (List.suffix_cons b rest).trans (List.suffix_append _ _)
  fun_induction FrameReader.take d taken segment bs with
  | case1 taken segment => exact (List.append_nil segment.reverse).symm ▸ List.suffix_refl _
  | case2 taken segment rest _ ih => exact ih.trans (behind segment _ rest)
  | case3 taken segment rest _ _ => exact List.suffix_refl _
  | case4 taken segment rest _ _ _ ih => exact ih.trans (behind segment _ rest)
  | case5 taken segment rest _ _ f _ => exact behind segment _ rest
  | case6 taken segment b rest _ ih => rwa [List.reverse_cons, List.append_assoc] at ih

theorem FrameReader.take_fresh (d : Delimiting) (taken : Nat) (segment bs : Bytes)
    (none_ : (take d taken segment bs).frame = none) : (take d taken segment bs).taken = 0 := by
  fun_induction take d taken segment bs with
  | case1 taken segment => rfl
  | case2 taken segment rest _ ih => exact ih none_
  | case3 taken segment rest _ _ => rfl
  | case4 taken segment rest _ _ _ ih => exact ih none_
  | case5 taken segment rest _ _ f _ => cases none_
  | case6 taken segment b rest _ ih => exact ih none_

theorem Holds.suffix {bs bs' : Bytes} {ms ms' : List Message} (holds : Holds d bs ms)
    (part : bs' <:+ bs)
    (frames : (d.segments bs').map Delimiting.frameOf? = ms'.map fun m => some (.ok m)) :
    Holds d bs' ms' := by
  refine ⟨frames, ?_⟩
  intro b last
  obtain ⟨front, rfl⟩ := part
  refine holds.closed b ?_
  rw [List.getLast?_append, last, Option.some_or]

/-- What is taken off the front of messages are the first ones of them. -/
theorem Holds.cut {bs bs' : Bytes} {ms : List Message} (holds : Holds d bs ms) (part : bs' <:+ bs)
    {front : List Bytes} (cut : d.segments bs = front ++ d.segments bs') :
    ∃ first rest, ms = first ++ rest ∧ Holds d bs' rest ∧
      front.filterMap Delimiting.frameOf? = first.map .ok := by
  have frames := holds.frames
  rw [cut, List.map_append] at frames
  obtain ⟨first, rest, same, taken, left⟩ := List.append_eq_map_iff.mp frames
  refine ⟨first, rest, same, holds.suffix part left.symm, ?_⟩
  have all : (front.map Delimiting.frameOf?).filterMap id = first.map .ok := by
    rw [← taken, List.filterMap_map]
    simp
  simpa [List.filterMap_map, Function.comp_def] using all

/-! ## Taking messages -/

/-- What an attempt of a reader comes to, with more octets to come, out of the messages `ms`. The
count does not keep it from a message if `counted` holds. -/
inductive FrameReader.Drew (d : Delimiting) (octets : Bytes) (ms : List Message) (counted : Prop) :
    Option Frame × FrameReader → Prop where
  | first {r : FrameReader} {m : Message} {rest : List Message} (messages : ms = m :: rest)
      (delimiting : r.delimiting = d) (holds : Holds d (r.buffer ++ octets) rest) :
      Drew d octets ms counted (some (.ok m), r)
  | nothing {r : FrameReader} (delimiting : r.delimiting = d)
      (holds : Holds d (r.buffer ++ octets) ms) (fresh : r.taken = 0)
      (empty : counted → octets = [] → ms = []) : Drew d octets ms counted (none, r)

theorem Holds.next {r : FrameReader} {octets : Bytes} {ms : List Message}
    (holds : Holds d (r.buffer ++ octets) ms) (delimiting : r.delimiting = d) :
    FrameReader.Drew d octets ms (r.taken = 0) r.next := by
  have part := take_suffix d r.taken [] r.buffer
  obtain ⟨front, cut, frame⟩ := FrameReader.take_segments d r.taken [] r.buffer octets
    List.not_mem_nil
  have fresh := FrameReader.take_fresh d r.taken [] r.buffer
  have empty := FrameReader.take_none d r.taken [] r.buffer List.not_mem_nil
  simp only [FrameReader.next, delimiting]
  generalize FrameReader.take d r.taken [] r.buffer = a at part cut frame fresh empty
  rw [List.reverse_nil, List.nil_append] at cut part empty
  obtain ⟨gone, same⟩ := part
  obtain ⟨first, rest, messages, left, taken⟩ := holds.cut
    ⟨gone, by rw [← List.append_assoc, same]⟩ cut
  rw [frame] at taken
  cases found : a.frame with
  | none =>
      rw [found] at taken
      cases List.map_eq_nil_iff.mp taken.symm
      rw [List.nil_append] at messages
      cases messages
      refine .nothing rfl left (fresh found) ?_
      intro start alone
      have frames := holds.frames
      rw [alone, List.append_nil] at frames
      -- Each segment says something, so an attempt that finds nothing has seen all of them.
      have full : ∀ s ∈ d.segments r.buffer, Delimiting.frameOf? s ≠ none := by
        intro s member none_
        have listed := List.mem_map_of_mem (f := Delimiting.frameOf?) member
        rw [frames, none_] at listed
        simp at listed
      have none_ := empty (start ▸ Nat.lt_of_lt_of_le Nat.one_pos (Nat.le_max_left ..)) full found
      rw [none_] at frames
      exact List.map_eq_nil_iff.mp frames.symm
  | some f =>
      rw [found] at taken
      obtain ⟨m, rfl, rfl⟩ := List.map_eq_singleton_iff.mp taken.symm
      exact .first messages rfl left

/-- At the end of the octets the count does not matter. -/
theorem Holds.nextAtEnd {r : FrameReader} {ms : List Message} (holds : Holds d (r.buffer ++ []) ms)
    (delimiting : r.delimiting = d) : FrameReader.Drew d [] ms True r.nextAtEnd := by
  have drew := Holds.next (r := { r with taken := 0 }) holds delimiting
  unfold FrameReader.nextAtEnd
  generalize ({ r with taken := 0 } : FrameReader).next = attempt at drew
  cases drew with
  | first messages delimiting left => exact .first messages delimiting left
  | nothing delimiting left fresh empty =>
      have none_ := empty rfl rfl
      refine .nothing delimiting ?_ fresh fun _ _ => none_
      rw [none_]
      exact holds_nil

theorem Storage.makeRoom_sized {s : Storage} {kept : Nat} (size_pos : 0 < s.size)
    (used_le : s.used ≤ s.size) :
    0 < (s.makeRoom kept).size ∧ (s.makeRoom kept).used ≤ (s.makeRoom kept).size := by
  unfold makeRoom
  split
  · exact ⟨size_pos, used_le⟩
  · split
    · dsimp only
      omega
    · dsimp only
      omega

/-- What an intake and the pipe that it reads hold. -/
structure Intake.Carries (k : Intake) (d : Delimiting) (p : Pipe) (ms : List Message) : Prop where
  delimiting : k.reader.delimiting = d
  holds : Holds d (k.reader.buffer ++ p.octets) ms
  /-- Once the end has been seen, only the buffer may hold any more messages. -/
  ending : k.atEnd = true → p.octets = [] ∧ p.writerGone = true ∧ (k.readable = false → ms = [])
  /-- An attempt that has found nothing starts the count over. -/
  fresh : k.readable = false → k.reader.taken = 0
  size_pos : 0 < k.storage.size
  used_le : k.storage.used ≤ k.storage.size
  burst_lt : k.burst < pipeSize

namespace Intake

variable {k : Intake} {p : Pipe} {ms : List Message}

theorem carries_start (d : Delimiting) : Carries { reader := { delimiting := d } } d {} [] where
  delimiting := rfl
  holds := holds_nil
  ending := fun gone => absurd gone (by simp)
  fresh := fun _ => rfl
  size_pos := Nat.succ_pos _
  used_le := Nat.zero_le _
  burst_lt := Nat.succ_pos _

theorem Carries.going (carries : k.Carries d p ms) (open_ : p.writerGone = false) :
    k.atEnd = false := by
  cases gone : k.atEnd with
  | false => rfl
  | true => exact absurd (carries.ending gone).2.1 (by simp [open_])

/-- More messages are written behind those that are there. -/
theorem Carries.write (carries : k.Carries d p ms) (open_ : p.writerGone = false) {wire : Bytes}
    {more : List Message} (written : Holds d wire more) :
    k.Carries d { p with octets := p.octets ++ wire } (ms ++ more) :=
  { carries with
    holds := by
      rw [← List.append_assoc]
      exact carries.holds.append written
    ending := fun gone => absurd gone (by simp [carries.going open_]) }

/-- The writer goes. -/
theorem Carries.leave (carries : k.Carries d p ms) :
    k.Carries d { p with writerGone := true } ms :=
  { carries with
    ending := fun gone => ⟨(carries.ending gone).1, rfl, (carries.ending gone).2.2⟩ }

/-- What an attempt to take a frame comes to, out of the messages `ms`. -/
inductive Drawn (d : Delimiting) (k : Intake) (p : Pipe) (ms : List Message) :
    Option Frame × Intake → Prop where
  | first {k' : Intake} {m : Message} {rest : List Message} (messages : ms = m :: rest)
      (left : k'.Carries d p rest) : Drawn d k p ms (some (.ok m), k')
  /-- With everything in the buffer and the count at its start, there is none. -/
  | nothing {k' : Intake} (left : k'.Carries d p ms) (unreadable : k'.readable = false)
      (going : k'.atEnd = k.atEnd)
      (empty : k.readable = true → k.reader.taken = 0 → p.octets = [] → ms = []) :
      Drawn d k p ms (none, k')

theorem Carries.draw (carries : k.Carries d p ms) : Drawn d k p ms k.draw := by
  unfold Intake.draw
  cases readable : k.readable with
  | false =>
      rw [if_neg (by simp)]
      exact .nothing carries readable rfl fun ready => absurd ready (by simp [readable])
  | true =>
      rw [if_pos rfl]
      cases gone : k.atEnd with
      | false =>
          rw [if_neg (by simp)]
          have drew := carries.holds.next carries.delimiting
          generalize k.reader.next = attempt at drew
          cases drew with
          | first messages delimiting holds =>
              refine .first messages ?_
              exact { carries with
                delimiting
                holds
                ending := fun gone => absurd gone (by simp)
                fresh := fun unreadable => absurd unreadable (by simp) }
          | nothing delimiting holds fresh empty =>
              refine .nothing ?_ rfl gone.symm fun _ => empty
              exact { carries with
                delimiting
                holds
                ending := fun gone => absurd gone (by simp)
                fresh := fun _ => fresh }
      | true =>
          obtain ⟨empty, writerGone, -⟩ := carries.ending gone
          have whole := carries.holds
          rw [empty] at whole
          have drew := whole.nextAtEnd carries.delimiting
          rw [if_pos rfl]
          generalize k.reader.nextAtEnd = attempt at drew
          cases drew with
          | first messages delimiting holds =>
              refine .first messages ?_
              exact { carries with
                delimiting
                holds := by rwa [empty]
                ending := fun _ => ⟨empty, writerGone, fun unreadable => absurd unreadable (by simp)⟩
                fresh := fun unreadable => absurd unreadable (by simp) }
          | nothing delimiting holds fresh none_ =>
              have none_ := none_ trivial rfl
              refine .nothing ?_ rfl gone.symm fun _ _ _ => none_
              exact { carries with
                delimiting
                holds := by rwa [empty]
                ending := fun _ => ⟨empty, writerGone, fun _ => none_⟩
                fresh := fun _ => fresh }

/-- Octets move from the pipe to the buffer, or the end is seen; otherwise there is nothing left. -/
inductive Filled (d : Delimiting) (k : Intake) (p : Pipe) (ms : List Message) :
    Option (Intake × Pipe) → Prop where
  | idle (empty : p.octets = []) (seen : p.writerGone = true → k.atEnd = true) :
      Filled d k p ms none
  | arrived {k' : Intake} {octets : Bytes} (going : k'.atEnd = k.atEnd)
      (shorter : octets.length < p.octets.length) (left : k'.Carries d { p with octets } ms)
      (ready : k'.readable = true) (taken : k'.reader.taken = k.reader.taken) :
      Filled d k p ms (some (k', { p with octets }))
  | ended {k' : Intake} (empty : p.octets = []) (going : k.atEnd = false) (gone : k'.atEnd = true)
      (left : k'.Carries d p ms) (ready : k'.readable = true)
      (taken : k'.reader.taken = k.reader.taken) : Filled d k p ms (some (k', p))

theorem Carries.fill (carries : k.Carries d p ms) : Filled d k p ms (k.fill? p) := by
  unfold Intake.fill?
  cases empty : p.octets.isEmpty with
  | true =>
      have none_ := List.isEmpty_iff.mp empty
      rw [if_pos rfl]
      split
      · rename_i ends
        rw [Bool.and_eq_true, Bool.not_eq_true'] at ends
        refine .ended none_ ends.2 rfl ?_ rfl rfl
        exact { carries with
          ending := fun _ => ⟨none_, ends.1, fun unreadable => absurd unreadable (by simp)⟩
          fresh := fun unreadable => absurd unreadable (by simp) }
      · rename_i stays
        refine .idle none_ fun gone => ?_
        simpa [gone] using stays
  | false =>
      have some_ : 0 < p.octets.length := by
        rw [List.length_pos_iff, ← List.isEmpty_eq_false_iff]
        exact empty
      have going : k.atEnd = false := by
        cases gone : k.atEnd with
        | false => rfl
        | true => simp [(carries.ending gone).1] at some_
      have kept := carries.used_le
      have pos := carries.size_pos
      have burst := carries.burst_lt
      have roomy := @Storage.room_makeRoom_pos _ k.reader.buffer.length pos kept
      have room_pos : 0 < min (k.storage.makeRoom k.reader.buffer.length).room
          (pipeSize - k.burst) := by omega
      have sized := @Storage.makeRoom_sized _ k.reader.buffer.length pos kept
      rw [if_neg (by simp)]
      dsimp only
      unfold Storage.room at room_pos ⊢
      generalize k.storage.makeRoom k.reader.buffer.length = storage at *
      generalize same : min (storage.size - storage.used) (pipeSize - k.burst) = room at *
      refine .arrived rfl ?_ ?_ rfl rfl
      · rw [List.length_drop]
        omega
      · refine
          { delimiting := carries.delimiting
            holds := ?_
            ending := fun gone => absurd gone (by simp [going])
            fresh := fun unreadable => absurd unreadable (by simp)
            size_pos := sized.1
            used_le := ?_
            burst_lt := ?_ }
        · have whole := carries.holds
          rw [← List.take_append_drop room p.octets] at whole
          simpa only [FrameReader.feed, List.append_assoc] using whole
        · simp only [Storage.fill, List.length_take]
          omega
        · have arrived : (p.octets.take room).length ≤ pipeSize - k.burst := by
            rw [List.length_take]
            omega
          dsimp only
          split
          · exact Nat.succ_pos _
          · rename_i more
            simp only [Bool.or_eq_true, beq_iff_eq, not_or] at more
            omega

/-- What an attempt to take a frame out of a pipe comes to. -/
inductive Taking (d : Delimiting) (p : Pipe) (ms : List Message) : Taken × Intake × Pipe → Prop where
  | first {k' : Intake} {m : Message} {rest : List Message} {octets : Bytes}
      (messages : ms = m :: rest) (left : k'.Carries d { p with octets } rest) :
      Taking d p ms (.frame (.ok m), k', { p with octets })
  /-- Octets in the pipe bring the rest of a message. -/
  | nothing {k' : Intake} {octets : Bytes} (left : k'.Carries d { p with octets } ms)
      (waiting : p.octets ≠ [] → ms = []) : Taking d p ms (.nothing, k', { p with octets })
  | ended {k' : Intake} {octets : Bytes} (gone : p.writerGone = true) (none_ : ms = [])
      (left : k'.Carries d { p with octets } ms) : Taking d p ms (.over, k', { p with octets })

theorem Taking.of_octets {octets : Bytes} {r : Taken × Intake × Pipe}
    (taking : Taking d { p with octets } ms r) (found : octets = [] → ms ≠ [] → r.1 ≠ .nothing) :
    Taking d p ms r := by
  cases taking with
  | first messages left => exact .first messages left
  | nothing left later =>
      refine .nothing left fun _ => ?_
      by_cases more : octets = []
      · by_cases none_ : ms = []
        · exact none_
        · exact absurd rfl (found more none_)
      · exact later more
  | ended gone none_ left => exact .ended gone none_ left

theorem Carries.refill (fuel : Nat) (carries : k.Carries d p ms) (unreadable : k.readable = false)
    (fueled : p.octets.length + (if k.atEnd then 0 else 1) < fuel) :
    Taking d p ms (Intake.refill fuel k p) := by
  -- Each round takes octets out of the pipe, but the last one, which sees that it is at its end.
  induction fuel generalizing k p with
  | zero => omega
  | succ fuel ih =>
      have start := carries.fresh unreadable
      have filled := carries.fill
      rw [Intake.refill]
      generalize k.fill? p = fill at filled
      cases filled with
      | idle empty seen =>
          have stays : k.Carries d { p with octets := p.octets } ms := carries
          cases gone : p.writerGone with
          | true =>
              have none_ := (carries.ending (seen gone)).2.2 unreadable
              rw [empty]
              exact .ended gone none_ stays
          | false =>
              rw [Bool.and_false]
              exact .nothing stays fun some_ => absurd empty some_
      | @arrived k' octets going shorter left ready taken =>
          have drawn := left.draw
          dsimp only
          generalize k'.draw = drew at drawn
          cases drawn with
          | first messages left => exact .first messages left
          | @nothing k'' left unreadable' going' empty =>
              have later := ih left unreadable' (by rw [going', going]; dsimp only; omega)
              refine later.of_octets fun none_ some_ => ?_
              exact absurd (empty ready (taken.trans start) none_) some_
      | @ended k' empty going gone left ready taken =>
          have drawn := left.draw
          dsimp only
          generalize k'.draw = drew at drawn
          cases drawn with
          | first messages left => exact @Taking.first _ p _ _ _ _ p.octets messages left
          | @nothing k'' left unreadable' going' _ =>
              refine ih left unreadable' ?_
              rw [going', gone]
              rw [going] at fueled
              simpa using Nat.lt_of_succ_lt_succ fueled

/-- The first message is taken, if there is one and the pipe is not empty. -/
theorem Carries.take (carries : k.Carries d p ms) : Taking d p ms (k.take p) := by
  rw [Intake.take]
  have drawn := carries.draw
  generalize k.draw = drew at drawn
  cases drawn with
  | first messages left => exact @Taking.first _ p _ _ _ _ p.octets messages left
  | nothing left unreadable _ _ =>
      refine left.refill (p.octets.length + 2) unreadable ?_
      split <;> omega

end Intake

end DebugAdapter.Framing
