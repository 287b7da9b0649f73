import DebugAdapter.Proofs.Framing.Passage
/-!
# A stream that nobody writes any more

An intake never waits for a writer that has gone: each attempt takes a frame, and with it octets, or
finds the end of the stream. So whatever octets are left, the end is found after some attempts.
-/

namespace DebugAdapter.Framing

namespace FrameReader

/-- Whatever an attempt finds, it puts nothing into the buffer. -/
def Spares (attempt : FrameReader → Option Frame × FrameReader) : Prop :=
  ∀ r, (attempt r).2.buffer.length ≤ r.buffer.length

theorem next_spares : Spares next := by
  intro r
  have part := (take_suffix r.delimiting r.taken [] r.buffer).length_le
  rwa [List.reverse_nil, List.nil_append] at part

theorem nextAtEnd_spares : Spares nextAtEnd := by
  intro r
  unfold nextAtEnd
  split
  · rename_i f r' frame
    exact (next_shortens (r := { r with taken := 0 }) frame).le
  · exact Nat.zero_le _

end FrameReader

namespace Intake

/-- Whether the storage is as large as it says. -/
structure Sized (k : Intake) : Prop where
  size_pos : 0 < k.storage.size
  used_le : k.storage.used ≤ k.storage.size
  burst_lt : k.burst < pipeSize

theorem sized_start (r : FrameReader) : Sized { reader := r } :=
  ⟨Nat.succ_pos _, Nat.zero_le _, Nat.succ_pos _⟩

/-- How many octets have not been taken. -/
def left (k : Intake) (p : Pipe) : Nat := k.reader.buffer.length + p.octets.length

variable {k : Intake} {p : Pipe}

/-- A frame is taken out of the buffer, or there is none. -/
theorem draw_cases (sized : k.Sized) (p : Pipe) :
    (∃ f k', k.draw = (some f, k') ∧ k'.Sized ∧ k'.left p < k.left p) ∨
      ∃ k', k.draw = (none, k') ∧ k'.Sized ∧ k'.left p ≤ k.left p ∧ k'.atEnd = k.atEnd := by
  unfold draw
  cases readable : k.readable with
  | false => exact .inr ⟨k, rfl, sized, Nat.le_refl _, rfl⟩
  | true =>
      rw [if_pos rfl]
      have attempt {f : FrameReader → Option Frame × FrameReader} (shortens : FrameReader.Shortens f)
          (spares : FrameReader.Spares f) :
          (∃ frame r, f k.reader = (some frame, r) ∧ r.buffer.length < k.reader.buffer.length) ∨
            ∃ r, f k.reader = (none, r) ∧ r.buffer.length ≤ k.reader.buffer.length := by
        rcases found : f k.reader with ⟨_ | frame, r⟩
        · exact .inr ⟨r, rfl, by rw [show r = (f k.reader).2 by rw [found]]; exact spares _⟩
        · exact .inl ⟨frame, r, rfl, shortens found⟩
      have drawn : (∃ frame r, (if k.atEnd then k.reader.nextAtEnd else k.reader.next) =
            (some frame, r) ∧ r.buffer.length < k.reader.buffer.length) ∨
          ∃ r, (if k.atEnd then k.reader.nextAtEnd else k.reader.next) = (none, r) ∧
            r.buffer.length ≤ k.reader.buffer.length := by
        split
        · exact attempt FrameReader.nextAtEnd_shortens FrameReader.nextAtEnd_spares
        · exact attempt FrameReader.next_shortens FrameReader.next_spares
      obtain ⟨frame, r, found, shorter⟩ | ⟨r, found, spared⟩ := drawn
      · rw [found]
        exact .inl ⟨frame, _, rfl, ⟨sized.size_pos, sized.used_le, sized.burst_lt⟩,
          Nat.add_lt_add_right shorter _⟩
      · rw [found]
        exact .inr ⟨_, rfl, ⟨sized.size_pos, sized.used_le, sized.burst_lt⟩,
          Nat.add_le_add_right spared _, rfl⟩

/-- How many rounds it takes at most until the end of a stream has been seen. -/
def rounds (k : Intake) (p : Pipe) : Nat := p.octets.length + if k.atEnd then 0 else 1

/-- Octets move into the buffer, or the end of the stream is seen, or there is nothing more to see. -/
theorem fill?_cases (sized : k.Sized) (p : Pipe) :
    (k.fill? p = none ∧ p.octets = [] ∧ (p.writerGone = true → k.atEnd = true)) ∨
      ∃ k' p', k.fill? p = some (k', p') ∧ k'.Sized ∧ k'.left p' = k.left p ∧
        p'.writerGone = p.writerGone ∧ k'.rounds p' < k.rounds p := by
  unfold fill?
  cases empty : p.octets.isEmpty with
  | true =>
      have none_ := List.isEmpty_iff.mp empty
      rw [if_pos rfl]
      cases gone : p.writerGone with
      | false => exact .inl ⟨rfl, none_, nofun⟩
      | true =>
          cases seen : k.atEnd with
          | true => exact .inl ⟨rfl, none_, fun _ => rfl⟩
          | false =>
              refine .inr ⟨_, _, rfl, ⟨sized.size_pos, sized.used_le, sized.burst_lt⟩, rfl, gone, ?_⟩
              simp [rounds, seen]
  | false =>
      have some_ : 0 < p.octets.length := by
        rw [List.length_pos_iff, ← List.isEmpty_eq_false_iff]
        exact empty
      have roomy := @Storage.room_makeRoom_pos _ k.reader.buffer.length sized.size_pos sized.used_le
      have burst := sized.burst_lt
      have stored := @Storage.makeRoom_sized _ k.reader.buffer.length sized.size_pos sized.used_le
      rw [if_neg (by simp)]
      dsimp only
      generalize k.storage.makeRoom k.reader.buffer.length = storage at *
      have fits : storage.room = storage.size - storage.used := rfl
      generalize same : min storage.room (pipeSize - k.burst) = room
      refine .inr ⟨_, _, rfl, ⟨stored.1, ?_, ?_⟩, ?_, rfl, ?_⟩
      · simp only [Storage.fill, List.length_take]
        omega
      · have arrived : (p.octets.take room).length ≤ pipeSize - k.burst := by
          rw [List.length_take]
          omega
        dsimp only
        split
        · exact Nat.succ_pos _
        · rename_i more
          simp only [Bool.or_eq_true, beq_iff_eq, not_or] at more
          omega
      · simp only [left, FrameReader.feed, List.length_append, List.length_take, List.length_drop]
        omega
      · simp only [rounds, List.length_drop]
        omega

/-- What an attempt to take a frame comes to when no more octets follow. -/
inductive Exhausts (k : Intake) (p : Pipe) : Taken × Intake × Pipe → Prop
  | frame {f : Frame} {k' : Intake} {p' : Pipe} (sized : k'.Sized) (gone : p'.writerGone = true)
      (fewer : k'.left p' < k.left p) : Exhausts k p (.frame f, k', p')
  | ended {k' : Intake} {p' : Pipe} : Exhausts k p (.over, k', p')

theorem Exhausts.mono {k' : Intake} {p' : Pipe} {r : Taken × Intake × Pipe}
    (exhausts : Exhausts k' p' r) (fewer : k'.left p' ≤ k.left p) : Exhausts k p r := by
  cases exhausts with
  | frame sized gone shorter => exact .frame sized gone (Nat.lt_of_lt_of_le shorter fewer)
  | ended => exact .ended

theorem refill_exhausts (fuel : Nat) (sized : k.Sized) (gone : p.writerGone = true)
    (fueled : k.rounds p < fuel) : Exhausts k p (Intake.refill fuel k p) := by
  induction fuel generalizing k p with
  | zero => omega
  | succ fuel ih =>
      rw [Intake.refill]
      obtain ⟨none_, empty, -⟩ | ⟨k₁, p₁, filled, sized₁, same, gone₁, fewer⟩ := fill?_cases sized p
      · rw [none_, empty, gone]
        exact .ended
      · rw [filled]
        dsimp only
        obtain ⟨f, k₂, drawn, sized₂, shorter⟩ | ⟨k₂, drawn, sized₂, shorter, atEnd⟩ :=
          draw_cases sized₁ p₁
        · rw [drawn]
          exact .frame sized₂ (gone₁.trans gone) (same ▸ shorter)
        · rw [drawn]
          have rounds : k₂.rounds p₁ = k₁.rounds p₁ := by rw [Intake.rounds, atEnd, Intake.rounds]
          exact (ih sized₂ (gone₁.trans gone) (by omega)).mono (same ▸ shorter)

/-- Once the writer has gone, a frame is taken or the end is found. -/
theorem take_exhausts (sized : k.Sized) (gone : p.writerGone = true) : Exhausts k p (k.take p) := by
  rw [Intake.take]
  obtain ⟨f, k', drawn, sized', shorter⟩ | ⟨k', drawn, sized', shorter, -⟩ := draw_cases sized p
  · rw [drawn]
    exact .frame sized' gone shorter
  · rw [drawn]
    refine (refill_exhausts _ sized' gone ?_).mono shorter
    unfold rounds
    split <;> omega

/-- An attempt leaves the storage as large as it says. -/
theorem sized_refill (fuel : Nat) (sized : k.Sized) : (Intake.refill fuel k p).2.1.Sized := by
  induction fuel generalizing k p with
  | zero => exact sized
  | succ fuel ih =>
      rw [Intake.refill]
      obtain ⟨none_, -⟩ | ⟨k₁, p₁, filled, sized₁, -⟩ := fill?_cases sized p
      · rw [none_]
        exact sized
      · rw [filled]
        dsimp only
        obtain ⟨f, k₂, drawn, sized₂, -⟩ | ⟨k₂, drawn, sized₂, -⟩ := draw_cases sized₁ p₁
        · rw [drawn]
          exact sized₂
        · rw [drawn]
          exact ih sized₂

theorem sized_take (sized : k.Sized) : (k.take p).2.1.Sized := by
  rw [Intake.take]
  obtain ⟨f, k', drawn, sized', -⟩ | ⟨k', drawn, sized', -⟩ := draw_cases sized p
  · rw [drawn]
    exact sized'
  · rw [drawn]
    exact sized_refill _ sized'

end Intake

end DebugAdapter.Framing
