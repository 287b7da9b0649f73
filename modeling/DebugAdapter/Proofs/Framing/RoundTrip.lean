import DebugAdapter.Proofs.Framing.Reader
import DebugAdapter.Proofs.Interpreter.Message
import Mathlib.Data.List.Basic
/-!
# Reading back a stream of messages

Messages that were written one behind the other are read back, in whatever pieces their octets
arrive and however many frames may be taken between two pieces. No written message is blank, so the
frames that the limit puts off to the end of the stream are all taken there.
-/

namespace DebugAdapter.Framing

open Interpreter (Message)

/-! ## Draining a buffer -/

namespace FrameReader

theorem take_length (d : Delimiting) (taken : Nat) (segment bs : Bytes)
    (frame : (take d taken segment bs).frame ≠ none) :
    (take d taken segment bs).buffer.length < segment.length + bs.length := by
  fun_induction take d taken segment bs with
  | case1 => exact absurd rfl frame
  | case2 taken segment rest _ ih =>
      have shorter := ih frame
      simp only [List.length_nil, List.length_cons] at shorter ⊢
      omega
  | case3 => exact absurd rfl frame
  | case4 taken segment rest _ _ _ ih =>
      have shorter := ih frame
      simp only [List.length_nil, List.length_cons] at shorter ⊢
      omega
  | case5 => simp only [List.length_cons]; omega
  | case6 taken segment b rest _ ih =>
      have shorter := ih frame
      simp only [List.length_cons] at shorter ⊢
      omega

/-- An attempt that takes each frame out of the buffer. -/
def Shortens (attempt : FrameReader → Option Frame × FrameReader) : Prop :=
  ∀ {r r' f}, attempt r = (some f, r') → r'.buffer.length < r.buffer.length

theorem next_shortens : Shortens next := by
  intro r r' f taken
  obtain ⟨frame, rfl⟩ := Prod.mk.inj taken
  have shorter := take_length r.delimiting r.taken [] r.buffer (by simp [frame])
  rw [List.length_nil, Nat.zero_add] at shorter
  exact shorter

theorem nextAtEnd_shortens : Shortens nextAtEnd := by
  intro r r' f taken
  unfold nextAtEnd at taken
  split at taken
  · rename_i frame
    cases taken
    exact next_shortens (r := { r with taken := 0 }) frame
  · cases taken

section

variable {attempt : FrameReader → Option Frame × FrameReader} (shortens : Shortens attempt)
include shortens

theorem drainWith_fuel {n m : Nat} (r : FrameReader) (hn : r.buffer.length < n)
    (hm : r.buffer.length < m) : drainWith attempt n r = drainWith attempt m r := by
  induction n generalizing m r with
  | zero => omega
  | succ n ih =>
      cases m with
      | zero => omega
      | succ m =>
          rw [drainWith, drainWith]
          cases taken : attempt r with
          | mk frame r' =>
              cases frame with
              | none => rfl
              | some f =>
                  have shorter := shortens taken
                  simp only [ih (m := m) r' (by omega) (by omega)]

/-- Frames are taken until there is none. -/
theorem drainWith_length (r : FrameReader) :
    drainWith attempt (r.buffer.length + 1) r =
      match attempt r with
      | (none, r') => ([], r')
      | (some f, r') =>
        (f :: (drainWith attempt (r'.buffer.length + 1) r').1,
          (drainWith attempt (r'.buffer.length + 1) r').2) := by
  rw [drainWith]
  cases taken : attempt r with
  | mk frame r' =>
      cases frame with
      | none => rfl
      | some f =>
          simp only [drainWith_fuel shortens r' (shortens taken) (Nat.lt_succ_self _)]

end

/-- Draining ends at the first attempt that gives no frame, and not before. -/
theorem drain_eq (r : FrameReader) :
    r.drain =
      match r.next with
      | (none, r') => ([], r')
      | (some f, r') => (f :: r'.drain.1, r'.drain.2) :=
  drainWith_length next_shortens r

theorem drainAtEnd_eq (r : FrameReader) :
    r.drainAtEnd =
      match r.nextAtEnd with
      | (none, r') => ([], r')
      | (some f, r') => (f :: r'.drainAtEnd.1, r'.drainAtEnd.2) :=
  drainWith_length nextAtEnd_shortens r

/-- Draining is a run of attempts. -/
theorem drainWith_next (fuel : Nat) (r : FrameReader) :
    ∃ n, drainWith next fuel r = r.run (List.replicate n .decode) := by
  induction fuel generalizing r with
  | zero => exact ⟨0, rfl⟩
  | succ fuel ih =>
      rw [drainWith]
      split
      · rename_i r' none_
        exact ⟨1, by simp [run, perform, none_]⟩
      · rename_i f r' frame
        obtain ⟨n, others⟩ := ih r'
        exact ⟨n + 1, by simp [List.replicate_succ, run, perform, frame, others]⟩

/-- Where no segment is blank, only the limit and the end of the buffer keep an attempt from a
frame. -/
theorem take_none (d : Delimiting) (taken : Nat) (segment bs : Bytes)
    (free : d.delimiter ∉ segment) (below : taken < d.bound)
    (full : ∀ s ∈ d.segments (segment.reverse ++ bs), Delimiting.frameOf? s ≠ none)
    (none_ : (take d taken segment bs).frame = none) :
    d.segments (segment.reverse ++ bs) = [] := by
  have free' : d.delimiter ∉ segment.reverse := fun mem => free (List.mem_reverse.mp mem)
  fun_induction take d taken segment bs with
  | case1 taken segment => rw [List.append_nil, d.segments_of_notMem free']
  | case2 taken segment rest isEmpty _ =>
      cases List.isEmpty_iff.mp isEmpty
      rw [d.segments_cons free'] at full
      exact absurd rfl (full _ List.mem_cons_self)
  | case3 taken segment rest _ above => omega
  | case4 taken segment rest _ _ blank _ =>
      rw [d.segments_cons free'] at full
      exact absurd blank (full _ List.mem_cons_self)
  | case5 => cases none_
  | case6 taken segment b rest other ih =>
      have free'' : d.delimiter ∉ b :: segment :=
        List.not_mem_cons_of_ne_of_not_mem (Ne.symm other) free
      have same : (b :: segment).reverse ++ rest = segment.reverse ++ b :: rest := by simp
      rw [← same] at full ⊢
      exact ih free'' below full none_ (fun mem => free'' (List.mem_reverse.mp mem))

/-- At the end of a stream without blank segments all frames are taken. -/
theorem drainAtEnd_reference (r : FrameReader)
    (full : ∀ s ∈ r.delimiting.segments r.buffer, Delimiting.frameOf? s ≠ none) :
    r.drainAtEnd.1 = r.delimiting.reference r.buffer ∧ r.drainAtEnd.2.buffer = [] := by
  rw [drainAtEnd_eq, nextAtEnd]
  -- The count starts over before each attempt, so the limit puts nothing off.
  cases taken : ({ r with taken := 0 } : FrameReader).next with
  | mk frame r' =>
      obtain ⟨frame_eq, rest_eq⟩ := Prod.mk.inj taken
      cases frame with
      | none =>
          have none_ := take_none r.delimiting 0 [] r.buffer List.not_mem_nil
            (Nat.lt_of_lt_of_le Nat.zero_lt_one (Nat.le_max_left ..)) full frame_eq
          rw [List.reverse_nil, List.nil_append] at none_
          rw [Delimiting.reference_eq_filterMap, none_]
          exact ⟨rfl, rfl⟩
      | some f =>
          have shorter := next_shortens taken
          obtain ⟨front, cut, frames⟩ :=
            ({ r with taken := 0 } : FrameReader).perform_segments .decode []
          simp only [Call.octets, perform, taken, List.append_nil, Option.toList_some] at cut frames
          have same : r'.delimiting = r.delimiting := by rw [← rest_eq]
          rw [← same] at cut
          have full' : ∀ s ∈ r'.delimiting.segments r'.buffer, Delimiting.frameOf? s ≠ none :=
            fun s mem => full s (by rw [← same, cut]; exact List.mem_append_right _ mem)
          obtain ⟨others, empty⟩ := drainAtEnd_reference r' full'
          refine ⟨?_, empty⟩
          change f :: r'.drainAtEnd.1 = _
          rw [others, Delimiting.reference_eq_filterMap, Delimiting.reference_eq_filterMap, ← same,
            cut, List.filterMap_append, frames, List.singleton_append]
termination_by r.buffer.length

/-- Each chunk is added to the buffer, and the frames are taken that can be had then. -/
def readChunks (r : FrameReader) : List Bytes → List Frame × FrameReader
  | [] => ([], r)
  | chunk :: chunks =>
    let first := (r.feed chunk).drain
    let others := first.2.readChunks chunks
    (first.1 ++ others.1, others.2)

/-- Chunks until the stream ends. -/
def readAll (r : FrameReader) (chunks : List Bytes) : List Frame × FrameReader :=
  let before := r.readChunks chunks
  let atEnd := before.2.drainAtEnd
  (before.1 ++ atEnd.1, atEnd.2)

theorem readChunks_eq_run (r : FrameReader) (chunks : List Bytes) :
    ∃ calls, calls.flatMap Call.octets = chunks.flatten ∧ r.readChunks chunks = r.run calls := by
  induction chunks generalizing r with
  | nil => exact ⟨[], rfl, rfl⟩
  | cons chunk chunks ih =>
      obtain ⟨n, drained⟩ := drainWith_next ((r.feed chunk).buffer.length + 1) (r.feed chunk)
      obtain ⟨calls, octets, others⟩ := ih (r.feed chunk).drain.2
      refine ⟨.append chunk :: (List.replicate n .decode ++ calls), ?_, ?_⟩
      · simp [octets, Call.octets, List.flatMap_replicate]
      · rw [readChunks, others, run, run_append]
        change _ = ([] ++ _, _)
        rw [drain, drained]
        rfl

/-- A stream without blank segments is read to its end. -/
theorem readAll_reference (d : Delimiting) (chunks : List Bytes)
    (full : ∀ s ∈ d.segments chunks.flatten, Delimiting.frameOf? s ≠ none) :
    let r : FrameReader := { delimiting := d }
    (r.readAll chunks).1 = d.reference chunks.flatten ∧ (r.readAll chunks).2.buffer = [] := by
  intro r
  obtain ⟨calls, octets, before⟩ := r.readChunks_eq_run chunks
  obtain ⟨front, cut, frames⟩ := r.run_segments calls []
  rw [octets, List.append_nil, List.append_nil] at cut
  have same : (r.run calls).2.delimiting = d := r.run_delimiting calls
  have atEnd := (r.run calls).2.drainAtEnd_reference (fun s mem => full s (by
    rw [same] at mem
    rw [show d.segments chunks.flatten = _ from cut]
    exact List.mem_append_right _ mem))
  rw [same] at atEnd
  rw [readAll, before]
  refine ⟨?_, atEnd.2⟩
  have whole := r.run_reference calls
  rw [octets] at whole
  rw [atEnd.1]
  exact whole

end FrameReader

/-! ## The octets of messages -/

namespace Delimiting

/-- Messages one behind the other. -/
def encodeAll (d : Delimiting) : List Message → Except FrameError Bytes
  | [] => .ok []
  | m :: ms => do
    let first ← d.encode m
    let others ← d.encodeAll ms
    .ok (first ++ others)

theorem encode_ok {d : Delimiting} {m : Message} {bs : Bytes} (h : d.encode m = .ok bs) :
    d.delimiter ∉ m.encode.bytes ∧ bs = m.encode.bytes ++ [d.delimiter] := by
  simp only [encode] at h
  split at h
  · cases h
  · rename_i free
    cases h
    exact ⟨by simpa using free, rfl⟩

theorem segments_encodeAll {d : Delimiting} {ms : List Message} {wire : Bytes}
    (h : d.encodeAll ms = .ok wire) : d.segments wire = ms.map fun m => m.encode.bytes := by
  induction ms generalizing wire with
  | nil =>
      cases h
      exact d.segments_of_notMem List.not_mem_nil
  | cons m ms ih =>
      cases first : d.encode m with
      | error e => simp [encodeAll, first, bind, Except.bind] at h
      | ok bs =>
          cases others : d.encodeAll ms with
          | error e => simp [encodeAll, first, others, bind, Except.bind] at h
          | ok rest =>
              simp only [encodeAll, first, others, bind, Except.bind, Except.ok.injEq] at h
              obtain ⟨free, rfl⟩ := encode_ok first
              rw [← h, List.append_assoc, List.singleton_append, d.segments_cons free, ih others]
              rfl

/-- A written message is read back. -/
theorem frameOf?_encode {m : Message} (faithful : m.Faithful) :
    frameOf? m.encode.bytes = some (.ok m) := by
  obtain ⟨inner, braces⟩ : ∃ inner, m.encode.render = '{' :: (inner ++ ['}']) := by
    rw [Message.encode, Json.render]
    exact ⟨_, rfl⟩
  have trimmed : Text.trimChars m.encode.render = m.encode.render := by
    rw [braces]
    exact Text.trimChars_enclosed (by decide) (by decide) inner
  have text : Utf8.decode? m.encode.bytes = some (String.ofList m.encode.render) :=
    Utf8.decode?_encodeChars _
  have same : Text.trim (String.ofList m.encode.render) = String.ofList m.encode.render := by
    rw [Text.trim, String.toList_ofList, trimmed]
  have octets : Utf8.encode (String.ofList m.encode.render) = m.encode.bytes := by
    rw [Utf8.encode, String.toList_ofList, Json.bytes]
  have visible : (String.ofList m.encode.render).isEmpty = false := by
    rw [← Bool.not_eq_true, String.isEmpty_iff, String.ofList_eq_empty_iff, braces]
    exact List.cons_ne_nil _ _
  rw [frameOf?, text]
  simp only [same, visible, octets, Message.fromBytes_encode faithful, Bool.false_eq_true, if_false]

end Delimiting

/-- Messages that were written are read back in order, however their octets are cut into chunks and
whatever the limit on frames; no frame is malformed, and nothing is left in the buffer. -/
theorem readAll_encodeAll (d : Delimiting) (ms : List Message) (chunks : List Bytes)
    (written : d.encodeAll ms = .ok chunks.flatten) (faithful : ∀ m ∈ ms, m.Faithful) :
    let r : FrameReader := { delimiting := d }
    (r.readAll chunks).1 = ms.map .ok ∧ (r.readAll chunks).2.buffer = [] := by
  intro r
  have segments := Delimiting.segments_encodeAll written
  have each : ∀ m ∈ ms, Delimiting.frameOf? m.encode.bytes = some (.ok m) :=
    fun m mem => Delimiting.frameOf?_encode (faithful m mem)
  have full : ∀ s ∈ d.segments chunks.flatten, Delimiting.frameOf? s ≠ none := by
    intro s mem
    rw [segments] at mem
    obtain ⟨m, member, rfl⟩ := List.mem_map.mp mem
    rw [each m member]
    exact Option.some_ne_none _
  obtain ⟨frames, empty⟩ := FrameReader.readAll_reference d chunks full
  refine ⟨?_, empty⟩
  rw [frames, Delimiting.reference_eq_filterMap, segments, List.filterMap_map,
    List.filterMap_eq_map_iff_forall_eq_some]
  intro m mem
  rw [Function.comp_apply]
  exact each m mem

/-- Two messages in two pieces, the first of which ends inside a character, with room for one frame
between two pieces. -/
theorem readAll_encodeAll_split :
    let d : Delimiting := { delimiter := 0x04, limit := 1 }
    let ms : List Message :=
      [⟨"eval", "1", none, .object [("a", .array [.number (.int (-5)), .string "\"é\n\x04"])]⟩,
        ⟨"base/ping/req", "2", some "1", .null⟩]
    let wire := ms.flatMap fun m => m.encode.bytes ++ [0x04]
    let r : FrameReader := { delimiting := d }
    (r.readAll [wire.take 57, wire.drop 57]).1 = ms.map .ok := by
  intro d ms wire r
  refine (readAll_encodeAll d ms [wire.take 57, wire.drop 57] ?_ ?_).1
  · rfl
  · have first : Message.Faithful ⟨"eval", "1", none,
        .object [("a", .array [.number (.int (-5)), .string "\"é\n\x04"])]⟩ :=
      { ordered := by simp [Json.Ordered, Json.OrderedMembers, Json.OrderedItems, Json.Sorted]
        integral := by simp [Json.Integral, Json.IntegralMembers, Json.IntegralItems]
        nested := by decide }
    have second : Message.Faithful ⟨"base/ping/req", "2", some "1", .null⟩ :=
      { ordered := trivial
        integral := trivial
        nested := by decide }
    intro m mem
    obtain rfl | rfl : m = _ ∨ m = _ := by simpa [ms] using mem
    · exact first
    · exact second

end DebugAdapter.Framing
