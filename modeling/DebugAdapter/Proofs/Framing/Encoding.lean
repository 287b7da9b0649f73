import DebugAdapter.Proofs.Framing.Transparency
import DebugAdapter.Proofs.Json.Printed
import DebugAdapter.Proofs.Protocol.Request
/-!
# Reading back headed frames

Values and requests that were written one behind the other are read back, in whatever pieces their
octets arrive. The text of a value may hold anything, also what looks like a header.
-/

namespace DebugAdapter.Framing.Headed

open Document (maxDepth)
open Protocol (Request)

/-! ## Frames as they are written -/

/-- A frame as it is written: without noise and further header lines. -/
def Parcel.plain (body : Bytes) : Parcel := { body }

theorem Parcel.octets_plain (body : Bytes) : (Parcel.plain body).octets = frame body := by
  simp only [plain, octets, header, frame, List.flatMap_nil, List.append_nil, List.nil_append]

theorem frame_ne_nil (body : Bytes) : frame body ≠ [] := by
  intro blank
  obtain ⟨front, -⟩ := List.append_eq_nil_iff.mp blank
  obtain ⟨-, gone⟩ := List.append_eq_nil_iff.mp front
  cases gone

theorem Parcel.header_plain_printed (body : Bytes) :
    ∀ b ∈ (Parcel.plain body).header, 0x20 ≤ b.toNat := by
  have line : (Parcel.plain body).header = Utf8.encodeChars (Parcel.plain body).lengthLine := by
    rw [header_eq]
    exact congrArg Utf8.encodeChars (List.append_nil _)
  have name : Text.Printed lengthName.toList := by
    simp [Text.Printed, lengthName]
  have value : Text.Printed (':' :: ' ' :: Nat.toDigits 10 body.length) := by
    simp [Text.printed_toDigits]
  rw [line]
  exact Utf8.le_of_mem_encodeChars (Text.printed_append.mpr ⟨name, value⟩)

theorem Parcel.wellFormed_plain {body : Bytes} (counted : body.length < 2 ^ 64) :
    (Parcel.plain body).WellFormed where
  noise := by
    intro noisy
    exact absurd (List.eq_nil_of_infix_nil noisy) (by decide)
  ended := by
    have free : (0x0D : UInt8) ∉ (Parcel.plain body).header := by
      intro mem
      exact absurd ((Parcel.header_plain_printed body) _ mem) (by decide)
    have first : FirstBehind headerEnd (Parcel.plain body).header _ := firstBehind_of_notMem free []
    rw [List.append_nil] at first
    exact first
  counted := counted

/-! ## A stream that has to be well-formed -/

section

variable {α : Type} (decoder : Decoder α)

theorem nextStrict_some {buffer rest : Bytes} {x : α}
    (next : nextStrict decoder buffer = ⟨.ok (some x), rest⟩) :
    ∃ body, take buffer = .body body rest ∧ Decode.fromBytes decoder body = .ok x := by
  unfold nextStrict at next
  cases taken : take buffer with
  | incomplete buffer' | broken e buffer' =>
      rw [taken] at next
      cases next
  | body body buffer' =>
      simp only [taken] at next
      obtain ⟨item, rfl⟩ := Taken.mk.inj next
      refine ⟨body, rfl, ?_⟩
      cases read : Decode.fromBytes decoder body with
      | error e =>
          rw [read] at item
          cases item
      | ok y =>
          rw [read] at item
          cases item
          rfl

/-- Items until there is none, or until the stream cannot be read any further. -/
def drainStrict (buffer : Bytes) : List (Except StreamError α) × Bytes :=
  match taken : nextStrict decoder buffer with
  | ⟨.ok none, rest⟩ => ([], rest)
  | ⟨.error e, rest⟩ => ([.error e], rest)
  | ⟨.ok (some item), rest⟩ =>
    have shorter : rest.length < buffer.length := by
      obtain ⟨body, taken, -⟩ := nextStrict_some decoder taken
      exact take_shorter taken
    let others := drainStrict rest
    (.ok item :: others.1, others.2)
termination_by buffer.length

/-- Each chunk is added to what is left of the ones before, and the items are taken that can be had
then. -/
def readStrict (buffer : Bytes) : List Bytes → List (Except StreamError α) × Bytes
  | [] => ([], buffer)
  | chunk :: chunks =>
    let first := drainStrict decoder (buffer ++ chunk)
    let others := readStrict first.2 chunks
    (first.1 ++ others.1, others.2)

theorem drainStrict_incomplete {buffer rest : Bytes} (taken : take buffer = .incomplete rest) :
    drainStrict decoder buffer = ([], rest) := by
  have next : nextStrict decoder buffer = ⟨.ok none, rest⟩ := by rw [nextStrict, taken]
  rw [drainStrict]
  split <;> simp_all

theorem drainStrict_body {buffer body rest : Bytes} {x : α} (taken : take buffer = .body body rest)
    (read : Decode.fromBytes decoder body = .ok x) :
    drainStrict decoder buffer =
      (.ok x :: (drainStrict decoder rest).1, (drainStrict decoder rest).2) := by
  have next : nextStrict decoder buffer = ⟨.ok (some x), rest⟩ := by
    simp only [nextStrict, taken, read]
    rfl
  rw [drainStrict]
  split <;> simp_all

theorem drainLenient_broken {buffer rest : Bytes} {e : HeaderError}
    (taken : take buffer = .broken e rest) :
    drainLenient decoder buffer = ([.error (.header e)], rest) := by
  have next : nextLenient decoder buffer = ⟨.error (.header e), rest⟩ := by rw [nextLenient, taken]
  rw [drainLenient]
  split <;> simp_all

/-- Where a reader that would put up with malformed bodies finds none, the strict one reads the
same. -/
theorem drainStrict_eq {buffer rest : Bytes} {items : List α}
    (lenient : drainLenient decoder buffer = (items.map (.ok <| .ok ·), rest)) :
    drainStrict decoder buffer = (items.map .ok, rest) := by
  induction items generalizing buffer with
  | nil =>
      cases taken : take buffer with
      | incomplete buffer' =>
          rw [drainLenient_incomplete decoder taken] at lenient
          cases lenient
          exact drainStrict_incomplete decoder taken
      | broken e buffer' =>
          rw [drainLenient_broken decoder taken] at lenient
          cases lenient
      | body body buffer' =>
          rw [drainLenient_body decoder taken] at lenient
          cases lenient
  | cons x items ih =>
      cases taken : take buffer with
      | incomplete buffer' =>
          rw [drainLenient_incomplete decoder taken] at lenient
          cases lenient
      | broken e buffer' =>
          rw [drainLenient_broken decoder taken] at lenient
          cases lenient
      | body body buffer' =>
          rw [drainLenient_body decoder taken] at lenient
          obtain ⟨items', left⟩ := Prod.mk.inj lenient
          obtain ⟨first, others⟩ := List.cons.inj items'
          have read : Decode.fromBytes decoder body = .ok x := by
            unfold verdict at first
            cases read : Decode.fromBytes decoder body with
            | error e => rw [read] at first; cases first
            | ok y => rw [read] at first; cases first; rfl
          rw [drainStrict_body decoder taken read, ih (Prod.ext others left)]
          rfl

theorem readStrict_eq {buffer rest : Bytes} {chunks : List Bytes} {items : List α}
    (lenient : readLenient decoder buffer chunks = (items.map (.ok <| .ok ·), rest)) :
    readStrict decoder buffer chunks = (items.map .ok, rest) := by
  induction chunks generalizing buffer items with
  | nil =>
      obtain ⟨none_, left⟩ := Prod.mk.inj lenient
      cases List.map_eq_nil_iff.mp none_.symm
      exact congrArg _ left
  | cons chunk chunks ih =>
      obtain ⟨all, left⟩ := Prod.mk.inj lenient
      obtain ⟨front, back, rfl, first, others⟩ := List.append_eq_map_iff.mp all
      have here := drainStrict_eq decoder (Prod.ext first.symm rfl)
      have later := ih (Prod.ext others.symm left)
      simp only [readStrict, here, later, List.map_append]

/-- However the frames of values are cut into chunks, the values are read back. -/
theorem readStrict_frames (encode : α → Json) {xs : List α}
    (faithful : ∀ x ∈ xs, Decode.fromBytes decoder (encode x).bytes = .ok x)
    (counted : ∀ x ∈ xs, (encode x).bytes.length < 2 ^ 64) {chunks : List Bytes}
    (cut : chunks.flatten = xs.flatMap fun x => Headed.encode (encode x)) :
    readStrict decoder [] chunks = (xs.map .ok, []) := by
  have toCome : ToCome (xs.map fun x => (encode x).bytes) [] chunks.flatten
      (xs.map fun x => Parcel.plain (encode x).bytes) := by
    refine ⟨?_, ?_, ?_⟩
    · intro p mem
      obtain ⟨x, listed, rfl⟩ := List.mem_map.mp mem
      exact Parcel.wellFormed_plain (counted x listed)
    · rw [List.map_map]
      rfl
    · rw [List.nil_append, cut, List.flatMap_map]
      simp only [Parcel.octets_plain, Headed.encode]
  have drained : chunks = [] → (xs.map fun x => (encode x).bytes) = [] := by
    rintro rfl
    cases xs with
    | nil => rfl
    | cons x xs =>
        rw [List.flatten_nil, List.flatMap_cons] at cut
        obtain ⟨none_, -⟩ := List.append_eq_nil_iff.mp cut.symm
        exact absurd none_ (frame_ne_nil _)
  have bodies := readLenient_toCome decoder chunks toCome drained
  apply readStrict_eq
  rw [bodies, List.map_map]
  refine Prod.ext (List.map_congr_left ?_) rfl
  intro x mem
  simp only [Function.comp, verdict, faithful x mem]
  rfl

end

/-- However the frames of values, or of requests, are cut into chunks, a strict reader of them reads
those values or requests, in order, and leaves nothing in the buffer. Arguments that are `null` are
not written and come back all the same. -/
theorem readStrict_encode :
    (∀ vs : List Json, (∀ v ∈ vs, v.Ordered ∧ v.Integral ∧ v.depth ≤ maxDepth) →
      (∀ v ∈ vs, v.bytes.length < 2 ^ 64) → ∀ chunks : List Bytes,
      chunks.flatten = vs.flatMap encode →
        readStrict Decode.json [] chunks = (vs.map .ok, [])) ∧
    (∀ rs : List Request, (∀ r ∈ rs, r.Faithful) →
      (∀ r ∈ rs, r.encode.bytes.length < 2 ^ 64) → ∀ chunks : List Bytes,
      chunks.flatten = rs.flatMap (fun r => encode r.encode) →
        readStrict Request.decoder [] chunks = (rs.map .ok, []) ∧
        ∀ r ∈ rs, (r.arguments = .null → r.encode.member? "arguments" = none) ∧
          (r.arguments ≠ .null → r.encode.member? "arguments" = some r.arguments)) := by
  constructor
  · intro vs faithful counted chunks cut
    apply readStrict_frames Decode.json id _ counted cut
    intro v mem
    obtain ⟨ordered, integral, nested⟩ := faithful v mem
    apply Decode.fromBytes_bytes integral nested
    simp only [Decode.json, Document.toJson_ofJson ordered]
  · intro rs faithful counted chunks cut
    constructor
    · apply readStrict_frames Request.decoder Request.encode _ counted cut
      intro r mem
      exact Request.fromBytes_encode (faithful r mem)
    · intro r _
      exact r.member?_arguments_encode

/-- A text that holds a header, in three pieces that cut into it and into a letter of two octets; and
a request without arguments before one with some, octet by octet. -/
theorem readStrict_encode_nested :
    let vs : List Json := [.object [("é", .string "Content-Length: 3\r\n\r\n[é]")], .array [.nat 7]]
    let wire := vs.flatMap encode
    let rs : List Request := [⟨1, "request", "threads", .null⟩,
      ⟨2, "request", "launch", .object [("noDebug", .bool true)]⟩]
    readStrict Decode.json [] [wire.take 25, (wire.drop 25).take 22, wire.drop 47] =
        (vs.map .ok, []) ∧
      readStrict Request.decoder [] ((rs.flatMap fun r => encode r.encode).map ([·])) =
        (rs.map .ok, []) := by
  intro vs wire rs
  constructor
  · apply readStrict_encode.1 vs
    · intro v mem
      obtain rfl | rfl : v = _ ∨ v = _ := by simpa [vs] using mem
      · exact ⟨⟨List.pairwise_singleton _ _, trivial, trivial⟩, ⟨trivial, trivial⟩, by decide⟩
      · exact ⟨⟨trivial, trivial⟩, ⟨⟨by decide, by decide⟩, trivial⟩, by decide⟩
    · decide
    · rfl
  · refine (readStrict_encode.2 rs ?_ (by decide) _ ?_).1
    · intro r mem
      obtain rfl | rfl : r = _ ∨ r = _ := by simpa [rs] using mem
      · exact ⟨by decide, trivial, trivial, by decide⟩
      · exact ⟨by decide, ⟨List.pairwise_singleton _ _, trivial, trivial⟩, ⟨trivial, trivial⟩, by decide⟩
    · rw [← List.flatMap_def]
      exact List.flatMap_singleton' _

end DebugAdapter.Framing.Headed
