import DebugAdapter.Framing.Delimited
import DebugAdapter.Proofs.Text.Blank
/-!
# The frames of a sequence of octets

What a delimited stream says, without a buffer: the octets are cut at every delimiter, what no
delimiter follows is left out, and each segment that is not blank is read by itself.
-/

namespace DebugAdapter.Framing.Delimiting

open Interpreter (Message)

/-- The octets between the delimiters; those behind the last one are no segment yet. -/
def segments (d : Delimiting) (bs : Bytes) : List Bytes := (bs.splitOn d.delimiter).dropLast

/-- A segment that is text and holds blanks only. -/
def isBlankSegment (segment : Bytes) : Bool :=
  match Utf8.decode? segment with
  | none => false
  | some text => text.toList.all Text.isBlank

/-- What a segment says by itself. -/
def verdict (segment : Bytes) : Frame :=
  match Utf8.decode? segment with
  | none => .error ⟨Utf8.decodeLossy segment, .invalidUtf8⟩
  | some text =>
    match Decode.fromBytes Message.decoder (Utf8.encode (Text.trim text)) with
    | .ok m => .ok m
    | .error e => .error ⟨Text.trim text, .parsing e⟩

/-- The frames in `bs`. -/
def reference (d : Delimiting) (bs : Bytes) : List Frame :=
  ((d.segments bs).filter (fun segment => !isBlankSegment segment)).map verdict

/-! ## Blank texts -/

theorem isEmpty_trim (s : String) : (Text.trim s).isEmpty = s.toList.all Text.isBlank := by
  rw [Bool.eq_iff_iff, String.isEmpty_iff, Text.trim, ← Text.trimChars_eq_nil]
  exact String.ofList_eq_empty_iff

/-- A blank segment is passed over, and every other one is a frame. -/
theorem frameOf?_eq (segment : Bytes) :
    frameOf? segment = if isBlankSegment segment then none else some (verdict segment) := by
  unfold frameOf? isBlankSegment verdict
  cases Utf8.decode? segment with
  | none => rfl
  | some text =>
      simp only [isEmpty_trim]
      split
      · rfl
      · cases Decode.fromBytes Message.decoder (Utf8.encode (Text.trim text)) <;> rfl

/-! ## Cutting -/

section

variable (d : Delimiting)

theorem segments_append_cons (front rest : Bytes) :
    d.segments (front ++ d.delimiter :: rest) = front.splitOn d.delimiter ++ d.segments rest := by
  rw [segments, List.splitOn_append_cons_self, List.dropLast_append_of_ne_nil]
  · rfl
  · exact List.splitOn_ne_nil _ _

theorem segments_cons {segment : Bytes} (free : d.delimiter ∉ segment) (rest : Bytes) :
    d.segments (segment ++ d.delimiter :: rest) = segment :: d.segments rest := by
  rw [segments_append_cons, List.splitOn_eq_singleton free, List.singleton_append]

theorem segments_of_notMem {bs : Bytes} (free : d.delimiter ∉ bs) : d.segments bs = [] := by
  rw [segments, List.splitOn_eq_singleton free, List.dropLast_singleton]

theorem reference_eq_filterMap (bs : Bytes) :
    d.reference bs = (d.segments bs).filterMap frameOf? := by
  unfold reference
  induction d.segments bs with
  | nil => rfl
  | cons segment rest ih =>
      rw [List.filterMap_cons, frameOf?_eq]
      cases blank : isBlankSegment segment <;> simp [blank, ih]

theorem reference_of_notMem {bs : Bytes} (free : d.delimiter ∉ bs) : d.reference bs = [] := by
  rw [reference_eq_filterMap, segments_of_notMem d free, List.filterMap_nil]

@[simp]
theorem reference_nil : d.reference [] = [] := d.reference_of_notMem List.not_mem_nil

/-- A delimiter cuts the stream: what stands before it and what stands behind it are read apart. -/
theorem reference_append_cons (front rest : Bytes) :
    d.reference (front ++ d.delimiter :: rest) =
      d.reference (front ++ [d.delimiter]) ++ d.reference rest := by
  have alone : d.segments (front ++ [d.delimiter]) = front.splitOn d.delimiter := by
    rw [segments_append_cons, segments_of_notMem d List.not_mem_nil, List.append_nil]
  rw [reference_eq_filterMap, reference_eq_filterMap, reference_eq_filterMap, alone,
    segments_append_cons, List.filterMap_append]

end

end DebugAdapter.Framing.Delimiting
