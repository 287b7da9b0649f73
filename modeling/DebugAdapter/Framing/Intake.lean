import DebugAdapter.Framing.Delimited
/-!
# Frames from a stream

A pipe carries octets from a writer to a reader. An intake takes frames out of it: it empties its
buffer first, as far as the limit on frames allows, and only then looks for more octets: as many as
its storage has room for. At the end of the stream what is left in the buffer is taken without a
limit.
-/

namespace DebugAdapter.Framing

/-- A stream of octets that have been written and not read. -/
structure Pipe where
  octets : Bytes := []
  /-- Whether the writer has gone. -/
  writerGone : Bool := false
  /-- Whether the reader has gone. -/
  readerGone : Bool := false
deriving DecidableEq, Repr, Inhabited

namespace Pipe

/-- More octets, if there is somebody to read them. -/
def write? (p : Pipe) (bs : Bytes) : Option Pipe :=
  if p.readerGone || p.writerGone then none else some { p with octets := p.octets ++ bs }

end Pipe

/-- The two pipes between the adapter and an interpreter. -/
structure Line where
  /-- From the interpreter. -/
  inbound : Pipe := {}
  /-- To the interpreter. -/
  outbound : Pipe := {}
deriving DecidableEq, Repr, Inhabited

namespace Line

/-- The adapter lets go of both pipes. -/
def leave (l : Line) : Line :=
  { inbound := { l.inbound with readerGone := true }
    outbound := { l.outbound with writerGone := true } }

/-- The interpreter lets go of both pipes. -/
def hangUp (l : Line) : Line :=
  { inbound := { l.inbound with writerGone := true }
    outbound := { l.outbound with readerGone := true } }

end Line

/-- How many octets a pipe holds at once; a writer of more waits until they have all been read. -/
def pipeSize : Nat := 65536

/-- The storage of a buffer. What is taken from its front leaves its place empty until the storage
is used up to its end. -/
structure Storage where
  /-- How many octets the storage holds. -/
  size : Nat := 8192
  /-- Where the octets end that are kept in it. -/
  used : Nat := 0
deriving DecidableEq, Repr, Inhabited

namespace Storage

/-- Storage that is not used up to its end: if it was, the octets that are kept, `kept` of them,
move to its front, unless they take more than half of it; then the storage doubles. -/
def makeRoom (s : Storage) (kept : Nat) : Storage :=
  if s.used < s.size then s
  else if 2 * kept ≤ s.used then { s with used := kept }
  else { s with size := 2 * s.size }

/-- How many more octets fit in. -/
def room (s : Storage) : Nat := s.size - s.used

/-- The storage with `n` more octets in it. -/
def fill (s : Storage) (n : Nat) : Storage := { s with used := s.used + n }

/-- Room is made for at least one octet. -/
theorem room_makeRoom_pos {s : Storage} {kept : Nat} (size_pos : 0 < s.size)
    (used_le : s.used ≤ s.size) : 0 < (s.makeRoom kept).room := by
  grind [makeRoom, room]

end Storage

/-- What an attempt to take a frame comes to. -/
inductive Taken where
  | frame (f : Frame)
  /-- The stream has ended, and nothing is left. -/
  | over
  /-- There is nothing yet. -/
  | nothing
deriving Repr

/-- A reader of frames on a pipe. -/
structure Intake where
  reader : FrameReader
  storage : Storage := {}
  /-- How much has been read of what the pipe held when it was last full or empty. -/
  burst : Nat := 0
  /-- Whether the buffer may hold another frame. -/
  readable : Bool := false
  /-- Whether the end of the stream has been seen. -/
  atEnd : Bool := false
deriving Repr, Inhabited

namespace Intake

/-- An attempt to take a frame out of the buffer. Without one the buffer has to be filled first. -/
def draw (k : Intake) : Option Frame × Intake :=
  if k.readable then
    match if k.atEnd then k.reader.nextAtEnd else k.reader.next with
    | (some f, r) => (some f, { k with reader := r })
    | (none, r) => (none, { k with reader := r, readable := false })
  else (none, k)

/-- As many octets as fit arrive, or the end of the stream is seen, if either is possible. -/
def fill? (k : Intake) (p : Pipe) : Option (Intake × Pipe) :=
  if p.octets.isEmpty then
    if p.writerGone && !k.atEnd then some ({ k with readable := true, atEnd := true }, p) else none
  else
    let storage := k.storage.makeRoom k.reader.buffer.length
    let room := min storage.room (pipeSize - k.burst)
    let arrived := p.octets.take room
    let left := p.octets.drop room
    let burst := k.burst + arrived.length
    some ({ k with
        reader := k.reader.feed arrived
        storage := storage.fill arrived.length
        burst := if left.isEmpty || burst == pipeSize then 0 else burst
        readable := true }, { p with octets := left })

/-- The buffer is filled until a frame can be taken. Each round reads octets or sees the end, so
`fuel` need only exceed their number by one. -/
def refill : Nat → Intake → Pipe → Taken × Intake × Pipe
  | 0, k, p => (.nothing, k, p)
  | fuel + 1, k, p =>
    match k.fill? p with
    | none => (if p.octets.isEmpty && p.writerGone then .over else .nothing, k, p)
    | some (k, p) =>
      match k.draw with
      | (some f, k) => (.frame f, k, p)
      | (none, k) => refill fuel k p

/-- An attempt to take a frame. -/
def take (k : Intake) (p : Pipe) : Taken × Intake × Pipe :=
  match k.draw with
  | (some f, k) => (.frame f, k, p)
  | (none, k) => refill (p.octets.length + 2) k p

end Intake

end DebugAdapter.Framing
