import DebugAdapter.Proofs.Framing.Occurrence
import DebugAdapter.Proofs.Text.Integer
import DebugAdapter.Proofs.Text.Utf8
/-!
# Frames between noise

Frames with further header lines and with noise before them are read body by body, in whatever
pieces their octets arrive. A body may hold anything, also what looks like a header: its octets are
counted and not looked at.
-/

namespace DebugAdapter.Framing.Headed

open Utf8 (encodeChars)

/-- A frame with what stands around its body. -/
structure Parcel where
  noise : Bytes := []
  /-- The header lines behind the one with the length. -/
  others : List String := []
  body : Bytes

namespace Parcel

/-- The header: its lines without the empty one that ends it. -/
def header (p : Parcel) : Bytes :=
  Utf8.encode (lengthName ++ ": " ++ toString p.body.length) ++
    p.others.flatMap fun line => lineEnd ++ Utf8.encode line

def octets (p : Parcel) : Bytes := p.noise ++ p.header ++ headerEnd ++ p.body

structure WellFormed (p : Parcel) : Prop where
  noise : ¬ mark <:+: p.noise
  /-- An empty line stands at the end of the header and not earlier. -/
  ended : FirstBehind headerEnd p.header (p.header ++ headerEnd)
  /-- The length can be counted in 64 bits. -/
  counted : p.body.length < 2 ^ 64

/-! ## The header -/

/-- The characters of the line with the length. -/
def lengthLine (p : Parcel) : List Char :=
  lengthName.toList ++ ':' :: ' ' :: Nat.toDigits 10 p.body.length

theorem header_eq (p : Parcel) : p.header =
    encodeChars (p.lengthLine ++ p.others.flatMap fun line => '\r' :: '\n' :: line.toList) := by
  have others (lines : List String) : encodeChars (lines.flatMap fun l => '\r' :: '\n' :: l.toList) =
      lines.flatMap fun l => lineEnd ++ Utf8.encode l := by
    induction lines with
    | nil => rfl
    | cons l lines ih =>
        rw [List.flatMap_cons, List.flatMap_cons, Utf8.encodeChars_append, ih]
        rfl
  have length : (lengthName ++ ": " ++ toString p.body.length).toList = p.lengthLine := by
    rw [String.toList_append, String.toList_append,
      show (toString p.body.length).toList = _ from Nat.toList_repr, List.append_assoc]
    rfl
  rw [Utf8.encodeChars_append, others, header, Utf8.encode, length]

theorem header_eq_mark (p : Parcel) : ∃ rest, p.header = mark ++ rest := by
  rw [header_eq, lengthLine, List.append_assoc, Utf8.encodeChars_append]
  exact ⟨_, rfl⟩

end Parcel

/-- A text begins with its first line. -/
theorem lines_eq_cons {first : List Char} (whole : '\r' ∉ first) (more : List Char) :
    (∃ others, lines (first ++ '\r' :: '\n' :: more) = first :: others) ∧ lines first = [first] := by
  induction first with
  | nil => exact ⟨⟨lines more, rfl⟩, rfl⟩
  | cons c first ih =>
      obtain ⟨other, whole⟩ := not_or.mp (List.mem_cons.not.mp whole)
      obtain ⟨⟨others, later⟩, alone⟩ := ih whole
      have step {rest head : List Char} {others : List (List Char)}
          (later : lines rest = head :: others) : lines (c :: rest) = (c :: head) :: others := by
        rw [lines.eq_3 c rest fun _ same _ => other same.symm, later]
      exact ⟨⟨others, step later⟩, step alone⟩

namespace Parcel

theorem lengthOfLine?_lengthLine {p : Parcel} (counted : p.body.length < 2 ^ 64) :
    lengthOfLine? p.lengthLine = some (.ok p.body.length) := by
  have sides : keyValue? p.lengthLine =
      some (lengthName.toList, ' ' :: Nat.toDigits 10 p.body.length) := rfl
  have name : Text.trimChars lengthName.toList = lengthName.toList := by decide
  have digits : Text.trimChars (' ' :: Nat.toDigits 10 p.body.length) =
      Nat.toDigits 10 p.body.length := by
    apply Text.trimChars_blank_cons (by decide)
    intro c mem
    exact Text.isBlank_digit (Nat.isDigit_of_mem_toDigits (by decide) (by decide) mem)
  have read : Text.readInteger .unsigned64 10 (Nat.toDigits 10 p.body.length) =
      .ok (p.body.length : Int) := by
    apply Text.readInteger_toDigits (Int.le_refl 0)
    change (p.body.length : Int) ≤ 18446744073709551615
    omega
  simp only [lengthOfLine?, sides, name, digits, read, if_true]
  rfl

theorem lengthOf_header {p : Parcel} (counted : p.body.length < 2 ^ 64) :
    lengthOf p.header = .ok p.body.length := by
  have whole : '\r' ∉ p.lengthLine := by
    intro mem
    rcases List.mem_append.mp mem with name | digits
    · exact absurd name (by decide)
    · simp only [List.mem_cons, Char.reduceEq, false_or] at digits
      exact absurd (Nat.isDigit_of_mem_toDigits (by decide) (by decide) digits) (by decide)
  obtain ⟨others, first⟩ : ∃ others, lines
      (p.lengthLine ++ p.others.flatMap fun line => '\r' :: '\n' :: line.toList) =
        p.lengthLine :: others := by
    cases p.others with
    | nil =>
        rw [List.flatMap_nil, List.append_nil, (lines_eq_cons whole []).2]
        exact ⟨[], rfl⟩
    | cons line others => exact (lines_eq_cons whole _).1
  rw [header_eq, lengthOf, Utf8.decode?_encodeChars]
  simp only [String.toList_ofList, first, List.findSome?_cons, lengthOfLine?_lengthLine counted,
    Option.getD_some]

/-! ## Taking one frame -/

/-- What an attempt to take a frame does while `p` is the first one to come; `more` has not been
received, and `rest` stands behind the frame. -/
inductive Received (p : Parcel) (more rest : Bytes) : Attempt → Prop where
  /-- Its body is not complete; noise before it may be gone. -/
  | waiting (q : Parcel) (buffer : Bytes) (wf : q.WellFormed) (body : q.body = p.body)
      (cut : buffer ++ more = q.octets ++ rest) (missing : more ≠ []) :
      Received p more rest (.incomplete buffer)
  | complete (buffer : Bytes) (cut : buffer ++ more = rest) :
      Received p more rest (.body p.body buffer)

/-- Without the noise the frame is as well formed. -/
theorem WellFormed.quiet {p : Parcel} (wf : p.WellFormed) : { p with noise := [] }.WellFormed where
  noise := by
    intro noisy
    exact absurd (List.eq_nil_of_infix_nil noisy) (by decide)
  ended := wf.ended
  counted := wf.counted

section

variable {p : Parcel} (wf : p.WellFormed) {buffer more rest : Bytes}
include wf

theorem firstBehind_noise (rest : Bytes) : FirstBehind mark p.noise (p.octets ++ rest) := by
  obtain ⟨behind, header⟩ := p.header_eq_mark
  have first := firstBehind_of_borderless borderless_mark wf.noise
    (behind ++ headerEnd ++ p.body ++ rest)
  rw [octets, header]
  simpa only [List.append_assoc] using first

/-- The frame is taken from the octets that start with its header. -/
theorem take_headed (cut : buffer ++ more = p.header ++ headerEnd ++ p.body ++ rest) :
    (buffer.length < (p.header ++ headerEnd ++ p.body).length ∧ take buffer = .incomplete buffer) ∨
      ∃ behind, take buffer = .body p.body behind ∧ behind ++ more = rest := by
  obtain ⟨behind, header⟩ := p.header_eq_mark
  have received : buffer <+: p.header ++ headerEnd ++ (p.body ++ rest) :=
    ⟨more, by rw [cut, List.append_assoc]⟩
  have markFirst : FirstBehind mark [] (p.header ++ headerEnd ++ (p.body ++ rest)) := by
    refine ⟨?_, fun _ _ => Nat.zero_le _⟩
    rw [header, List.append_assoc, List.append_assoc]
    exact List.prefix_append _ _
  have endFirst := wf.ended.append (p.body ++ rest)
  have header_length : mark.length ≤ p.header.length := by rw [header]; simp
  have sizes : (p.header ++ headerEnd ++ p.body).length =
      p.header.length + headerEnd.length + p.body.length := by
    rw [List.length_append, List.length_append]
  rcases Nat.lt_or_ge buffer.length mark.length with few | enough
  · have missing := splitAt?_missing (by decide) markFirst received (by simpa using few)
    refine .inl ⟨by omega, ?_⟩
    simp only [take, missing]
  · have marked := splitAt?_received markFirst received (by simpa using enough)
    rw [List.length_nil, List.drop_zero] at marked
    rcases Nat.lt_or_ge buffer.length (p.header.length + headerEnd.length) with few | enough
    · have missing := splitAt?_missing (by decide) endFirst received few
      refine .inl ⟨by omega, ?_⟩
      simp only [take, marked, missing]
    · have ended := splitAt?_received endFirst received enough
      obtain ⟨tail, rfl⟩ : p.header ++ headerEnd <+: buffer :=
        List.prefix_of_prefix_length_le (List.prefix_append _ _) received (by simpa using enough)
      have tail_eq : tail ++ more = p.body ++ rest := by
        simpa only [List.append_assoc, List.append_cancel_left_eq] using cut
      have found : ((p.header ++ headerEnd ++ tail).drop p.header.length).drop headerEnd.length =
          tail := by
        rw [List.append_assoc, List.drop_left, List.drop_left]
      rcases Nat.lt_or_ge tail.length p.body.length with few | enough
      · refine .inl ⟨by simp only [List.length_append]; omega, ?_⟩
        simp only [take, marked, ended, lengthOf_header wf.counted, found, few, if_true]
      · obtain ⟨behind, rfl⟩ : p.body <+: tail :=
          List.prefix_of_prefix_length_le (List.prefix_append _ _) ⟨more, tail_eq⟩ enough
        refine .inr ⟨behind, ?_, ?_⟩
        · simp only [take, marked, ended, lengthOf_header wf.counted, found,
            Nat.not_lt.mpr enough, if_false, List.take_left, List.drop_left]
        · simpa only [List.append_assoc, List.append_cancel_left_eq] using tail_eq

/-- While only noise has been received, all of it is kept. -/
theorem take_noise (cut : buffer ++ more = p.octets ++ rest)
    (few : buffer.length < p.noise.length + mark.length) : take buffer = .incomplete buffer := by
  have missing := splitAt?_missing (by decide) (firstBehind_noise wf rest) ⟨more, cut⟩ few
  simp only [take, missing]

/-- Noise before the header is dropped. -/
theorem take_drop_noise (cut : buffer ++ more = p.octets ++ rest)
    (enough : p.noise.length + mark.length ≤ buffer.length) :
    take buffer = take (buffer.drop p.noise.length) := by
  have first := splitAt?_received (firstBehind_noise wf rest) ⟨more, cut⟩ enough
  have start : FirstBehind mark [] (buffer.drop p.noise.length) :=
    ⟨by simpa using (firstBehind_of_splitAt? first).there.drop p.noise.length,
      fun _ _ => Nat.zero_le _⟩
  have headed := splitAt?_firstBehind start
  rw [List.length_nil, List.drop_zero] at headed
  simp only [take, first, headed]

theorem take_received (cut : buffer ++ more = p.octets ++ rest) :
    Received p more rest (take buffer) := by
  have missing (few : buffer.length < p.octets.length) : more ≠ [] := by
    rintro rfl
    have := congrArg List.length cut
    simp only [List.length_append, List.length_nil] at this
    omega
  have sizes : p.octets.length = p.noise.length + (p.header ++ headerEnd ++ p.body).length := by
    simp only [octets, List.length_append]
    omega
  obtain ⟨behind, header⟩ := p.header_eq_mark
  rcases Nat.lt_or_ge buffer.length (p.noise.length + mark.length) with few | enough
  · rw [take_noise wf cut few]
    refine .waiting p buffer wf rfl cut (missing ?_)
    simp only [sizes, List.length_append, header]
    omega
  · rw [take_drop_noise wf cut enough]
    obtain ⟨headed, rfl⟩ : p.noise <+: buffer := by
      refine List.prefix_of_prefix_length_le ?_ ⟨more, cut⟩ (by omega)
      simp only [octets, List.append_assoc]
      exact List.prefix_append _ _
    rw [List.drop_left]
    have cut' : headed ++ more = p.header ++ headerEnd ++ p.body ++ rest := by
      simpa only [octets, List.append_assoc, List.append_cancel_left_eq] using cut
    rcases take_headed wf cut' with ⟨few, taken⟩ | ⟨behind, taken, left⟩
    · rw [taken]
      refine .waiting { p with noise := [] } headed wf.quiet rfl cut' (missing ?_)
      rw [sizes, List.length_append]
      omega
    · rw [taken]
      exact .complete behind left

end

end Parcel

/-! ## Streams -/

theorem take_shorter {buffer body rest : Bytes} (taken : take buffer = .body body rest) :
    rest.length < buffer.length := by
  unfold take at taken
  split at taken
  · cases taken
  · rename_i before headed found
    split at taken
    · cases taken
    · rename_i header ended found'
      split at taken
      · cases taken
      · rename_i n _
        dsimp only at taken
        split at taken
        · cases taken
        · cases taken
          have inside := (firstBehind_of_splitAt? found).there.length_le
          have inside' := (firstBehind_of_splitAt? found').there.length_le
          rw [splitAt?_firstBehind (firstBehind_of_splitAt? found)] at found
          rw [splitAt?_firstBehind (firstBehind_of_splitAt? found')] at found'
          cases found
          cases found'
          have : headerEnd.length = 4 := rfl
          simp only [List.length_append, List.length_drop] at inside inside' ⊢
          omega

section

variable {α : Type} (decoder : Decoder α)

/-- What a body says by itself. -/
def verdict (body : Bytes) : Except Malformed α :=
  (Decode.fromBytes decoder body).mapError fun e => ⟨Utf8.decodeLossy body, e⟩

/-- Items until there is none, or until the stream cannot be read any further. -/
def drainLenient (buffer : Bytes) : List (Except StreamError (Except Malformed α)) × Bytes :=
  match taken : nextLenient decoder buffer with
  | ⟨.ok none, rest⟩ => ([], rest)
  | ⟨.error e, rest⟩ => ([.error e], rest)
  | ⟨.ok (some item), rest⟩ =>
    have shorter : rest.length < buffer.length := by
      unfold nextLenient at taken
      split at taken <;> cases taken
      exact take_shorter ‹_›
    let others := drainLenient rest
    (.ok item :: others.1, others.2)
termination_by buffer.length

/-- Each chunk is added to what is left of the ones before, and the items are taken that can be had
then. -/
def readLenient (buffer : Bytes) :
    List Bytes → List (Except StreamError (Except Malformed α)) × Bytes
  | [] => ([], buffer)
  | chunk :: chunks =>
    let first := drainLenient decoder (buffer ++ chunk)
    let others := readLenient first.2 chunks
    (first.1 ++ others.1, others.2)

theorem drainLenient_incomplete {buffer rest : Bytes} (taken : take buffer = .incomplete rest) :
    drainLenient decoder buffer = ([], rest) := by
  have next : nextLenient decoder buffer = ⟨.ok none, rest⟩ := by rw [nextLenient, taken]
  rw [drainLenient]
  split <;> simp_all

theorem drainLenient_body {buffer body rest : Bytes} (taken : take buffer = .body body rest) :
    drainLenient decoder buffer =
      (.ok (verdict decoder body) :: (drainLenient decoder rest).1, (drainLenient decoder rest).2) := by
  have next : nextLenient decoder buffer = ⟨.ok (some (verdict decoder body)), rest⟩ := by
    rw [nextLenient, taken]
    rfl
  rw [drainLenient]
  split <;> simp_all

/-- The frames that are still to come: those of `ps`, of the first of which the noise may be gone.
Their bodies are `bodies`, and what has been received of them is in the buffer. -/
structure ToCome (bodies : List Bytes) (buffer more : Bytes) (ps : List Parcel) : Prop where
  wf : ∀ p ∈ ps, p.WellFormed
  bodies : ps.map (·.body) = bodies
  cut : buffer ++ more = ps.flatMap Parcel.octets

/-- Draining takes the frames that have been received, and leaves the others to come. -/
theorem drainLenient_toCome {bodies : List Bytes} {buffer more : Bytes} {ps : List Parcel}
    (h : ToCome bodies buffer more ps) :
    ∃ taken left ps', bodies = taken ++ left ∧
      (drainLenient decoder buffer).1 = taken.map (fun body => .ok (verdict decoder body)) ∧
      ToCome left (drainLenient decoder buffer).2 more ps' ∧ (more = [] → left = []) := by
  induction ps generalizing bodies buffer with
  | nil =>
      obtain ⟨rfl, rfl⟩ := List.append_eq_nil_iff.mp h.cut
      have nothing : drainLenient decoder [] = ([], []) :=
        drainLenient_incomplete decoder (by decide)
      refine ⟨[], bodies, [], rfl, ?_, ?_, fun _ => h.bodies.symm⟩
      · rw [nothing]
        rfl
      · rw [nothing]
        exact h
  | cons p ps ih =>
      have rest : ∀ q ∈ ps, q.WellFormed := fun q mem => h.wf q (List.mem_cons_of_mem p mem)
      have cut := h.cut
      rw [List.flatMap_cons] at cut
      generalize taken : take buffer = attempt
      cases taken ▸ p.take_received (h.wf p List.mem_cons_self) cut with
      -- Noise may have been dropped, so what is still to come begins with another parcel.
      | waiting q buffer' wf body cut' missing =>
          rw [drainLenient_incomplete decoder taken]
          refine ⟨[], bodies, q :: ps, rfl, rfl, ⟨?_, ?_, cut'⟩, fun none_ => absurd none_ missing⟩
          · intro r mem
            cases List.mem_cons.mp mem with
            | inl same => exact same ▸ wf
            | inr mem => exact rest r mem
          · rw [List.map_cons, body]
            exact h.bodies
      | complete buffer' cut' =>
          rw [drainLenient_body decoder taken]
          obtain ⟨others, left, ps', all, items, toCome, last⟩ := ih ⟨rest, rfl, cut'⟩
          refine ⟨p.body :: others, left, ps', ?_, ?_, toCome, last⟩
          · rw [← h.bodies, List.map_cons, all, List.cons_append]
          · rw [items, List.map_cons]

theorem readLenient_toCome {bodies : List Bytes} {buffer : Bytes} (chunks : List Bytes)
    {ps : List Parcel} (h : ToCome bodies buffer chunks.flatten ps) (drained : chunks = [] → bodies = []) :
    readLenient decoder buffer chunks = (bodies.map fun body => .ok (verdict decoder body), []) := by
  induction chunks generalizing bodies buffer ps with
  | nil =>
      cases drained rfl
      have none_ := List.map_eq_nil_iff.mp h.bodies
      have empty := h.cut
      rw [none_, List.flatten_nil, List.append_nil] at empty
      rw [readLenient, empty]
      rfl
  | cons chunk chunks ih =>
      have received : ToCome bodies (buffer ++ chunk) chunks.flatten ps :=
        ⟨h.wf, h.bodies, by rw [List.append_assoc]; exact h.cut⟩
      obtain ⟨taken, left, ps', all, items, toCome, last⟩ := drainLenient_toCome decoder received
      -- After the last chunk there is nothing to come, as draining has seen all octets.
      have others := ih toCome (by rintro rfl; exact last rfl)
      rw [readLenient, others, items, all, List.map_append]

/-- However the octets of well-formed frames are cut into chunks, each body is read by itself, in
order; no header is found broken, and nothing is left in the buffer. -/
theorem readLenient_octets (ps : List Parcel) (wf : ∀ p ∈ ps, p.WellFormed) (chunks : List Bytes)
    (cut : chunks.flatten = ps.flatMap Parcel.octets) :
    readLenient decoder [] chunks = (ps.map fun p => .ok (verdict decoder p.body), []) := by
  have toCome : ToCome (ps.map (·.body)) [] chunks.flatten ps := ⟨wf, rfl, cut⟩
  have drained : chunks = [] → ps.map (·.body) = [] := by
    rintro rfl
    cases ps with
    | nil => rfl
    | cons p ps =>
        obtain ⟨none_, -⟩ := List.append_eq_nil_iff.mp (cut.symm.trans rfl)
        obtain ⟨behind, header⟩ := p.header_eq_mark
        have empty := congrArg List.length none_
        simp only [Parcel.octets, header, List.length_append, List.length_nil] at empty
        have : mark.length = 14 := rfl
        omega
  rw [readLenient_toCome decoder chunks toCome drained, List.map_map]
  rfl

end

/-- A body that looks like a frame behind noise that looks like a header, and a frame as it is
usually written, in three pieces. -/
theorem readLenient_octets_noisy :
    let ps : List Parcel :=
      [{ noise := Utf8.encode "\r\n\r\nContent-", others := ["Content-Type: json"]
         body := Utf8.encode "Content-Length: 2\r\n\r\n[]" },
        { body := Utf8.encode "[2]" }]
    let wire := ps.flatMap Parcel.octets
    readLenient Decode.json [] [wire.take 20, (wire.drop 20).take 60, wire.drop 80] =
      (ps.map fun p => .ok (verdict Decode.json p.body), []) := by
  intro ps wire
  apply readLenient_octets
  · intro p mem
    obtain rfl | rfl : p = _ ∨ p = _ := by simpa [ps] using mem
    · exact ⟨by decide, firstBehind_of_splitAt? (show _ = some (_, headerEnd) by decide), by decide⟩
    · exact ⟨by decide, firstBehind_of_splitAt? (show _ = some (_, headerEnd) by decide), by decide⟩
  · rfl

end DebugAdapter.Framing.Headed
