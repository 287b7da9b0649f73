/-!
# UTF-8

Octets read as characters, one octet at a time. A stretch of octets that is no character is kept
apart as one flaw: the flaw holds the octets that still agreed with some character, and the octet
that broke the agreement is looked at again. The bounds on the second octet leave out overlong
forms, surrogates and everything past U+10FFFF, so a completed character is always valid.
-/

namespace DebugAdapter

/-- Octets, in the order in which they travel. -/
abbrev Bytes := List UInt8

namespace Utf8

/-- The octets of some characters. -/
def encodeChars (cs : List Char) : Bytes := cs.flatMap String.utf8EncodeChar

/-- The octets of a text. -/
def encode (s : String) : Bytes := encodeChars s.toList

/-- How far into a character the reader is. -/
inductive State where
  /-- Between two characters. -/
  | start
  /-- `more + 1` octets are missing, the next one from `low` to `high`; `code` holds the bits so
  far. -/
  | within (more : Nat) (low high : UInt8) (code : Nat)
deriving DecidableEq, Repr

/-- The first octet of a character, or a flaw of its own. -/
def lead (b : UInt8) : State × List (Option Char) :=
  if b < 0x80 then (.start, [some (Char.ofNat b.toNat)])
  else if b < 0xC2 then (.start, [none])
  else if b < 0xE0 then (.within 0 0x80 0xBF (b.toNat % 32), [])
  else if b = 0xE0 then (.within 1 0xA0 0xBF 0, [])
  else if b = 0xED then (.within 1 0x80 0x9F 13, [])
  else if b < 0xF0 then (.within 1 0x80 0xBF (b.toNat % 16), [])
  else if b = 0xF0 then (.within 2 0x90 0xBF 0, [])
  else if b < 0xF4 then (.within 2 0x80 0xBF (b.toNat % 8), [])
  else if b = 0xF4 then (.within 2 0x80 0x8F 4, [])
  else (.start, [none])

/-- One octet: the state after it, and the characters and flaws it completes. -/
def step : State → UInt8 → State × List (Option Char)
  | .start, b => lead b
  | .within more low high code, b =>
    if low ≤ b ∧ b ≤ high then
      let code := code * 64 + b.toNat % 64
      match more with
      | 0 => (.start, [some (Char.ofNat code)])
      | more + 1 => (.within more 0x80 0xBF code, [])
    else ((lead b).1, none :: (lead b).2)

/-- The characters and flaws in some octets, from the state `st` on. -/
def scanFrom : State → Bytes → List (Option Char)
  | .start, [] => []
  | .within .., [] => [none]
  | st, b :: rest => (step st b).2 ++ scanFrom (step st b).1 rest

/-- The characters in some octets; `none` stands for each flaw between them. -/
def scan (bs : Bytes) : List (Option Char) := scanFrom .start bs

/-- All characters, or nothing if there is a flaw. -/
def allSome : List (Option Char) → Option (List Char)
  | [] => some []
  | none :: _ => none
  | some c :: rest => (allSome rest).map (c :: ·)

/-- The text of some octets, if they are flawless. -/
def decode? (bs : Bytes) : Option String := (allSome (scan bs)).map String.ofList

/-- The text of some octets, with a replacement character for each flaw. -/
def decodeLossy (bs : Bytes) : String :=
  String.ofList ((scan bs).map (·.getD '\uFFFD'))

end Utf8

end DebugAdapter
