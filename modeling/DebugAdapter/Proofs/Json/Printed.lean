import DebugAdapter.Framing.Delimited
import DebugAdapter.Proofs.Json.RoundTrip
/-!
# The octets of a JSON text

A compact text holds no control character: strings escape them, and nothing else could bring one. So
a control character can stand between texts.
-/

namespace DebugAdapter

namespace Text

/-- Characters none of which is a control character. -/
def Printed (cs : List Char) : Prop := ∀ c ∈ cs, 0x20 ≤ c.toNat

@[simp]
theorem printed_nil : Printed [] := List.forall_mem_nil _

@[simp]
theorem printed_cons {c : Char} {cs : List Char} :
    Printed (c :: cs) ↔ 0x20 ≤ c.toNat ∧ Printed cs :=
  List.forall_mem_cons

@[simp]
theorem printed_append {cs ds : List Char} : Printed (cs ++ ds) ↔ Printed cs ∧ Printed ds :=
  List.forall_mem_append

theorem Printed.sublist {cs ds : List Char} (printed : Printed ds) (sublist : cs.Sublist ds) :
    Printed cs :=
  fun c member => printed c (sublist.subset member)

theorem printed_replicate (n : Nat) {c : Char} (printed : 0x20 ≤ c.toNat) :
    Printed (List.replicate n c) := by
  intro d member
  rwa [List.eq_of_mem_replicate member]

theorem printed_toDigits (n : Nat) : Printed (Nat.toDigits 10 n) := by
  intro c member
  have digit := Nat.isDigit_of_mem_toDigits (by decide) (by decide) member
  have range : 0x30 ≤ c.toNat := (Char.isDigit_iff_toNat.mp digit).1
  omega

end Text

open Text (Printed printed_toDigits printed_replicate)

namespace Utf8

theorem le_of_mem_encodeChars {cs : List Char} (printed : Printed cs) :
    ∀ b ∈ encodeChars cs, 0x20 ≤ b.toNat := by
  intro b member
  obtain ⟨c, member, octet⟩ := List.mem_flatMap.mp member
  have visible := printed c member
  rcases Nat.lt_or_ge c.toNat 0x80 with ascii | wide
  · rw [encodeChar_ascii ascii, List.mem_singleton] at octet
    rw [octet, UInt8.toNat_ofNat']
    omega
  · have := le_of_mem_encodeChar wide b octet
    omega

end Utf8

/-! ## Numbers -/

namespace Decimal

theorem positional_printed {whole : List Char} (printed : Printed whole) (x : Decimal) :
    Printed (x.positional whole) := by
  have digits : Printed x.digitChars := printed_toDigits x.digits
  have zeros (n : Nat) : Printed (List.replicate n '0') := printed_replicate n (by decide)
  unfold positional
  split
  · simp [digits, zeros, printed]
  · dsimp only
    split
    · simp [digits.sublist (List.take_sublist ..), digits.sublist (List.drop_sublist ..)]
    · simp [digits, zeros]

theorem scientific_printed (x : Decimal) : Printed x.scientific := by
  have digits : Printed x.digitChars := printed_toDigits x.digits
  have exponent : Printed (Nat.toDigits 10 x.leadingExponent.natAbs) := printed_toDigits _
  have sign : 0x20 ≤ (if x.leadingExponent < 0 then '-' else '+').toNat := by split <;> decide
  unfold scientific
  split
  · rename_i d f fs mantissa
    rw [mantissa, Text.printed_cons] at digits
    simpa [sign, exponent] using digits
  · simp [digits, sign, exponent]

end Decimal

theorem Binary64.dataText_printed (x : Binary64) : Printed x.dataText.toList := by
  have signed (text : List Char) (printed : Printed text) : Printed (signed x text) := by
    unfold Binary64.signed
    split <;> simp [printed]
  rw [dataText, String.toList_ofList]
  refine signed _ ?_
  split
  · simp
  · dsimp only
    split
    · exact Decimal.positional_printed (by simp) _
    · exact Decimal.scientific_printed _

/-! ## Values -/

namespace Json

theorem hexDigit_printed {n : Nat} (h : n < 16) : 0x20 ≤ (hexDigit n).toNat := by
  have all : ∀ n < 16, 0x20 ≤ (hexDigit n).toNat := by decide
  exact all n h

theorem escapeChar_printed (c : Char) : Printed (escapeChar c) := by
  fun_cases escapeChar c with
  | case8 _ _ _ _ _ _ _ control =>
      simp [hexDigit_printed (show c.toNat / 16 < 16 by omega),
        hexDigit_printed (show c.toNat % 16 < 16 by omega)]
  | case9 _ _ _ _ _ _ _ visible => simpa using visible
  | case1 | case2 | case3 | case4 | case5 | case6 | case7 => simp

theorem renderString_printed (s : String) : Printed (renderString s) := by
  have escaped : Printed (s.toList.flatMap escapeChar) := by
    intro c member
    obtain ⟨d, -, member⟩ := List.mem_flatMap.mp member
    exact escapeChar_printed d c member
  simp [renderString, escaped]

theorem renderNumber_printed (n : Number) : Printed (renderNumber n) := by
  cases n with
  | int n =>
      have digits := printed_toDigits n.natAbs
      rw [renderNumber, renderInt]
      split <;> simp [digits]
  | float x => exact x.dataText_printed

mutual

theorem render_printed (v : Json) : Printed v.render := by
  cases v with
  | null => simp [render]
  | bool b => cases b <;> simp [render]
  | number n => exact renderNumber_printed n
  | string s => exact renderString_printed s
  | array items => simp [render, renderItems_printed items]
  | object members => simp [render, renderMembers_printed members]

theorem renderItems_printed (vs : List Json) : Printed (renderItems vs) := by
  cases vs with
  | nil => simp [renderItems]
  | cons v vs =>
      have first := render_printed v
      cases vs with
      | nil => exact first
      | cons w vs => simp [renderItems, first, renderItems_printed (w :: vs)]

theorem renderMembers_printed (ms : List (String × Json)) : Printed (renderMembers ms) := by
  cases ms with
  | nil => simp [renderMembers]
  | cons m ms =>
      obtain ⟨key, v⟩ := m
      have name := renderString_printed key
      have first := render_printed v
      cases ms with
      | nil => simp [renderMembers, name, first]
      | cons m ms => simp [renderMembers, name, first, renderMembers_printed (m :: ms)]

end

/-- No control character is in a text. -/
theorem bytes_printed (v : Json) : ∀ b ∈ v.bytes, 0x20 ≤ b.toNat :=
  Utf8.le_of_mem_encodeChars (render_printed v)

end Json

namespace Framing.Delimiting

/-- Whether the delimiter stands in no text whose numbers are integers, so that every such message
can be written. -/
def OutOfBand (d : Delimiting) : Prop := ∀ v : Json, v.Integral → d.delimiter ∉ v.bytes

/-- A control character stands in no text at all. -/
theorem notMem_bytes_of_control {d : Delimiting} (control : d.delimiter < 0x20) (v : Json) :
    d.delimiter ∉ v.bytes := by
  intro member
  have printed := v.bytes_printed d.delimiter member
  exact absurd (UInt8.lt_iff_toNat_lt.mp control) (Nat.not_lt.mpr printed)

theorem outOfBand_of_control {d : Delimiting} (control : d.delimiter.toNat < 0x20) :
    d.OutOfBand :=
  fun v _ => notMem_bytes_of_control (UInt8.lt_iff_toNat_lt.mpr control) v

end Framing.Delimiting

end DebugAdapter
