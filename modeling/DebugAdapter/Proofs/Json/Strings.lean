import DebugAdapter.Json.Document
import DebugAdapter.Json.Render
import DebugAdapter.Proofs.Text.Utf8
/-! # Reading back JSON strings

The reader of strings undoes each escape of the writer and passes over every other character, octet
by octet. So a written string is read back whole, and its reader stops behind the closing quote.
-/

namespace DebugAdapter.Document

open Utf8 (encodeChars)

theorem stringFrom_next {st st' : StringState} {b : UInt8} {octets : Bytes} {flaw : Bool}
    (h : stringMove st b = .next st' octets flaw) (flawed : Bool) (seen rest : Bytes) :
    stringFrom st flawed seen (b :: rest) =
      stringFrom st' (flawed || flaw) (octets.reverse ++ seen) rest := by
  simp only [stringFrom, h]

/-- An octet that stands for itself inside a string. -/
def IsPlain (b : UInt8) : Prop := b ≠ 0x22 ∧ b ≠ 0x5C ∧ 0x20 ≤ b.toNat

theorem stringMove_plain {b : UInt8} (h : IsPlain b) :
    stringMove .plain b = .next .plain [b] false := by
  have visible : ¬ b < 0x20 := by
    rw [UInt8.lt_iff_toNat_lt]
    exact Nat.not_lt.mpr h.2.2
  simp only [stringMove, plainMove, h.1, h.2.1, visible, if_false]

theorem stringFrom_plain {bs : Bytes} (h : ∀ b ∈ bs, IsPlain b) (seen rest : Bytes) :
    stringFrom .plain false seen (bs ++ rest) =
      stringFrom .plain false (bs.reverse ++ seen) rest := by
  induction bs generalizing seen with
  | nil => rfl
  | cons b bs ih =>
      rw [List.cons_append, stringFrom_next (stringMove_plain (h b (by simp))),
        Bool.or_false, ih (fun c hc => h c (by simp [hc]))]
      simp only [List.reverse_cons, List.reverse_nil, List.nil_append, List.append_assoc,
        List.singleton_append]

/-- A letter behind a backslash is read as the octet that it denotes. -/
theorem stringFrom_letter {b o : UInt8} (h : escapedOctet? b = some o) (seen rest : Bytes) :
    stringFrom .plain false seen (0x5C :: b :: rest) =
      stringFrom .plain false (o :: seen) rest := by
  have backslash : stringMove .plain 0x5C = .next .escape [] false := by
    simp [stringMove, plainMove]
  have letter : stringMove .escape b = .next .plain [o] false := by
    simp only [stringMove, escapeMove, h]
  rw [stringFrom_next backslash, stringFrom_next letter]
  rfl

theorem hexDigit_ascii {n : Nat} (h : n < 16) : (Json.hexDigit n).toNat < 0x80 := by
  have all : ∀ n < 16, (Json.hexDigit n).toNat < 0x80 := by decide
  exact all n h

theorem hexValue?_hexDigit {n : Nat} (h : n < 16) :
    hexValue? (UInt8.ofNat (Json.hexDigit n).toNat) = some n := by
  have all : ∀ n < 16, hexValue? (UInt8.ofNat (Json.hexDigit n).toNat) = some n := by decide
  exact all n h

/-- Four hexadecimal digits are read as the character of ASCII with that number. -/
theorem stringFrom_code {n : Nat} (h : n < 0x80) (seen rest : Bytes) :
    stringFrom .plain false seen
        (0x5C :: 0x75 :: 0x30 :: 0x30 :: UInt8.ofNat (Json.hexDigit (n / 16)).toNat ::
          UInt8.ofNat (Json.hexDigit (n % 16)).toNat :: rest) =
      stringFrom .plain false ((String.utf8EncodeChar (Char.ofNat n)).reverse ++ seen) rest := by
  have backslash : stringMove .plain 0x5C = .next .escape [] false := by
    simp [stringMove, plainMove]
  have letter : stringMove .escape 0x75 = .next (.hex 3 (some 0) none) [] false := by
    simp [stringMove, escapeMove, escapedOctet?]
  have zero (more : Nat) : stringMove (.hex (more + 1) (some 0) none) 0x30 =
      .next (.hex more (some 0) none) [] false := by
    simp [stringMove, hexValue?]
  have high : stringMove (.hex 1 (some 0) none) (UInt8.ofNat (Json.hexDigit (n / 16)).toNat) =
      .next (.hex 0 (some (n / 16)) none) [] false := by
    simp only [stringMove, hexValue?_hexDigit (show n / 16 < 16 by omega)]
    simp
  have low : stringMove (.hex 0 (some (n / 16)) none) (UInt8.ofNat (Json.hexDigit (n % 16)).toNat) =
      .next .plain (String.utf8EncodeChar (Char.ofNat n)) false := by
    have code : n / 16 * 16 + n % 16 = n := by omega
    have lead : isLeadSurrogate n = false := by
      simp only [isLeadSurrogate, Bool.and_eq_false_iff, decide_eq_false_iff_not]
      omega
    have trail : isTrailSurrogate n = false := by
      simp only [isTrailSurrogate, Bool.and_eq_false_iff, decide_eq_false_iff_not]
      omega
    simp only [stringMove, hexValue?_hexDigit (show n % 16 < 16 by omega), Option.bind_some,
      Option.map_some, code, codeMove, lead, trail, Bool.false_eq_true, if_false]
  rw [stringFrom_next backslash, stringFrom_next letter, stringFrom_next (zero 2),
    stringFrom_next (zero 1), stringFrom_next high, stringFrom_next low]
  rfl

/-- A character that needs no escape is made of octets that stand for themselves. -/
theorem isPlain_of_mem_encodeChar {c : Char} (quote : c ≠ '"') (backslash : c ≠ '\\')
    (visible : 0x20 ≤ c.toNat) : ∀ b ∈ String.utf8EncodeChar c, IsPlain b := by
  intro b hb
  by_cases ascii : c.toNat < 0x80
  · rw [Utf8.encodeChar_ascii ascii, List.mem_singleton] at hb
    have value : b.toNat = c.toNat := by
      rw [hb, UInt8.toNat_ofNat']
      omega
    refine ⟨?_, ?_, by omega⟩
    · rintro rfl
      exact quote (Char.toNat_inj.mp value.symm)
    · rintro rfl
      exact backslash (Char.toNat_inj.mp value.symm)
  · have beyond := Utf8.le_of_mem_encodeChar (Nat.not_lt.mp ascii) b hb
    refine ⟨?_, ?_, by omega⟩ <;> rintro rfl <;> simp at beyond

/-- A character is read back from its escape. -/
theorem stringFrom_escapeChar (c : Char) (seen rest : Bytes) :
    stringFrom .plain false seen (encodeChars (Json.escapeChar c) ++ rest) =
      stringFrom .plain false ((String.utf8EncodeChar c).reverse ++ seen) rest := by
  fun_cases Json.escapeChar c with
  | case1 =>
      subst c
      exact stringFrom_letter (show escapedOctet? 0x22 = some 0x22 by decide) seen rest
  | case2 =>
      subst c
      exact stringFrom_letter (show escapedOctet? 0x5C = some 0x5C by decide) seen rest
  | case3 =>
      subst c
      exact stringFrom_letter (show escapedOctet? 0x62 = some 0x08 by decide) seen rest
  | case4 =>
      subst c
      exact stringFrom_letter (show escapedOctet? 0x66 = some 0x0C by decide) seen rest
  | case5 =>
      subst c
      exact stringFrom_letter (show escapedOctet? 0x6E = some 0x0A by decide) seen rest
  | case6 =>
      subst c
      exact stringFrom_letter (show escapedOctet? 0x72 = some 0x0D by decide) seen rest
  | case7 =>
      subst c
      exact stringFrom_letter (show escapedOctet? 0x74 = some 0x09 by decide) seen rest
  | case8 _ _ _ _ _ _ _ low =>
      have high : c.toNat / 16 < 16 := by omega
      have digits : encodeChars ['\\', 'u', '0', '0', Json.hexDigit (c.toNat / 16),
          Json.hexDigit (c.toNat % 16)] = [0x5C, 0x75, 0x30, 0x30,
            UInt8.ofNat (Json.hexDigit (c.toNat / 16)).toNat,
            UInt8.ofNat (Json.hexDigit (c.toNat % 16)).toNat] := by
        rw [Utf8.encodeChars_ascii]
        · rfl
        · have hhigh := hexDigit_ascii high
          have hlow := hexDigit_ascii (show c.toNat % 16 < 16 by omega)
          simp [hhigh, hlow]
      rw [digits]
      have read := stringFrom_code (show c.toNat < 0x80 by omega) seen rest
      rwa [Char.ofNat_toNat] at read
  | case9 quote backslash _ _ _ _ _ visible =>
      rw [Utf8.encodeChars_cons, Utf8.encodeChars_nil, List.append_nil]
      exact stringFrom_plain (isPlain_of_mem_encodeChar quote backslash (Nat.not_lt.mp visible)) _ _

theorem stringFrom_escaped (cs : List Char) (seen rest : Bytes) :
    stringFrom .plain false seen (encodeChars (cs.flatMap Json.escapeChar) ++ rest) =
      stringFrom .plain false ((encodeChars cs).reverse ++ seen) rest := by
  induction cs generalizing seen with
  | nil => rfl
  | cons c cs ih =>
      rw [List.flatMap_cons, Utf8.encodeChars_append, List.append_assoc, stringFrom_escapeChar, ih,
        Utf8.encodeChars_cons, List.reverse_append, List.append_assoc]

theorem stringFrom_close (seen rest : Bytes) :
    stringFrom .plain false seen (0x22 :: rest) =
      .complete (Utf8.decode? seen.reverse) rest := by
  simp [stringFrom, stringMove, plainMove]

/-- A text is read back from its string, and reading stops behind it. -/
theorem stringAfterQuote_escaped (s : String) (rest : Bytes) :
    stringAfterQuote (encodeChars (s.toList.flatMap Json.escapeChar) ++ 0x22 :: rest) =
      .complete (some s) rest := by
  rw [stringAfterQuote, stringFrom_escaped, stringFrom_close, List.append_nil, List.reverse_reverse]
  exact congrArg (StringToken.complete · rest) (Utf8.decode?_encode s)

end DebugAdapter.Document
