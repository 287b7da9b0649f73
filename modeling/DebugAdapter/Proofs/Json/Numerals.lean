import DebugAdapter.Json.Document
import DebugAdapter.Json.Render
import DebugAdapter.Proofs.Text.Utf8
/-! # Reading back JSON integers

The digits of an integer end where no digit follows, and an integer that fits into 64 bits is read
back exactly. Behind a number in a compact text stands a comma, a closing bracket or nothing.
-/

namespace DebugAdapter

open Utf8 (encodeChars)

/-- The octets of a number's decimal digits. -/
def Numeral.digits (n : Nat) : Bytes := encodeChars (Nat.toDigits 10 n)

namespace Numeral

theorem digits_eq_map (n : Nat) :
    digits n = (Nat.toDigits 10 n).map fun c => UInt8.ofNat c.toNat := by
  apply Utf8.encodeChars_ascii
  intro c hc
  have digit := Nat.isDigit_of_mem_toDigits (by decide) (by decide) hc
  have range : c.toNat ≤ 0x39 := (Char.isDigit_iff_toNat.mp digit).2
  omega

theorem octet_digitChar {d : Nat} (h : d < 10) :
    Document.isDigit (UInt8.ofNat (Nat.digitChar d).toNat) = true ∧
      digit (UInt8.ofNat (Nat.digitChar d).toNat) = d := by
  have all : ∀ d < 10, Document.isDigit (UInt8.ofNat (Nat.digitChar d).toNat) = true ∧
      digit (UInt8.ofNat (Nat.digitChar d).toNat) = d := by decide
  exact all d h

theorem digits_of_lt {n : Nat} (h : n < 10) :
    digits n = [UInt8.ofNat (Nat.digitChar n).toNat] := by
  rw [digits_eq_map, Nat.toDigits_of_lt_base h]
  rfl

theorem digits_of_le {n : Nat} (h : 10 ≤ n) :
    digits n = digits (n / 10) ++ [UInt8.ofNat (Nat.digitChar (n % 10)).toNat] := by
  rw [digits_eq_map, digits_eq_map, Nat.toDigits_of_base_le (by decide) h, List.map_append]
  rfl

theorem digits_ne_nil (n : Nat) : digits n ≠ [] := by
  rw [digits_eq_map]
  simp

theorem isDigit_of_mem_digits {n : Nat} : ∀ b ∈ digits n, Document.isDigit b = true := by
  induction n using Nat.strongRecOn with
  | ind n ih =>
      rcases Nat.lt_or_ge n 10 with small | large
      · simpa [digits_of_lt small] using (octet_digitChar small).1
      · intro b hb
        rw [digits_of_le large, List.mem_append, List.mem_singleton] at hb
        rcases hb with hb | rfl
        · exact ih (n / 10) (by omega) b hb
        · exact (octet_digitChar (show n % 10 < 10 by omega)).1

theorem natOf_digits (n : Nat) : natOf (digits n) = n := by
  induction n using Nat.strongRecOn with
  | ind n ih =>
      rcases Nat.lt_or_ge n 10 with small | large
      · simp [digits_of_lt small, natOf, (octet_digitChar small).2]
      · have front := ih (n / 10) (by omega)
        have last := (octet_digitChar (show n % 10 < 10 by omega)).2
        simp only [natOf] at front
        simp only [digits_of_le large, natOf, List.foldl_append, front, List.foldl_cons, last,
          List.foldl_nil]
        omega

/-- Only zero begins with a zero. -/
theorem head?_digits {n : Nat} (h : 0 < n) : (digits n).head? ≠ some 0x30 := by
  induction n using Nat.strongRecOn with
  | ind n ih =>
      rcases Nat.lt_or_ge n 10 with small | large
      · have value := (octet_digitChar small).2
        rw [digits_of_lt small, List.head?_cons, ne_eq, Option.some.injEq]
        intro zero
        rw [zero] at value
        simp [digit] at value
        omega
      · have front := ih (n / 10) (by omega) (by omega)
        cases hd : digits (n / 10) with
        | nil => exact absurd hd (digits_ne_nil _)
        | cons d ds =>
            rw [hd] at front
            rw [digits_of_le large, hd, List.cons_append]
            exact front

theorem le_foldl_digit (ds : Bytes) (s : Nat) : s ≤ ds.foldl (fun n d => n * 10 + digit d) s := by
  induction ds generalizing s with
  | nil => exact Nat.le_refl s
  | cons d ds ih =>
      have step := ih (s * 10 + digit d)
      rw [List.foldl_cons]
      omega

/-- Digits whose number fits into 64 bits are all taken. -/
theorem take_of_le {ds : Bytes} {s : Nat}
    (h : ds.foldl (fun n d => n * 10 + digit d) s ≤ maxSignificand) :
    take s ds = (ds.foldl (fun n d => n * 10 + digit d) s, ds.length) := by
  induction ds generalizing s with
  | nil => rfl
  | cons d ds ih =>
      rw [List.foldl_cons] at h
      have fits := Nat.le_trans (le_foldl_digit ds (s * 10 + digit d)) h
      simp only [take, fits, if_true, ih h, List.foldl_cons, List.length_cons]

theorem take_digits {n : Nat} (h : n ≤ maxSignificand) :
    take 0 (digits n) = (n, (digits n).length) := by
  have value := natOf_digits n
  rw [natOf] at value
  rw [take_of_le (by rw [value]; exact h), value]

end Numeral

namespace Document

/-- What may stand behind a number in a compact text. -/
def EndsNumber (rest : Bytes) : Prop := ∀ b ∈ rest.head?, b = 0x2C ∨ b = 0x5D ∨ b = 0x7D

theorem EndsNumber.not_digit {rest : Bytes} (h : EndsNumber rest) :
    rest.takeWhile isDigit = [] ∧ rest.dropWhile isDigit = rest := by
  cases rest with
  | nil => exact ⟨rfl, rfl⟩
  | cons b rest =>
      have stop : isDigit b = false := by
        rcases h b rfl with rfl | rfl | rfl <;> decide
      constructor <;> simp [stop]

theorem splitDigits_append {ds rest : Bytes} (hds : ∀ b ∈ ds, isDigit b = true)
    (hrest : EndsNumber rest) : splitDigits (ds ++ rest) = (ds, rest) := by
  rw [splitDigits, List.takeWhile_append_of_pos hds, List.dropWhile_append_of_pos hds,
    hrest.not_digit.1, hrest.not_digit.2, List.append_nil]

theorem wholeDigits_digits (n : Nat) {rest : Bytes} (hrest : EndsNumber rest) :
    wholeDigits (Numeral.digits n ++ rest) = .ok (Numeral.digits n, rest) := by
  have split := splitDigits_append (Numeral.isDigit_of_mem_digits (n := n)) hrest
  rcases Nat.lt_or_ge n 10 with small | large
  · rw [Numeral.digits_of_lt small] at split ⊢
    simp only [wholeDigits, split]
  · have first := Numeral.head?_digits (show 0 < n by omega)
    obtain ⟨c, d, ds, hds⟩ : ∃ c d ds, Numeral.digits n = c :: d :: ds := by
      rw [Numeral.digits_of_le large]
      cases hd : Numeral.digits (n / 10) with
      | nil => exact absurd hd (Numeral.digits_ne_nil _)
      | cons c front => cases front <;> exact ⟨_, _, _, rfl⟩
    rw [hds] at split first ⊢
    simp only [wholeDigits, split]
    exact if_neg first

theorem fractionDigits_end {rest : Bytes} (h : EndsNumber rest) :
    fractionDigits rest = .ok (none, rest) := by
  cases rest with
  | nil => rfl
  | cons b rest => rcases h b rfl with rfl | rfl | rfl <;> rfl

theorem exponentDigits_end {rest : Bytes} (h : EndsNumber rest) :
    exponentDigits rest = .ok (none, rest) := by
  cases rest with
  | nil => rfl
  | cons b rest => rcases h b rfl with rfl | rfl | rfl <;> rfl

theorem numeral_digits (negative : Bool) (n : Nat) {rest : Bytes} (h : EndsNumber rest) :
    numeral negative (Numeral.digits n ++ rest) =
      .ok (⟨negative, Numeral.digits n, none, none⟩, rest) := by
  rw [numeral, wholeDigits_digits n h]
  simp only [bind, Except.bind, fractionDigits_end h, exponentDigits_end h]
  rfl

/-- A natural number of 64 bits is read back from its digits. -/
theorem numberToken_digits {n : Nat} (h : n ≤ Numeral.maxSignificand) {rest : Bytes}
    (hrest : EndsNumber rest) :
    numberToken false (Numeral.digits n ++ rest) = (.number (.int n), some rest) := by
  rw [numberToken, numeral_digits false n hrest]
  simp [Numeral.value?, Numeral.take_digits h]

/-- A negative integer of 64 bits is read back from the digits behind its sign. -/
theorem numberToken_negative {n : Nat} (pos : 0 < n) (h : n ≤ 9223372036854775808) {rest : Bytes}
    (hrest : EndsNumber rest) :
    numberToken true (Numeral.digits n ++ rest) = (.number (.int (-n)), some rest) := by
  have fits : n ≤ Numeral.maxSignificand := Nat.le_trans h (by decide)
  have exact_ : ¬ (n = 0 ∨ 9223372036854775808 < n) := by omega
  rw [numberToken, numeral_digits true n hrest]
  simp [Numeral.value?, Numeral.take_digits fits, exact_]

end Document

end DebugAdapter
