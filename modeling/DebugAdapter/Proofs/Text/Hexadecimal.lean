import DebugAdapter.Proofs.Text.Integer
/-!
# Hexadecimal numbers

A number that lies in the range is read back from its hexadecimal digits, with the letters among
them in either case.
-/

namespace DebugAdapter.Text

/-- Whether characters are the hexadecimal digits of a number, in either case. -/
def IsHexadecimal (cs : List Char) (n : Nat) : Prop := cs.map Char.toLower = Nat.toDigits 16 n

/-! ## Digits -/

/-- A digit's value, by the place of its character. -/
theorem digitValue?_eq (radix : Nat) (c : Char) : digitValue? radix c =
    (if 48 ≤ c.toNat ∧ c.toNat ≤ 57 then some (c.toNat - 48)
      else if 97 ≤ c.toNat ∧ c.toNat ≤ 122 then some (c.toNat - 87)
      else if 65 ≤ c.toNat ∧ c.toNat ≤ 90 then some (c.toNat - 55)
      else none).filter (· < radix) := by
  have place (a b : Char) : a ≤ b ↔ a.toNat ≤ b.toNat := UInt32.le_iff_toNat_le
  simp only [digitValue?, place]
  congr 1
  simp only [Char.reduceToNat]
  grind

theorem toNat_toLower (c : Char) :
    c.toLower.toNat = if 65 ≤ c.toNat ∧ c.toNat ≤ 90 then c.toNat + 32 else c.toNat := by
  have upper : (c.val ≥ 'A'.val ∧ c.val ≤ 'Z'.val) ↔ 65 ≤ c.toNat ∧ c.toNat ≤ 90 := by
    simp only [ge_iff_le, UInt32.le_iff_toNat_le]
    rfl
  unfold Char.toLower
  split
  · rename_i within
    rw [if_pos (upper.mp within)]
    have small := (upper.mp within).2
    simp only [Char.toNat, UInt32.toNat_add] at small ⊢
    have : ('a'.val - 'A'.val).toNat = 32 := rfl
    omega
  · rename_i outside
    rw [if_neg (mt upper.mpr outside)]

/-- The case of a letter does not matter. -/
theorem digitValue?_toLower (radix : Nat) (c : Char) :
    digitValue? radix c.toLower = digitValue? radix c := by
  rw [digitValue?_eq, digitValue?_eq, toNat_toLower]
  congr 1
  grind

theorem digitValue?_digitChar {d : Nat} (small : d < 16) :
    digitValue? 16 (Nat.digitChar d) = some d := by
  have all : ∀ d < 16, digitValue? 16 (Nat.digitChar d) = some d := by decide
  exact all d small

/-- No digit is blank. -/
theorem isBlank_of_digitValue? {radix : Nat} {c : Char}
    (digit : (digitValue? radix c).isSome = true) : isBlank c = false := by
  have visible : 48 ≤ c.toNat ∧ c.toNat ≤ 122 := by
    rw [digitValue?_eq] at digit
    grind
  simp only [isBlank]
  grind

/-- What is appended is taken behind what stands before it. -/
theorem appendDigits_append (range : IntegerRange) (radix : Nat) (negative : Bool) (v : Int)
    (front back : List Char) : appendDigits range radix negative v (front ++ back) =
      (appendDigits range radix negative v front).bind fun w =>
        appendDigits range radix negative w back := by
  induction front generalizing v with
  | nil => rfl
  | cons c front ih =>
      cases digit : digitValue? radix c with
      | none => simp [appendDigits, digit, Except.bind]
      | some d =>
          simp only [List.cons_append, appendDigits, digit]
          generalize (if negative = true then v * radix - d else v * radix + d) = next
          cases range.holds next with
          | true => exact ih next
          | false => rfl

theorem appendDigits_single {range : IntegerRange} {radix d : Nat} {v : Int} {c : Char}
    (digit : digitValue? radix c = some d) (inside : range.holds (v * radix + d) = true) :
    appendDigits range radix false v [c] = .ok (v * radix + d) := by
  simp [appendDigits, digit, inside]

/-! ## Numbers -/

theorem toDigits_split {n : Nat} (large : 16 ≤ n) :
    Nat.toDigits 16 n = Nat.toDigits 16 (n / 16) ++ [Nat.digitChar (n % 16)] := by
  rw [Nat.toDigits_eq_if (by decide), if_neg (by omega)]

theorem isHexadecimal_toDigits (n : Nat) : IsHexadecimal (Nat.toDigits 16 n) n := by
  have lower : ∀ d < 16, (Nat.digitChar d).toLower = Nat.digitChar d := by decide
  induction n using Nat.strongRecOn with
  | ind n ih =>
      by_cases small : n < 16
      · rw [IsHexadecimal, Nat.toDigits_of_lt_base small, List.map_singleton, lower n small]
      · have front : (Nat.toDigits 16 (n / 16)).map Char.toLower = Nat.toDigits 16 (n / 16) :=
          ih (n / 16) (by omega)
        rw [IsHexadecimal, toDigits_split (Nat.le_of_not_lt small), List.map_append, front,
          List.map_singleton, lower _ (Nat.mod_lt n (by decide))]

theorem IsHexadecimal.split {cs : List Char} {n : Nat} (hexadecimal : IsHexadecimal cs n) :
    ∃ front c, cs = front ++ [c] ∧ digitValue? 16 c = some (n % 16) ∧
      (n < 16 ∧ front = [] ∨ 16 ≤ n ∧ IsHexadecimal front (n / 16)) := by
  have last (c : Char) {d : Nat} (small : d < 16) (same : c.toLower = Nat.digitChar d) :
      digitValue? 16 c = some d := by
    rw [← digitValue?_toLower, same, digitValue?_digitChar small]
  have remainder : n % 16 < 16 := Nat.mod_lt n (by decide)
  by_cases small : n < 16
  · rw [IsHexadecimal, Nat.toDigits_of_lt_base small, List.map_eq_singleton_iff] at hexadecimal
    obtain ⟨c, rfl, same⟩ := hexadecimal
    rw [← Nat.mod_eq_of_lt small] at same
    exact ⟨[], c, rfl, last c remainder same, .inl ⟨small, rfl⟩⟩
  · have large : 16 ≤ n := Nat.le_of_not_lt small
    rw [IsHexadecimal, toDigits_split large, List.map_eq_append_iff] at hexadecimal
    obtain ⟨front, back, rfl, front_, back_⟩ := hexadecimal
    obtain ⟨c, rfl, same⟩ := List.map_eq_singleton_iff.mp back_
    exact ⟨front, c, rfl, last c remainder same, .inr ⟨large, front_⟩⟩

theorem IsHexadecimal.digits {cs : List Char} {n : Nat} (hexadecimal : IsHexadecimal cs n) :
    cs ≠ [] ∧ ∀ c ∈ cs, (digitValue? 16 c).isSome = true := by
  induction n using Nat.strongRecOn generalizing cs with
  | ind n ih =>
      obtain ⟨front, c, rfl, digit, shape⟩ := hexadecimal.split
      refine ⟨by simp, fun d mem => ?_⟩
      rcases List.mem_append.mp mem with before | last
      · obtain ⟨-, rfl⟩ | ⟨large, hexadecimal⟩ := shape
        · cases before
        · exact (ih (n / 16) (by omega) hexadecimal).2 d before
      · rw [List.mem_singleton.mp last, digit]
        rfl

theorem IsHexadecimal.appendDigits {range : IntegerRange} (low : range.low ≤ 0) {cs : List Char}
    {n : Nat} (hexadecimal : IsHexadecimal cs n) (fits : (n : Int) ≤ range.high) :
    Text.appendDigits range 16 false 0 cs = .ok (n : Int) := by
  induction n using Nat.strongRecOn generalizing cs with
  | ind n ih =>
      obtain ⟨front, c, rfl, digit, shape⟩ := hexadecimal.split
      have front_ : Text.appendDigits range 16 false 0 front = .ok ((n / 16 : Nat) : Int) := by
        obtain ⟨small, rfl⟩ | ⟨large, hexadecimal⟩ := shape
        · rw [Nat.div_eq_of_lt small]
          rfl
        · exact ih (n / 16) (by omega) hexadecimal (by omega)
      have whole : ((n / 16 : Nat) : Int) * (16 : Nat) + (n % 16 : Nat) = n := by omega
      have inside : range.holds n = true := by
        simp only [IntegerRange.holds, Bool.and_eq_true, decide_eq_true_eq]
        omega
      rw [appendDigits_append, front_, Except.bind, appendDigits_single digit (whole.symm ▸ inside),
        whole]

/-- A number that lies in the range is read back from its digits. -/
theorem IsHexadecimal.readInteger {range : IntegerRange} (low : range.low ≤ 0) {cs : List Char}
    {n : Nat} (hexadecimal : IsHexadecimal cs n) (fits : (n : Int) ≤ range.high) :
    Text.readInteger range 16 cs = .ok (n : Int) := by
  obtain ⟨some_, digits⟩ := hexadecimal.digits
  rw [readInteger_signless some_]
  · exact hexadecimal.appendDigits low fits
  · intro c member
    have digit := digits c member
    constructor <;> rintro rfl <;> cases digit

theorem IsHexadecimal.visible {cs : List Char} {n : Nat} (hexadecimal : IsHexadecimal cs n) :
    ∀ c ∈ cs, isBlank c = false :=
  fun c mem => isBlank_of_digitValue? (hexadecimal.digits.2 c mem)

end DebugAdapter.Text
