import DebugAdapter.Proofs.Text.Blank
import DebugAdapter.Text.Integer
import Mathlib.Data.Nat.Digits.Defs
/-! # Reading back integers

A text is an integer of a range if it has one digit at least, with or without a sign, and the number
lies in the range. So a number of the range is read back from its decimal digits.
-/

namespace DebugAdapter.Text

/-! ## Digits -/

theorem digitValue?_digit {c : Char} (h : c.isDigit = true) :
    digitValue? 10 c = some (c.toNat - '0'.toNat) := by
  obtain ⟨low, high⟩ := Char.isDigit_iff_toNat.mp h
  have inside : '0' ≤ c ∧ c ≤ '9' := ⟨low, high⟩
  have small : c.toNat - '0'.toNat < 10 := by
    have zero : '0'.toNat = 48 := rfl
    have nine : '9'.toNat = 57 := rfl
    omega
  simp only [digitValue?, inside, and_self, if_true]
  rw [Option.filter_some, if_pos (decide_eq_true small)]

theorem digitValue?_other {c : Char} (h : c.isDigit = false) : digitValue? 10 c = none := by
  have outside : ¬ ('0' ≤ c ∧ c ≤ '9') := by
    rintro ⟨low, high⟩
    rw [Char.isDigit_iff_toNat.mpr ⟨low, high⟩] at h
    cases h
  -- A letter stands for ten at least.
  unfold digitValue?
  split_ifs <;> simp

theorem le_ofDigitChars (ds : List Char) (v : Nat) : v ≤ Nat.ofDigitChars 10 ds v := by
  induction ds generalizing v with
  | nil => exact Nat.le_refl v
  | cons c ds ih =>
      have step := ih (10 * v + (c.toNat - '0'.toNat))
      rw [Nat.ofDigitChars, List.foldl_cons]
      exact Nat.le_trans (by omega) step

/-- A number with its sign. -/
def signed (negative : Bool) (n : Nat) : Int := if negative then -n else n

/-- What lies nearer to zero lies in the range as well. -/
theorem holds_signed {range : IntegerRange} (low : range.low ≤ 0) (high : 0 ≤ range.high)
    {negative : Bool} {m n : Nat} (le : m ≤ n) (holds : range.holds (signed negative n) = true) :
    range.holds (signed negative m) = true := by
  simp only [IntegerRange.holds, Bool.and_eq_true, decide_eq_true_eq] at holds ⊢
  cases negative <;> simp only [signed, Bool.false_eq_true, if_false, if_true] at holds ⊢ <;> omega

/-- Digits are taken to their end, and the number that they are has to lie in the range. -/
theorem appendDigits_eq_ok {range : IntegerRange} (low : range.low ≤ 0) (high : 0 ≤ range.high)
    (negative : Bool) (ds : List Char) (v : Nat) (inside : range.holds (signed negative v) = true)
    (n : Int) :
    appendDigits range 10 negative (signed negative v) ds = .ok n ↔
      (∀ c ∈ ds, c.isDigit = true) ∧ n = signed negative (Nat.ofDigitChars 10 ds v) ∧
        range.holds n = true := by
  induction ds generalizing v with
  | nil =>
      rw [appendDigits, Nat.ofDigitChars_nil, Except.ok.injEq]
      constructor
      · rintro rfl
        exact ⟨List.forall_mem_nil _, rfl, inside⟩
      · rintro ⟨-, rfl, -⟩
        rfl
  | cons c ds ih =>
      cases digit : c.isDigit with
      | false => simp [appendDigits, digitValue?_other digit, digit]
      | true =>
          have next : (if negative then signed negative v * (10 : Nat) - (c.toNat - '0'.toNat : Nat)
              else signed negative v * (10 : Nat) + (c.toNat - '0'.toNat : Nat)) =
                signed negative (10 * v + (c.toNat - '0'.toNat)) := by
            cases negative <;> simp only [signed, Bool.false_eq_true, if_false, if_true] <;>
              push_cast <;> ring
          have value : Nat.ofDigitChars 10 (c :: ds) v =
              Nat.ofDigitChars 10 ds (10 * v + (c.toNat - '0'.toNat)) := rfl
          rw [appendDigits, digitValue?_digit digit]
          dsimp only
          rw [next, value, List.forall_mem_cons]
          split
          · rename_i inside'
            simp only [ih _ inside', digit, true_and]
          · -- No later digit brings the number back into the range.
            rename_i outside
            refine iff_of_false nofun ?_
            rintro ⟨-, rfl, holds⟩
            exact outside (holds_signed low high (le_ofDigitChars ds _) holds)

/-! ## Integers -/

/-- Decimal digits, at least one. -/
def Digits (cs : List Char) : Prop := cs ≠ [] ∧ ∀ c ∈ cs, c.isDigit = true

theorem digits_toDigits (n : Nat) : Digits (Nat.toDigits 10 n) :=
  ⟨Nat.toDigits_ne_nil, fun _ member => Nat.isDigit_of_mem_toDigits (by decide) (by decide) member⟩

/-- A decimal integer, with or without a sign. -/
inductive IsNumeral : List Char → Int → Prop
  | unsigned {ds : List Char} (digits : Digits ds) : IsNumeral ds (Nat.ofDigitChars 10 ds 0)
  | plus {ds : List Char} (digits : Digits ds) : IsNumeral ('+' :: ds) (Nat.ofDigitChars 10 ds 0)
  | minus {ds : List Char} (digits : Digits ds) :
      IsNumeral ('-' :: ds) (-(Nat.ofDigitChars 10 ds 0 : Nat))

theorem ofDigitChars_toDigits (n : Nat) : Nat.ofDigitChars 10 (Nat.toDigits 10 n) 0 = n :=
  Nat.ofDigitChars_toDigits (by decide) (by decide)

theorem isNumeral_toDigits (n : Nat) : IsNumeral (Nat.toDigits 10 n) n := by
  have numeral := IsNumeral.unsigned (digits_toDigits n)
  rwa [ofDigitChars_toDigits] at numeral

theorem isNumeral_toString (n : Int) : IsNumeral (toString n).toList n := by
  cases n with
  | ofNat n =>
      have text : (toString (Int.ofNat n)).toList = Nat.toDigits 10 n := String.toList_ofList
      rw [text]
      exact isNumeral_toDigits n
  | negSucc n =>
      have text : (toString (Int.negSucc n)).toList = '-' :: Nat.toDigits 10 (n + 1) := by
        rw [show toString (Int.negSucc n) = "-" ++ Nat.repr (n + 1) from rfl, String.toList_append]
        exact congrArg ('-' :: ·) String.toList_ofList
      have numeral := IsNumeral.minus (digits_toDigits (n + 1))
      rw [ofDigitChars_toDigits] at numeral
      rw [text]
      exact numeral

section

variable {range : IntegerRange} {ds : List Char}

theorem readInteger_signless (some_ : ds ≠ []) (signless : ∀ c ∈ ds, c ≠ '+' ∧ c ≠ '-')
    (radix : Nat) : readInteger range radix ds = appendDigits range radix false 0 ds := by
  unfold readInteger
  split
  · exact absurd rfl some_
  all_goals first | rfl | exact absurd (signless _ List.mem_cons_self) (by decide)

theorem readInteger_unsigned (digits : Digits ds) (radix : Nat) :
    readInteger range radix ds = appendDigits range radix false 0 ds := by
  refine readInteger_signless digits.1 (fun c member => ?_) radix
  have digit := digits.2 c member
  constructor <;> rintro rfl <;> cases digit

theorem readInteger_plus (some_ : ds ≠ []) (radix : Nat) :
    readInteger range radix ('+' :: ds) = appendDigits range radix false 0 ds := by
  cases ds with
  | nil => exact absurd rfl some_
  | cons c ds => rfl

theorem readInteger_minus (low : range.low < 0) (some_ : ds ≠ []) (radix : Nat) :
    readInteger range radix ('-' :: ds) = appendDigits range radix true 0 ds := by
  cases ds with
  | nil => exact absurd rfl some_
  | cons c ds => exact if_pos low

end

/-- Exactly the integers of the range are read, each as the number that it is. -/
theorem readInteger_eq_ok {range : IntegerRange} (low : range.low < 0) (high : 0 ≤ range.high)
    {cs : List Char} {n : Int} :
    readInteger range 10 cs = .ok n ↔ IsNumeral cs n ∧ range.holds n = true := by
  have zero : range.holds 0 = true := by
    simp only [IntegerRange.holds, Bool.and_eq_true, decide_eq_true_eq]
    omega
  have taken (negative : Bool) (ds : List Char) :=
    appendDigits_eq_ok (Int.le_of_lt low) high negative ds 0 (by cases negative <;> exact zero) n
  constructor
  · intro read
    unfold readInteger at read
    split at read
    · cases read
    · cases read
    · cases read
    · rename_i ds some_
      obtain ⟨digits, rfl, holds⟩ := (taken false ds).mp read
      exact ⟨.plus ⟨some_, digits⟩, holds⟩
    · rename_i ds some_
      rw [if_pos low] at read
      obtain ⟨digits, rfl, holds⟩ := (taken true ds).mp read
      exact ⟨.minus ⟨some_, digits⟩, holds⟩
    · rename_i some_ _ _ _ _
      obtain ⟨digits, rfl, holds⟩ := (taken false cs).mp read
      exact ⟨.unsigned ⟨some_, digits⟩, holds⟩
  · rintro ⟨numeral, holds⟩
    cases numeral with
    | unsigned digits =>
        rw [readInteger_unsigned digits]
        exact (taken false _).mpr ⟨digits.2, rfl, holds⟩
    | plus digits =>
        rw [readInteger_plus digits.1]
        exact (taken false _).mpr ⟨digits.2, rfl, holds⟩
    | minus digits =>
        rw [readInteger_minus low digits.1]
        exact (taken true _).mpr ⟨digits.2, rfl, holds⟩

/-- A number that lies in the range is read back from its digits. -/
theorem readInteger_toDigits {range : IntegerRange} (low : range.low ≤ 0) {n : Nat}
    (fits : (n : Int) ≤ range.high) : readInteger range 10 (Nat.toDigits 10 n) = .ok (n : Int) := by
  have inside (m : Nat) (le : m ≤ n) : range.holds (m : Int) = true := by
    simp only [IntegerRange.holds, Bool.and_eq_true, decide_eq_true_eq]
    omega
  have digits := digits_toDigits n
  rw [readInteger_unsigned digits]
  refine (appendDigits_eq_ok low (by omega) false _ 0 (inside 0 (Nat.zero_le n)) n).mpr
    ⟨digits.2, ?_, inside n (Nat.le_refl n)⟩
  rw [ofDigitChars_toDigits]
  rfl

/-! ## Integers between blanks -/

theorem isBlank_digit {c : Char} (h : c.isDigit = true) : isBlank c = false := by
  obtain ⟨low, high⟩ := Char.isDigit_iff_toNat.mp h
  have : 48 ≤ c.toNat ∧ c.toNat ≤ 57 := ⟨low, high⟩
  simp only [isBlank, Bool.or_eq_false_iff, Bool.and_eq_false_iff, decide_eq_false_iff_not,
    beq_eq_false_iff_ne, ne_eq]
  omega

theorem IsNumeral.isDigit_or_sign {cs : List Char} {n : Int} (numeral : IsNumeral cs n) :
    ∀ c ∈ cs, c.isDigit = true ∨ c = '+' ∨ c = '-' := by
  intro c member
  cases numeral with
  | unsigned digits => exact .inl (digits.2 c member)
  | plus digits =>
      obtain rfl | member := List.mem_cons.mp member
      · exact .inr (.inl rfl)
      · exact .inl (digits.2 c member)
  | minus digits =>
      obtain rfl | member := List.mem_cons.mp member
      · exact .inr (.inr rfl)
      · exact .inl (digits.2 c member)

theorem IsNumeral.visible {cs : List Char} {n : Int} (numeral : IsNumeral cs n) :
    ∀ c ∈ cs, isBlank c = false := by
  intro c member
  obtain digit | rfl | rfl := numeral.isDigit_or_sign c member
  · exact isBlank_digit digit
  · decide
  · decide

/-- An integer of the range between blanks. -/
def IsField (range : IntegerRange) (cs : List Char) (n : Int) : Prop :=
  ∃ front numeral back, cs = front ++ (numeral ++ back) ∧ (∀ c ∈ front, isBlank c = true) ∧
    (∀ c ∈ back, isBlank c = true) ∧ IsNumeral numeral n ∧ range.holds n = true

theorem readInteger_trimChars {range : IntegerRange} (low : range.low < 0) (high : 0 ≤ range.high)
    {cs : List Char} {n : Int} :
    readInteger range 10 (trimChars cs) = .ok n ↔ IsField range cs n := by
  rw [readInteger_eq_ok low high]
  constructor
  · rintro ⟨numeral, holds⟩
    obtain ⟨front, back, cut, hfront, hback⟩ := exists_trimChars cs
    exact ⟨front, trimChars cs, back, cut, hfront, hback, numeral, holds⟩
  · rintro ⟨front, inner, back, rfl, hfront, hback, numeral, holds⟩
    rw [trimChars_append hfront hback
      (fun c first => numeral.visible c (List.mem_of_mem_head? first))
      (fun c last => numeral.visible c (List.mem_of_getLast? last))]
    exact ⟨numeral, holds⟩

end DebugAdapter.Text
