import DebugAdapter.Text.Base64
/-!
# Reading base64

Characters are read in groups of four, the last of which may be filled up with `=`. What is left of
the last octet must be zero. What is read is what was written.
-/

namespace DebugAdapter.Text

/-- The number below 64 that a character stands for, if it is one of the alphabet. -/
def base64Value? (c : Char) : Option Nat :=
  if 'A' ≤ c ∧ c ≤ 'Z' then some (c.toNat - 'A'.toNat)
  else if 'a' ≤ c ∧ c ≤ 'z' then some (c.toNat - 'a'.toNat + 26)
  else if '0' ≤ c ∧ c ≤ '9' then some (c.toNat - '0'.toNat + 52)
  else if c = '+' then some 62
  else if c = '/' then some 63
  else none

/-- The octets that some characters stand for. -/
def base64Octets? : List Char → Option Bytes
  | [] => some []
  | a :: b :: c :: d :: rest => do
    let n := (← base64Value? a) * 64 + (← base64Value? b)
    if c = '=' then
      if d = '=' ∧ rest = [] ∧ n % 16 = 0 then some [.ofNat (n / 16)] else none
    else
      let n := n * 64 + (← base64Value? c)
      if d = '=' then
        if rest = [] ∧ n % 4 = 0 then some [.ofNat (n / 1024), .ofNat (n / 4 % 256)] else none
      else
        let n := n * 64 + (← base64Value? d)
        let octets ← base64Octets? rest
        some (.ofNat (n / 65536) :: .ofNat (n / 256 % 256) :: .ofNat (n % 256) :: octets)
  | _ => none

/-- The octets that a text stands for. -/
def base64Decoded? (s : String) : Option Bytes := base64Octets? s.toList

theorem base64Value?_base64Char : ∀ n < 64, base64Value? (base64Char n) = some n := by
  decide

theorem base64Char_ne_filler {n : Nat} (small : n < 64) : base64Char n ≠ '=' := by
  intro same
  have value := base64Value?_base64Char n small
  rw [same] at value
  cases value

theorem base64Octets?_base64Chars (bs : Bytes) : base64Octets? (base64Chars bs) = some bs := by
  induction bs using base64Chars.induct with
  | case1 => rfl
  | case2 a =>
      have := a.toNat_lt
      have high : a.toNat * 16 / 64 < 64 := by omega
      have low : a.toNat * 16 % 64 < 64 := by omega
      have whole : a.toNat * 16 / 64 * 64 + a.toNat * 16 % 64 = a.toNat * 16 := by omega
      simp [base64Chars, base64Octets?, base64Value?_base64Char, high, low, whole]
  | case3 a b =>
      have := a.toNat_lt
      have := b.toNat_lt
      simp only [base64Chars]
      generalize number : (a.toNat * 256 + b.toNat) * 4 = n
      have high : n / 4096 < 64 := by omega
      have middle : n / 64 % 64 < 64 := by omega
      have low : n % 64 < 64 := by omega
      have whole : (n / 4096 * 64 + n / 64 % 64) * 64 + n % 64 = n := by omega
      have rest : n % 4 = 0 := by omega
      have first : n / 1024 = a.toNat := by omega
      have second : n / 4 % 256 = b.toNat := by omega
      simp [base64Octets?, base64Value?_base64Char, base64Char_ne_filler, high, middle, low, whole,
        rest, first, second]
  | case4 a b c rest ih =>
      have := a.toNat_lt
      have := b.toNat_lt
      have := c.toNat_lt
      simp only [base64Chars]
      generalize number : (a.toNat * 256 + b.toNat) * 256 + c.toNat = n
      have high : n / 262144 < 64 := by omega
      have upper : n / 4096 % 64 < 64 := by omega
      have lower : n / 64 % 64 < 64 := by omega
      have low : n % 64 < 64 := by omega
      have whole :
          ((n / 262144 * 64 + n / 4096 % 64) * 64 + n / 64 % 64) * 64 + n % 64 = n := by omega
      have first : n / 65536 = a.toNat := by omega
      have second : n / 256 % 256 = b.toNat := by omega
      have third : n % 256 = c.toNat := by omega
      simp [base64Octets?, base64Value?_base64Char, base64Char_ne_filler, high, upper, lower, low,
        whole, first, second, third, ih]

theorem base64Decoded?_base64 (bs : Bytes) : base64Decoded? (base64 bs) = some bs := by
  rw [base64Decoded?, base64, String.toList_ofList, base64Octets?_base64Chars]

end DebugAdapter.Text
