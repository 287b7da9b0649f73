import DebugAdapter.Text.Utf8
/-! # Reading back UTF-8

The reader takes each character out of the octets that encode it and is then between two characters
again, whatever follows. So a text is read back from its octets, and lossy reading changes nothing
about it.
-/

namespace DebugAdapter.Utf8

private theorem step_lead_one {b : UInt8} (h : b.toNat < 0x80) :
    step .start b = (.start, [some (Char.ofNat b.toNat)]) := by
  have ascii : b < 0x80 := UInt8.lt_iff_toNat_lt.mpr h
  simp only [step, lead, ascii, if_true]

private theorem step_lead_two {b : UInt8} (low : 0xC2 ≤ b.toNat) (high : b.toNat < 0xE0) :
    step .start b = (.within 0 0x80 0xBF (b.toNat % 32), []) := by
  simp only [step, lead, UInt8.lt_iff_toNat_lt, UInt8.reduceToNat]
  rw [if_neg (by omega), if_neg (by omega), if_pos high]

private theorem step_lead_three {b : UInt8} (low : 0xE0 ≤ b.toNat) (high : b.toNat < 0xF0) :
    step .start b = (.within 1 (if b.toNat = 0xE0 then 0xA0 else 0x80)
      (if b.toNat = 0xED then 0x9F else 0xBF) (b.toNat % 16), []) := by
  simp only [step, lead, UInt8.lt_iff_toNat_lt, ← UInt8.toNat_inj, UInt8.reduceToNat]
  rw [if_neg (by omega), if_neg (by omega), if_neg (by omega)]
  by_cases least : b.toNat = 0xE0
  · simp [least]
  · by_cases surrogate : b.toNat = 0xED
    · simp [surrogate]
    · simp [least, surrogate, high]

private theorem step_lead_four {b : UInt8} (low : 0xF0 ≤ b.toNat) (high : b.toNat ≤ 0xF4) :
    step .start b = (.within 2 (if b.toNat = 0xF0 then 0x90 else 0x80)
      (if b.toNat = 0xF4 then 0x8F else 0xBF) (b.toNat % 8), []) := by
  simp only [step, lead, UInt8.lt_iff_toNat_lt, ← UInt8.toNat_inj, UInt8.reduceToNat]
  rw [if_neg (by omega), if_neg (by omega), if_neg (by omega), if_neg (by omega),
    if_neg (by omega), if_neg (by omega)]
  by_cases least : b.toNat = 0xF0
  · simp [least]
  · by_cases greatest : b.toNat = 0xF4
    · simp [greatest]
    · simp only [least, greatest, if_false, if_pos (show b.toNat < 0xF4 by omega)]

private theorem step_more {more : Nat} {low high : UInt8} {code : Nat} {b : UInt8}
    (above : low.toNat ≤ b.toNat) (below : b.toNat ≤ high.toNat) :
    step (.within (more + 1) low high code) b =
      (.within more 0x80 0xBF (code * 64 + b.toNat % 64), []) := by
  have inside : low ≤ b ∧ b ≤ high :=
    ⟨UInt8.le_iff_toNat_le.mpr above, UInt8.le_iff_toNat_le.mpr below⟩
  simp only [step, inside, and_self, if_true]

/-- An octet behind the first one of a character. -/
def IsTail (b : UInt8) : Prop := 0x80 ≤ b.toNat ∧ b.toNat ≤ 0xBF

private theorem step_more_tail {more code : Nat} {b : UInt8} (h : IsTail b) :
    step (.within (more + 1) 0x80 0xBF code) b =
      (.within more 0x80 0xBF (code * 64 + b.toNat % 64), []) :=
  step_more h.1 h.2

private theorem step_last {code : Nat} {b : UInt8} (h : IsTail b) :
    step (.within 0 0x80 0xBF code) b =
      (.start, [some (Char.ofNat (code * 64 + b.toNat % 64))]) := by
  have inside : 0x80 ≤ b ∧ b ≤ 0xBF :=
    ⟨UInt8.le_iff_toNat_le.mpr h.1, UInt8.le_iff_toNat_le.mpr h.2⟩
  simp only [step, inside, and_self, if_true]

theorem scanFrom_cons {st st' : State} {b : UInt8} {out : List (Option Char)}
    (h : step st b = (st', out)) (rest : Bytes) :
    scanFrom st (b :: rest) = out ++ scanFrom st' rest := by
  cases st <;> simp only [scanFrom, h]

private theorem scanFrom_one {a : UInt8} (h : a.toNat < 0x80) (rest : Bytes) :
    scanFrom .start (a :: rest) = some (Char.ofNat a.toNat) :: scanFrom .start rest :=
  scanFrom_cons (step_lead_one h) rest

private theorem scanFrom_two {a b : UInt8} (low : 0xC2 ≤ a.toNat) (high : a.toNat < 0xE0)
    (hb : IsTail b) (rest : Bytes) :
    scanFrom .start (a :: b :: rest) =
      some (Char.ofNat (a.toNat % 32 * 64 + b.toNat % 64)) :: scanFrom .start rest := by
  rw [scanFrom_cons (step_lead_two low high), scanFrom_cons (step_last hb)]
  rfl

private theorem scanFrom_three {a b c : UInt8} (low : 0xE0 ≤ a.toNat) (high : a.toNat < 0xF0)
    (hb : IsTail b) (least : a.toNat = 0xE0 → 0xA0 ≤ b.toNat)
    (surrogate : a.toNat = 0xED → b.toNat ≤ 0x9F) (hc : IsTail c) (rest : Bytes) :
    scanFrom .start (a :: b :: c :: rest) =
      some (Char.ofNat ((a.toNat % 16 * 64 + b.toNat % 64) * 64 + c.toNat % 64)) ::
        scanFrom .start rest := by
  have above : (if a.toNat = 0xE0 then (0xA0 : UInt8) else 0x80).toNat ≤ b.toNat := by
    split
    · exact least ‹_›
    · exact hb.1
  have below : b.toNat ≤ (if a.toNat = 0xED then (0x9F : UInt8) else 0xBF).toNat := by
    split
    · exact surrogate ‹_›
    · exact hb.2
  rw [scanFrom_cons (step_lead_three low high), scanFrom_cons (step_more above below),
    scanFrom_cons (step_last hc)]
  rfl

private theorem scanFrom_four {a b c d : UInt8} (low : 0xF0 ≤ a.toNat) (high : a.toNat ≤ 0xF4)
    (hb : IsTail b) (least : a.toNat = 0xF0 → 0x90 ≤ b.toNat)
    (greatest : a.toNat = 0xF4 → b.toNat ≤ 0x8F) (hc : IsTail c) (hd : IsTail d) (rest : Bytes) :
    scanFrom .start (a :: b :: c :: d :: rest) =
      some (Char.ofNat (((a.toNat % 8 * 64 + b.toNat % 64) * 64 + c.toNat % 64) * 64
        + d.toNat % 64)) :: scanFrom .start rest := by
  have above : (if a.toNat = 0xF0 then (0x90 : UInt8) else 0x80).toNat ≤ b.toNat := by
    split
    · exact least ‹_›
    · exact hb.1
  have below : b.toNat ≤ (if a.toNat = 0xF4 then (0x8F : UInt8) else 0xBF).toNat := by
    split
    · exact greatest ‹_›
    · exact hb.2
  rw [scanFrom_cons (step_lead_four low high), scanFrom_cons (step_more above below),
    scanFrom_cons (step_more_tail hc), scanFrom_cons (step_last hd)]
  rfl

private theorem toNat_ofNat {n : Nat} (h : n < 256) : (UInt8.ofNat n).toNat = n := by
  rw [UInt8.toNat_ofNat']
  exact Nat.mod_eq_of_lt h

/-- A character is read back from its octets. -/
theorem scanFrom_encodeChar (c : Char) (rest : Bytes) :
    scanFrom .start (String.utf8EncodeChar c ++ rest) = some c :: scanFrom .start rest := by
  have valid : c.val.toNat < 0xD800 ∨ 0xDFFF < c.val.toNat ∧ c.val.toNat < 0x110000 := c.valid
  have back : Char.ofNat c.val.toNat = c := Char.ofNat_toNat c
  fun_cases String.utf8EncodeChar c with
  | case1 v one =>
      have ha := toNat_ofNat (show v < 256 by omega)
      rw [List.singleton_append, scanFrom_one (by omega), ha, back]
  | case2 v many two =>
      have ha := toNat_ofNat (show v / 64 % 32 + 0xC0 < 256 by omega)
      have hb := toNat_ofNat (show v % 64 + 0x80 < 256 by omega)
      rw [List.cons_append, List.singleton_append,
        scanFrom_two (by omega) (by omega) (by constructor <;> omega), ha, hb,
        show (v / 64 % 32 + 0xC0) % 32 * 64 + (v % 64 + 0x80) % 64 = v by omega, back]
  | case3 v many more three =>
      have ha := toNat_ofNat (show v / 4096 % 16 + 0xE0 < 256 by omega)
      have hb := toNat_ofNat (show v / 64 % 64 + 0x80 < 256 by omega)
      have hc := toNat_ofNat (show v % 64 + 0x80 < 256 by omega)
      rw [List.cons_append, List.cons_append, List.singleton_append,
        scanFrom_three (by omega) (by omega) (by constructor <;> omega) (by omega) (by omega)
          (by constructor <;> omega), ha, hb, hc,
        show ((v / 4096 % 16 + 0xE0) % 16 * 64 + (v / 64 % 64 + 0x80) % 64) * 64
          + (v % 64 + 0x80) % 64 = v by omega, back]
  | case4 v many more most =>
      have ha := toNat_ofNat (show v / 262144 % 8 + 0xF0 < 256 by omega)
      have hb := toNat_ofNat (show v / 4096 % 64 + 0x80 < 256 by omega)
      have hc := toNat_ofNat (show v / 64 % 64 + 0x80 < 256 by omega)
      have hd := toNat_ofNat (show v % 64 + 0x80 < 256 by omega)
      rw [List.cons_append, List.cons_append, List.cons_append, List.singleton_append,
        scanFrom_four (by omega) (by omega) (by constructor <;> omega) (by omega) (by omega)
          (by constructor <;> omega) (by constructor <;> omega), ha, hb, hc, hd,
        show (((v / 262144 % 8 + 0xF0) % 8 * 64 + (v / 4096 % 64 + 0x80) % 64) * 64
          + (v / 64 % 64 + 0x80) % 64) * 64 + (v % 64 + 0x80) % 64 = v by omega, back]

@[simp] theorem encodeChars_nil : encodeChars [] = [] := rfl

@[simp] theorem encodeChars_cons (c : Char) (cs : List Char) :
    encodeChars (c :: cs) = String.utf8EncodeChar c ++ encodeChars cs := rfl

@[simp] theorem encodeChars_append (cs ds : List Char) :
    encodeChars (cs ++ ds) = encodeChars cs ++ encodeChars ds := List.flatMap_append

/-- A character of ASCII is its own octet. -/
theorem encodeChar_ascii {c : Char} (h : c.toNat < 0x80) :
    String.utf8EncodeChar c = [UInt8.ofNat c.toNat] := by
  have small : c.val.toNat ≤ 0x7F := Nat.le_of_lt_succ h
  rw [String.utf8EncodeChar, if_pos small]
  rfl

theorem encodeChars_ascii {cs : List Char} (h : ∀ c ∈ cs, c.toNat < 0x80) :
    encodeChars cs = cs.map fun c => UInt8.ofNat c.toNat := by
  induction cs with
  | nil => rfl
  | cons c cs ih =>
      rw [encodeChars_cons, encodeChar_ascii (h c (by simp)), ih fun d hd => h d (by simp [hd])]
      rfl

/-- No octet of a character beyond ASCII is one of ASCII. -/
theorem le_of_mem_encodeChar {c : Char} (h : 0x80 ≤ c.toNat) :
    ∀ b ∈ String.utf8EncodeChar c, 0x80 ≤ b.toNat := by
  have valid : c.val.toNat < 0xD800 ∨ 0xDFFF < c.val.toNat ∧ c.val.toNat < 0x110000 := c.valid
  have many : 0x80 ≤ c.val.toNat := h
  fun_cases String.utf8EncodeChar c with
  | case1 v one => omega
  | case2 v _ two =>
      simp only [List.forall_mem_cons, List.not_mem_nil, false_implies, implies_true, and_true]
      rw [toNat_ofNat (by omega), toNat_ofNat (by omega)]
      omega
  | case3 v _ _ three =>
      simp only [List.forall_mem_cons, List.not_mem_nil, false_implies, implies_true, and_true]
      rw [toNat_ofNat (by omega), toNat_ofNat (by omega), toNat_ofNat (by omega)]
      omega
  | case4 v _ _ most =>
      simp only [List.forall_mem_cons, List.not_mem_nil, false_implies, implies_true, and_true]
      rw [toNat_ofNat (by omega), toNat_ofNat (by omega), toNat_ofNat (by omega),
        toNat_ofNat (by omega)]
      omega

theorem scan_encodeChars (cs : List Char) : scan (encodeChars cs) = cs.map some := by
  induction cs with
  | nil => rfl
  | cons c cs ih =>
      rw [encodeChars_cons, scan, scanFrom_encodeChar, List.map_cons]
      exact congrArg (some c :: ·) ih

theorem allSome_map_some (cs : List Char) : allSome (cs.map some) = some cs := by
  induction cs with
  | nil => rfl
  | cons c cs ih => simp only [List.map_cons, allSome, ih, Option.map_some]

/-- Characters are read back from their octets. -/
theorem decode?_encodeChars (cs : List Char) : decode? (encodeChars cs) = some (String.ofList cs) := by
  rw [decode?, scan_encodeChars, allSome_map_some, Option.map_some]

/-- A text is read back from its octets. -/
theorem decode?_encode (s : String) : decode? (encode s) = some s := by
  rw [encode, decode?_encodeChars, String.ofList_toList]

end DebugAdapter.Utf8
