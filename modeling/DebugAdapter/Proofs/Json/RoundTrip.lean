import DebugAdapter.Json.Decode
import DebugAdapter.Proofs.Json.Numerals
import DebugAdapter.Proofs.Json.Strings
/-! # Reading back JSON values

The compact text of a value is read as the document of that value, as long as its numbers are
integers of 64 bits and no more containers are open at once than may be. When its keys also stand
in order, the document is the value again.
-/

namespace DebugAdapter

open Document
open Utf8 (encodeChars)

namespace Json

/-- The members of an object have ascending, distinct keys. -/
def Sorted (ms : List (String × Json)) : Prop := (ms.map (·.1)).Pairwise (· < ·)

mutual

/-- How many containers are open at once at most. -/
def depth : Json → Nat
  | .array items => depthOfItems items + 1
  | .object members => depthOfMembers members + 1
  | _ => 0

def depthOfItems : List Json → Nat
  | [] => 0
  | v :: rest => max v.depth (depthOfItems rest)

def depthOfMembers : List (String × Json) → Nat
  | [] => 0
  | (_, v) :: rest => max v.depth (depthOfMembers rest)

end

mutual

/-- All numbers are integers that fit into 64 bits, with or without a sign. -/
def Integral : Json → Prop
  | .number (.int n) => -9223372036854775808 ≤ n ∧ n ≤ 18446744073709551615
  | .number (.float _) => False
  | .array items => IntegralItems items
  | .object members => IntegralMembers members
  | _ => True

def IntegralItems : List Json → Prop
  | [] => True
  | v :: rest => v.Integral ∧ IntegralItems rest

def IntegralMembers : List (String × Json) → Prop
  | [] => True
  | (_, v) :: rest => v.Integral ∧ IntegralMembers rest

end

mutual

/-- The members of all objects have ascending, distinct keys. -/
def Ordered : Json → Prop
  | .array items => OrderedItems items
  | .object members => Sorted members ∧ OrderedMembers members
  | _ => True

def OrderedItems : List Json → Prop
  | [] => True
  | v :: rest => v.Ordered ∧ OrderedItems rest

def OrderedMembers : List (String × Json) → Prop
  | [] => True
  | (_, v) :: rest => v.Ordered ∧ OrderedMembers rest

end

/-! ## The octets of a text -/

/-- The octets of a string without its opening quote. -/
def quotedBytes (s : String) : Bytes := encodeChars (s.toList.flatMap escapeChar) ++ [0x22]

/-- The octets of the items behind the first one. -/
def moreItems (vs : List Json) : Bytes := vs.flatMap fun v => 0x2C :: v.bytes

/-- The octets of a member behind the opening quote of its key. -/
def memberBytes (m : String × Json) : Bytes := quotedBytes m.1 ++ 0x3A :: m.2.bytes

/-- The octets of the members behind the first one. -/
def moreMembers (ms : List (String × Json)) : Bytes := ms.flatMap fun m => 0x2C :: 0x22 :: memberBytes m

theorem moreItems_cons (v : Json) (vs : List Json) :
    moreItems (v :: vs) = 0x2C :: (v.bytes ++ moreItems vs) := rfl

theorem moreMembers_cons (k : String) (v : Json) (ms : List (String × Json)) :
    moreMembers ((k, v) :: ms) =
      0x2C :: 0x22 :: (quotedBytes k ++ 0x3A :: (v.bytes ++ moreMembers ms)) := by
  simp [moreMembers, memberBytes]

theorem bytes_string (s : String) : (Json.string s).bytes = 0x22 :: quotedBytes s := by
  simp only [bytes, render, renderString, Utf8.encodeChars_cons, Utf8.encodeChars_append]
  rfl

theorem renderItems_cons (v : Json) (vs : List Json) :
    encodeChars (renderItems (v :: vs)) = v.bytes ++ moreItems vs := by
  induction vs generalizing v with
  | nil => simp [renderItems, bytes, moreItems]
  | cons w vs ih =>
      simp only [renderItems, Utf8.encodeChars_append, Utf8.encodeChars_cons, ih]
      rfl

theorem renderMembers_cons (m : String × Json) (ms : List (String × Json)) :
    encodeChars (renderMembers (m :: ms)) = 0x22 :: (memberBytes m ++ moreMembers ms) := by
  induction ms generalizing m with
  | nil =>
      simp [renderMembers, renderString, bytes, memberBytes, quotedBytes, moreMembers]
      rfl
  | cons n ms ih =>
      simp only [renderMembers, renderString, Utf8.encodeChars_append, Utf8.encodeChars_cons, ih]
      simp [memberBytes, quotedBytes, moreMembers, bytes]
      rfl

theorem bytes_array_nil : (Json.array []).bytes = [0x5B, 0x5D] := rfl

theorem bytes_array_cons (v : Json) (vs : List Json) :
    (Json.array (v :: vs)).bytes = 0x5B :: (v.bytes ++ moreItems vs ++ [0x5D]) := by
  rw [bytes, render, Utf8.encodeChars_cons, Utf8.encodeChars_append, renderItems_cons]
  rfl

theorem bytes_object_nil : (Json.object []).bytes = [0x7B, 0x7D] := rfl

theorem bytes_object_cons (m : String × Json) (ms : List (String × Json)) :
    (Json.object (m :: ms)).bytes = 0x7B :: 0x22 :: (memberBytes m ++ moreMembers ms ++ [0x7D]) := by
  rw [bytes, render, Utf8.encodeChars_cons, Utf8.encodeChars_append, renderMembers_cons]
  rfl

theorem bytes_natural {n : Int} (h : 0 ≤ n) :
    (Json.number (.int n)).bytes = Numeral.digits n.natAbs := by
  rw [bytes, render, renderNumber, renderInt, if_neg (by omega)]
  rfl

theorem bytes_negative {n : Int} (h : n < 0) :
    (Json.number (.int n)).bytes = 0x2D :: Numeral.digits n.natAbs := by
  rw [bytes, render, renderNumber, renderInt, if_pos h]
  rfl

theorem isBlank_of_isDigit {b : UInt8} (h : isDigit b = true) : isBlank b = false := by
  simp only [isBlank, Bool.or_eq_false_iff, beq_eq_false_iff_ne, ne_eq]
  refine ⟨⟨⟨?_, ?_⟩, ?_⟩, ?_⟩ <;> rintro rfl <;> exact absurd h (by decide)

theorem digits_eq_cons (n : Nat) :
    ∃ b bs, Numeral.digits n = b :: bs ∧ isDigit b = true := by
  cases hd : Numeral.digits n with
  | nil => exact absurd hd (Numeral.digits_ne_nil n)
  | cons b bs => exact ⟨b, bs, rfl, Numeral.isDigit_of_mem_digits b (hd ▸ List.mem_cons_self)⟩

/-- A value's text begins with an octet that is neither a blank nor the end of an array. -/
theorem bytes_eq_cons {v : Json} (exact_ : v.Integral) :
    ∃ b bs, v.bytes = b :: bs ∧ isBlank b = false ∧ b ≠ 0x5D := by
  cases v with
  | null => exact ⟨_, _, rfl, by decide, by decide⟩
  | bool b => cases b <;> exact ⟨_, _, rfl, by decide, by decide⟩
  | number n =>
      cases n with
      | float x => simp only [Integral] at exact_
      | int n =>
          rcases Int.lt_or_le n 0 with negative | natural
          · exact ⟨_, _, bytes_negative negative, by decide, by decide⟩
          · obtain ⟨b, bs, hbs, digit⟩ := digits_eq_cons n.natAbs
            refine ⟨b, bs, (bytes_natural natural).trans hbs, isBlank_of_isDigit digit, ?_⟩
            rintro rfl
            exact absurd digit (by decide)
  | string s => exact ⟨_, _, bytes_string s, by decide, by decide⟩
  | array items =>
      cases items with
      | nil => exact ⟨_, _, bytes_array_nil, by decide, by decide⟩
      | cons v vs => exact ⟨_, _, bytes_array_cons v vs, by decide, by decide⟩
  | object members =>
      cases members with
      | nil => exact ⟨_, _, bytes_object_nil, by decide, by decide⟩
      | cons m ms => exact ⟨_, _, bytes_object_cons m ms, by decide, by decide⟩

theorem length_bytes_pos {v : Json} (exact_ : v.Integral) : 0 < v.bytes.length := by
  obtain ⟨b, bs, hbs, -, -⟩ := bytes_eq_cons exact_
  rw [hbs]
  exact Nat.succ_pos _

end Json

namespace Document

open Json (moreItems moreMembers memberBytes quotedBytes)

/-! ## One step of the reader -/

theorem skipBlanks_cons {b : UInt8} (h : isBlank b = false) (rest : Bytes) :
    skipBlanks (b :: rest) = b :: rest := by
  simp only [skipBlanks, List.dropWhile_cons, h, Bool.false_eq_true, if_false]

theorem valueFrom_minus (fuel depth : Nat) (rest : Bytes) :
    valueFrom (fuel + 1) depth (0x2D :: rest) = numberToken true rest := by
  rw [valueFrom, skipBlanks_cons (by decide)]
  rfl

theorem valueFrom_digit (fuel depth : Nat) {b : UInt8} (h : isDigit b = true) (rest : Bytes) :
    valueFrom (fuel + 1) depth (b :: rest) = numberToken false (b :: rest) := by
  have other : b ≠ 0x22 ∧ b ≠ 0x5B ∧ b ≠ 0x7B ∧ b ≠ 0x2D := by
    refine ⟨?_, ?_, ?_, ?_⟩ <;> rintro rfl <;> exact absurd h (by decide)
  rw [valueFrom, skipBlanks_cons (Json.isBlank_of_isDigit h)]
  simp only [other, h, if_false, if_true]

theorem valueFrom_quoted (fuel depth : Nat) (s : String) (rest : Bytes) :
    valueFrom (fuel + 1) depth (0x22 :: (quotedBytes s ++ rest)) = (.string s, some rest) := by
  rw [valueFrom, skipBlanks_cons (by decide)]
  simp only [if_true, quotedBytes, List.append_assoc, List.singleton_append,
    stringAfterQuote_escaped]

theorem valueFrom_bracket (fuel depth : Nat) {vs : List Document} {rest after : Bytes}
    (h : itemsFrom fuel (depth + 1) true rest = (vs, none, some after)) :
    valueFrom (fuel + 1) depth (0x5B :: rest) =
      (.array (depth < maxDepth) vs none, some after) := by
  rw [valueFrom, skipBlanks_cons (by decide)]
  simp [h]

theorem valueFrom_brace (fuel depth : Nat) {ms : List (Key × Document)} {rest after : Bytes}
    (h : membersFrom fuel (depth + 1) true rest = (ms, none, some after)) :
    valueFrom (fuel + 1) depth (0x7B :: rest) =
      (.object (depth < maxDepth) ms none, some after) := by
  rw [valueFrom, skipBlanks_cons (by decide)]
  simp [h]

theorem itemsFrom_close (fuel depth : Nat) (first : Bool) (rest : Bytes) :
    itemsFrom (fuel + 1) depth first (0x5D :: rest) = ([], none, some rest) := by
  rw [itemsFrom, skipBlanks_cons (by decide)]
  rfl

theorem itemsFrom_first {fuel depth : Nat} {b : UInt8} {d : Document} {ds : List Document}
    {rest more after : Bytes} (blank : isBlank b = false) (close : b ≠ 0x5D)
    (hv : valueFrom fuel depth (b :: rest) = (d, some more))
    (hvs : itemsFrom fuel depth false more = (ds, none, some after)) :
    itemsFrom (fuel + 1) depth true (b :: rest) = (d :: ds, none, some after) := by
  rw [itemsFrom, skipBlanks_cons blank]
  simp [close, hv, hvs]

theorem itemsFrom_comma {fuel depth : Nat} {d : Document} {ds : List Document}
    {rest more after : Bytes} (hv : valueFrom fuel depth rest = (d, some more))
    (hvs : itemsFrom fuel depth false more = (ds, none, some after)) :
    itemsFrom (fuel + 1) depth false (0x2C :: rest) = (d :: ds, none, some after) := by
  rw [itemsFrom, skipBlanks_cons (by decide)]
  simp [hv, hvs]

theorem membersFrom_close (fuel depth : Nat) (first : Bool) (rest : Bytes) :
    membersFrom (fuel + 1) depth first (0x7D :: rest) = ([], none, some rest) := by
  rw [membersFrom, skipBlanks_cons (by decide)]
  rfl

/-- A member is read behind the brace if it is the first one, and behind a comma if it is not. -/
theorem membersFrom_member (first : Bool) {fuel depth : Nat} {k : String} {d : Document}
    {ms : List (Key × Document)} {rest more after : Bytes}
    (hv : valueFrom fuel depth rest = (d, some more))
    (hms : membersFrom fuel depth false more = (ms, none, some after)) :
    let member : Bytes := 0x22 :: (quotedBytes k ++ 0x3A :: rest)
    membersFrom (fuel + 1) depth first (if first then member else 0x2C :: member) =
      ((.text k, d) :: ms, none, some after) := by
  intro member
  have comma : skipBlanks (0x2C :: member) = 0x2C :: member := skipBlanks_cons (by decide) _
  have quote (bs : Bytes) : skipBlanks (0x22 :: bs) = 0x22 :: bs := skipBlanks_cons (by decide) _
  have colon : skipBlanks (0x3A :: rest) = 0x3A :: rest := skipBlanks_cons (by decide) _
  cases first with
  | true =>
      rw [if_pos rfl, membersFrom, quote]
      simp [quote, quotedBytes, stringAfterQuote_escaped, colon, hv, hms]
  | false =>
      rw [if_neg Bool.false_ne_true, membersFrom, comma]
      simp [member, quote, quotedBytes, stringAfterQuote_escaped, colon, hv, hms]

theorem endsNumber_moreItems (vs : List Json) (rest : Bytes) :
    EndsNumber (moreItems vs ++ 0x5D :: rest) := by
  cases vs <;> rintro b ⟨⟩ <;> simp

theorem endsNumber_moreMembers (ms : List (String × Json)) (rest : Bytes) :
    EndsNumber (moreMembers ms ++ 0x7D :: rest) := by
  cases ms <;> rintro b ⟨⟩ <;> simp

/-! ## Whole values -/

theorem valueFrom_integer {n : Int} (exact_ : (Json.number (.int n)).Integral) (fuel depth : Nat)
    {rest : Bytes} (hrest : EndsNumber rest) :
    valueFrom (fuel + 1) depth ((Json.number (.int n)).bytes ++ rest) =
      (.number (.int n), some rest) := by
  obtain ⟨least, greatest⟩ : -9223372036854775808 ≤ n ∧ n ≤ 18446744073709551615 := by
    simpa only [Json.Integral] using exact_
  rcases Int.lt_or_le n 0 with negative | natural
  · rw [Json.bytes_negative negative, List.cons_append, valueFrom_minus,
      numberToken_negative (by omega) (by omega) hrest, show -(n.natAbs : Int) = n by omega]
  · obtain ⟨b, bs, hbs, digit⟩ := Json.digits_eq_cons n.natAbs
    rw [Json.bytes_natural natural, hbs, List.cons_append, valueFrom_digit _ _ digit,
      ← List.cons_append, ← hbs,
      numberToken_digits (by rw [Numeral.maxSignificand]; omega) hrest,
      show (n.natAbs : Int) = n by omega]

/-- An array is read if its first item and the others are. -/
theorem valueFrom_array {fuel depth : Nat} {v : Json} {vs : List Json} {rest : Bytes}
    (exact_ : v.Integral)
    (hv : valueFrom fuel (depth + 1) (v.bytes ++ (moreItems vs ++ 0x5D :: rest)) =
      (ofJson v, some (moreItems vs ++ 0x5D :: rest)))
    (hvs : itemsFrom fuel (depth + 1) false (moreItems vs ++ 0x5D :: rest) =
      (ofItems vs, none, some rest)) :
    valueFrom (fuel + 2) depth ((Json.array (v :: vs)).bytes ++ rest) =
      (.array (depth < maxDepth) (ofItems (v :: vs)) none, some rest) := by
  obtain ⟨b, bs, hbs, blank, close⟩ := Json.bytes_eq_cons exact_
  rw [hbs, List.cons_append] at hv
  have read := valueFrom_bracket _ depth (itemsFrom_first blank close hv hvs)
  rw [← List.cons_append, ← hbs] at read
  simpa only [Json.bytes_array_cons, ofItems, List.cons_append, List.append_assoc,
    List.nil_append] using read

/-- An object is read if the value of its first member and the other members are. -/
theorem valueFrom_object {fuel depth : Nat} {k : String} {v : Json} {ms : List (String × Json)}
    {rest : Bytes}
    (hv : valueFrom fuel (depth + 1) (v.bytes ++ (moreMembers ms ++ 0x7D :: rest)) =
      (ofJson v, some (moreMembers ms ++ 0x7D :: rest)))
    (hms : membersFrom fuel (depth + 1) false (moreMembers ms ++ 0x7D :: rest) =
      (ofMembers ms, none, some rest)) :
    valueFrom (fuel + 2) depth ((Json.object ((k, v) :: ms)).bytes ++ rest) =
      (.object (depth < maxDepth) (ofMembers ((k, v) :: ms)) none, some rest) := by
  have read := valueFrom_brace _ depth (membersFrom_member true (k := k) hv hms)
  simpa only [if_true, Json.bytes_object_cons, Json.memberBytes, ofMembers, List.cons_append,
    List.append_assoc, List.nil_append] using read

mutual

/-- A value is read back from its text, and reading stops behind it. -/
theorem valueFrom_bytes (v : Json) {fuel depth : Nat} {rest : Bytes} (exact_ : v.Integral)
    (nested : depth + v.depth ≤ maxDepth) (fueled : 2 * v.bytes.length ≤ fuel)
    (hrest : EndsNumber rest) : valueFrom fuel depth (v.bytes ++ rest) = (ofJson v, some rest) := by
  have pos := Json.length_bytes_pos exact_
  -- Two units of fuel for each octet: one for the value that begins there, one for its place in a list.
  obtain ⟨fuel, rfl⟩ : ∃ f, fuel = f + 1 := Nat.exists_eq_succ_of_ne_zero (by omega)
  cases v with
  | null => rfl
  | bool b => cases b <;> rfl
  | number n =>
      cases n with
      | float x => simp only [Json.Integral] at exact_
      | int n => exact valueFrom_integer exact_ fuel depth hrest
  | string s =>
      rw [Json.bytes_string]
      exact valueFrom_quoted fuel depth s rest
  | array items =>
      have shallow : decide (depth < maxDepth) = true := by
        simp only [Json.depth] at nested
        exact decide_eq_true (by omega)
      rw [ofJson, ← shallow]
      cases items with
      | nil =>
          simp only [Json.bytes_array_nil, List.length_cons, List.length_nil] at fueled
          obtain ⟨fuel, rfl⟩ : ∃ f, fuel = f + 1 := Nat.exists_eq_succ_of_ne_zero (by omega)
          exact valueFrom_bracket _ depth (itemsFrom_close fuel (depth + 1) true rest)
      | cons v vs =>
          simp only [Json.bytes_array_cons, List.length_cons, List.length_append,
            List.length_nil] at fueled
          simp only [Json.depth, Json.depthOfItems] at nested
          obtain ⟨fuel, rfl⟩ : ∃ f, fuel = f + 1 := Nat.exists_eq_succ_of_ne_zero (by omega)
          have hv := valueFrom_bytes v exact_.1 (show depth + 1 + v.depth ≤ maxDepth by omega)
            (show 2 * v.bytes.length ≤ fuel by omega) (endsNumber_moreItems vs rest)
          have hvs := itemsFrom_moreItems vs rest exact_.2
            (show depth + 1 + Json.depthOfItems vs ≤ maxDepth by omega)
            (show 2 * (moreItems vs).length + 1 ≤ fuel by omega)
          exact valueFrom_array exact_.1 hv hvs
  | object members =>
      have shallow : decide (depth < maxDepth) = true := by
        simp only [Json.depth] at nested
        exact decide_eq_true (by omega)
      rw [ofJson, ← shallow]
      cases members with
      | nil =>
          simp only [Json.bytes_object_nil, List.length_cons, List.length_nil] at fueled
          obtain ⟨fuel, rfl⟩ : ∃ f, fuel = f + 1 := Nat.exists_eq_succ_of_ne_zero (by omega)
          exact valueFrom_brace _ depth (membersFrom_close fuel (depth + 1) true rest)
      | cons m ms =>
          cases m with
          | mk k v =>
              simp only [Json.bytes_object_cons, Json.memberBytes, List.length_cons, List.length_append,
                List.length_nil] at fueled
              simp only [Json.depth, Json.depthOfMembers] at nested
              obtain ⟨fuel, rfl⟩ : ∃ f, fuel = f + 1 := Nat.exists_eq_succ_of_ne_zero (by omega)
              have hv := valueFrom_bytes v exact_.1 (show depth + 1 + v.depth ≤ maxDepth by omega)
                (show 2 * v.bytes.length ≤ fuel by omega) (endsNumber_moreMembers ms rest)
              have hms := membersFrom_moreMembers ms rest exact_.2
                (show depth + 1 + Json.depthOfMembers ms ≤ maxDepth by omega)
                (show 2 * (moreMembers ms).length + 1 ≤ fuel by omega)
              exact valueFrom_object hv hms
termination_by sizeOf v
decreasing_by
  all_goals subst_vars
  all_goals simp_wf
  all_goals omega

theorem itemsFrom_moreItems (vs : List Json) {fuel depth : Nat} (rest : Bytes)
    (exact_ : Json.IntegralItems vs) (nested : depth + Json.depthOfItems vs ≤ maxDepth)
    (fueled : 2 * (moreItems vs).length + 1 ≤ fuel) :
    itemsFrom fuel depth false (moreItems vs ++ 0x5D :: rest) = (ofItems vs, none, some rest) := by
  obtain ⟨fuel, rfl⟩ : ∃ f, fuel = f + 1 := Nat.exists_eq_succ_of_ne_zero (by omega)
  cases vs with
  | nil => exact itemsFrom_close fuel depth false rest
  | cons v vs =>
      simp only [Json.moreItems_cons, List.length_cons, List.length_append] at fueled
      simp only [Json.depthOfItems] at nested
      have hv := valueFrom_bytes v exact_.1 (show depth + v.depth ≤ maxDepth by omega)
        (show 2 * v.bytes.length ≤ fuel by omega) (endsNumber_moreItems vs rest)
      have hvs := itemsFrom_moreItems vs rest exact_.2
        (show depth + Json.depthOfItems vs ≤ maxDepth by omega)
        (show 2 * (moreItems vs).length + 1 ≤ fuel by omega)
      rw [Json.moreItems_cons, List.cons_append, List.append_assoc, ofItems]
      exact itemsFrom_comma hv hvs
termination_by sizeOf vs

theorem membersFrom_moreMembers (ms : List (String × Json)) {fuel depth : Nat} (rest : Bytes)
    (exact_ : Json.IntegralMembers ms) (nested : depth + Json.depthOfMembers ms ≤ maxDepth)
    (fueled : 2 * (moreMembers ms).length + 1 ≤ fuel) :
    membersFrom fuel depth false (moreMembers ms ++ 0x7D :: rest) =
      (ofMembers ms, none, some rest) := by
  obtain ⟨fuel, rfl⟩ : ∃ f, fuel = f + 1 := Nat.exists_eq_succ_of_ne_zero (by omega)
  cases ms with
  | nil => exact membersFrom_close fuel depth false rest
  | cons m ms =>
      cases m with
      | mk k v =>
          simp only [Json.moreMembers_cons, List.length_cons, List.length_append] at fueled
          simp only [Json.depthOfMembers] at nested
          have hv := valueFrom_bytes v exact_.1 (show depth + v.depth ≤ maxDepth by omega)
            (show 2 * v.bytes.length ≤ fuel by omega) (endsNumber_moreMembers ms rest)
          have hms := membersFrom_moreMembers ms rest exact_.2
            (show depth + Json.depthOfMembers ms ≤ maxDepth by omega)
            (show 2 * (moreMembers ms).length + 1 ≤ fuel by omega)
          rw [Json.moreMembers_cons, ofMembers]
          simpa only [Bool.false_eq_true, if_false, List.cons_append, List.append_assoc] using
            membersFrom_member false (k := k) hv hms
termination_by sizeOf ms
decreasing_by
  all_goals subst_vars
  all_goals simp_wf
  all_goals omega

end

/-- A value's text holds the value and nothing else. -/
theorem ofBytes_bytes {v : Json} (exact_ : v.Integral) (nested : v.depth ≤ maxDepth) :
    ofBytes v.bytes = ⟨ofJson v, false⟩ := by
  have read : valueFrom (2 * v.bytes.length + 2) 0 (v.bytes ++ []) = (ofJson v, some []) :=
    valueFrom_bytes v exact_ (by omega) (by omega) (by rintro b ⟨⟩)
  rw [List.append_nil] at read
  rw [ofBytes, read]
  rfl

/-! ## Values from documents -/

theorem insertMember_last {key : String} {v : Json} {ms : List (String × Json)}
    (h : ∀ m ∈ ms, m.1 < key) : Json.insertMember key v ms = ms ++ [(key, v)] := by
  induction ms with
  | nil => rfl
  | cons m ms ih =>
      have before : m.1 < key := h m (by simp)
      have behind : ¬ key < m.1 := String.lt_asymm before
      have other : key ≠ m.1 := fun same => String.lt_irrefl key (same ▸ before)
      simp only [Json.insertMember, behind, other, if_false, List.cons_append,
        ih fun n hn => h n (by simp [hn])]

theorem foldl_insertMember (front ms : List (String × Json)) (h : Json.Sorted (front ++ ms)) :
    ms.foldl (fun sorted (k, v) => Json.insertMember k v sorted) front = front ++ ms := by
  induction ms generalizing front with
  | nil => simp
  | cons m ms ih =>
      have below : ∀ n ∈ front, n.1 < m.1 := by
        simp only [Json.Sorted, List.map_append, List.map_cons, List.pairwise_append] at h
        intro n hn
        exact h.2.2 n.1 (List.mem_map_of_mem hn) m.1 (by simp)
      rw [List.foldl_cons]
      change ms.foldl _ (Json.insertMember m.1 m.2 front) = _
      rw [insertMember_last below, ih _ (by simpa using h), List.append_assoc]
      rfl

/-- Members that stand in order are left as they are. -/
theorem sortMembers_sorted {ms : List (String × Json)} (h : Json.Sorted ms) :
    Json.sortMembers ms = ms := foldl_insertMember [] ms h

mutual

/-- The document of a value whose keys stand in order is read as the value. -/
theorem toJson_ofJson {v : Json} (ordered : v.Ordered) : (ofJson v).toJson = .ok v := by
  cases v with
  | null | bool | number | string => rfl
  | array items =>
      simp only [ofJson, toJson, toItems_ofItems ordered]
      rfl
  | object members =>
      simp only [ofJson, toJson, toMembers_ofMembers ordered.2, bind, Except.bind,
        sortMembers_sorted ordered.1]
      rfl
termination_by sizeOf v

theorem toItems_ofItems {vs : List Json} (ordered : Json.OrderedItems vs) :
    toItems (ofItems vs) = .ok vs := by
  cases vs with
  | nil => rfl
  | cons v vs =>
      simp only [ofItems, toItems, toJson_ofJson ordered.1, toItems_ofItems ordered.2]
      rfl
termination_by sizeOf vs

theorem toMembers_ofMembers {ms : List (String × Json)} (ordered : Json.OrderedMembers ms) :
    toMembers (ofMembers ms) = .ok ms := by
  cases ms with
  | nil => rfl
  | cons m ms =>
      cases m with
      | mk k v =>
          simp only [ofMembers, toMembers, toJson_ofJson ordered.1, toMembers_ofMembers ordered.2]
          rfl
termination_by sizeOf ms

end

end Document

/-- What is read from the document of a value is read from its text. -/
theorem Decode.fromBytes_bytes {α : Type} {decoder : Decoder α} {v : Json} {x : α}
    (exact_ : v.Integral) (nested : v.depth ≤ maxDepth) (read : decoder .text (ofJson v) = .ok x) :
    fromBytes decoder v.bytes = .ok x := by
  have whole := ofBytes_bytes exact_ nested
  simp only [fromBytes, whole, read, bind, Except.bind, Bool.false_eq_true, if_false]
  rfl

end DebugAdapter
