import DebugAdapter.Number.Decimal
import DebugAdapter.Proofs.Text.Integer
/-!
# Floating-point numbers in texts

Which texts are floating-point numbers, and which: a word, or digits with or without a point and an
exponent, behind a sign or none.
-/

namespace DebugAdapter.Binary64

open Text (Digits IsNumeral)

/-- An exponent, if there is one, and its power of ten. -/
inductive IsExponent : List Char → Int → Prop
  | absent : IsExponent [] 0
  | present {mark : Char} {cs : List Char} {n : Int} (marked : mark = 'e' ∨ mark = 'E')
      (numeral : IsNumeral cs n) : IsExponent (mark :: cs) n

/-- A number behind its sign. Words are read in any case. -/
inductive IsUnsigned (negative : Bool) : List Char → Binary64 → Prop
  | infinity {cs : List Char}
      (word : cs.map Char.toLower = "inf".toList ∨ cs.map Char.toLower = "infinity".toList) :
      IsUnsigned negative cs (ofParts negative infinityMagnitude)
  | nan {cs : List Char} (word : cs.map Char.toLower = "nan".toList) :
      IsUnsigned negative cs (ofParts negative (infinityMagnitude + hiddenBit / 2))
  | decimal {whole fraction point exponent : List Char} {e : Int}
      (digits : Digits (whole ++ fraction))
      (pointed : point = '.' :: fraction ∨ point = [] ∧ fraction = [])
      (power : IsExponent exponent e) :
      IsUnsigned negative (whole ++ (point ++ exponent))
        (ofDecimal negative (Nat.ofDigitChars 10 (whole ++ fraction) 0) (e - fraction.length))

/-- A number with or without a sign. -/
inductive IsText : List Char → Binary64 → Prop
  | unsigned {cs : List Char} {x : Binary64} (number : IsUnsigned false cs x) : IsText cs x
  | plus {cs : List Char} {x : Binary64} (number : IsUnsigned false cs x) : IsText ('+' :: cs) x
  | minus {cs : List Char} {x : Binary64} (number : IsUnsigned true cs x) : IsText ('-' :: cs) x

theorem natOf_eq (ds : List Char) : natOf ds = Nat.ofDigitChars 10 ds 0 := by
  have step : (fun (n : Nat) (c : Char) => n * 10 + (c.toNat - '0'.toNat)) =
      fun n c => 10 * n + (c.toNat - '0'.toNat) := by
    funext n c
    rw [Nat.mul_comm]
  rw [natOf, step]
  rfl

/-- Digits are taken up to the first character that is none. -/
theorem digitsOf_append {ds rest : List Char} (digits : ∀ c ∈ ds, c.isDigit = true)
    (ends : ∀ c ∈ rest.head?, c.isDigit = false) : digitsOf (ds ++ rest) = (ds, rest) := by
  have stop : rest.takeWhile (·.isDigit) = [] ∧ rest.dropWhile (·.isDigit) = rest := by
    cases rest with
    | nil => exact ⟨rfl, rfl⟩
    | cons c rest => simp [ends c rfl]
  rw [digitsOf, List.takeWhile_append_of_pos digits, List.dropWhile_append_of_pos digits, stop.1,
    stop.2, List.append_nil]

theorem digits_digitsOf (cs : List Char) : ∀ c ∈ (digitsOf cs).1, c.isDigit = true :=
  fun _ => List.mem_takeWhile_imp

theorem append_digitsOf (cs : List Char) : (digitsOf cs).1 ++ (digitsOf cs).2 = cs :=
  List.takeWhile_append_dropWhile

/-! ## Exponents -/

theorem ite_digits {ds : List Char} {v e : Int} :
    (if (ds.isEmpty || !ds.all (·.isDigit)) = true then none else some v) = some e ↔
      Digits ds ∧ v = e := by
  have test : (ds.isEmpty || !ds.all (·.isDigit)) = true ↔ ¬ Digits ds := by
    simp [Digits, imp_iff_not_or]
  by_cases digits : Digits ds
  · rw [if_neg (fun flaw => test.mp flaw digits)]
    simp [digits]
  · rw [if_pos (test.mpr digits)]
    simp [digits]

theorem exponentOf?_eq_some {cs : List Char} {e : Int} :
    exponentOf? cs = some e ↔ IsExponent cs e := by
  constructor
  · intro read
    unfold exponentOf? at read
    split at read
    · cases read
      exact .absent
    · rename_i mark rest
      split at read
      · rename_i marked
        dsimp only at read
        split at read <;> obtain ⟨digits, rfl⟩ := ite_digits.mp read <;>
          simp only [natOf_eq, Bool.false_eq_true, if_false, if_true]
        · exact .present marked (.plus digits)
        · exact .present marked (.minus digits)
        · exact .present marked (.unsigned digits)
      · cases read
  · intro exponent
    cases exponent with
    | absent => rfl
    | @present mark cs n marked numeral =>
        unfold exponentOf?
        dsimp only
        rw [if_pos marked]
        cases numeral with
        | unsigned digits =>
            -- A digit is no sign.
            have head {sign : Char} {rest : List Char} (same : cs = sign :: rest) :
                sign.isDigit = true := digits.2 sign (same ▸ List.mem_cons_self)
            split
            · exact absurd (head rfl) (by decide)
            · exact absurd (head rfl) (by decide)
            · exact ite_digits.mpr ⟨digits, congrArg Nat.cast (natOf_eq cs)⟩
        | @plus ds digits => exact ite_digits.mpr ⟨digits, congrArg Nat.cast (natOf_eq ds)⟩
        | @minus ds digits =>
            exact ite_digits.mpr ⟨digits, congrArg (fun n : Nat => -(n : Int)) (natOf_eq ds)⟩

/-! ## Words -/

theorem toLower_of_lt {c : Char} (h : c.toNat < 'A'.toNat) : c.toLower = c := by
  have outside : ¬ (c.val ≥ 'A'.val ∧ c.val ≤ 'Z'.val) := fun inside => Nat.not_le.mpr h inside.1
  exact dif_neg outside

theorem lt_letters {c : Char} (first : c.isDigit = true ∨ c = '.') : c.toNat < 'A'.toNat := by
  obtain digit | rfl := first
  · exact Nat.lt_of_le_of_lt (Char.isDigit_iff_toNat.mp digit).2 (by decide)
  · decide

/-- A text is one of the words, in any case. -/
def IsWord (cs : List Char) : Prop :=
  cs.map Char.toLower = "inf".toList ∨ cs.map Char.toLower = "infinity".toList ∨
    cs.map Char.toLower = "nan".toList

/-- Every word begins with a letter. -/
theorem not_isWord {c : Char} (before : c.toNat < 'A'.toNat) (cs : List Char) :
    ¬ IsWord (c :: cs) := by
  have other {a : Char} (letter : 'A'.toNat ≤ a.toNat) (as : List Char) :
      (c :: cs).map Char.toLower ≠ a :: as := by
    intro same
    obtain ⟨rfl, -⟩ := List.cons.inj (List.map_cons ▸ same)
    rw [toLower_of_lt before] at letter
    exact Nat.not_le.mpr before letter
  rintro (word | word | word) <;> exact other (by decide) _ word

theorem ofUnsignedText?_infinity {negative : Bool} {cs : List Char}
    (word : cs.map Char.toLower = "inf".toList ∨ cs.map Char.toLower = "infinity".toList) :
    ofUnsignedText? negative cs = some (ofParts negative infinityMagnitude) := by
  unfold ofUnsignedText?
  simp only [← String.toList_inj, String.toList_ofList]
  exact if_pos word

theorem ofUnsignedText?_nan {negative : Bool} {cs : List Char}
    (word : cs.map Char.toLower = "nan".toList) :
    ofUnsignedText? negative cs =
      some (ofParts negative (infinityMagnitude + hiddenBit / 2)) := by
  unfold ofUnsignedText?
  simp only [← String.toList_inj, String.toList_ofList]
  rw [if_neg (by rw [word]; decide), if_pos word]

/-! ## Numbers -/

/-- What stands behind the mantissa with this fraction and point. -/
def Behind (point fraction rest : List Char) : Prop :=
  (∀ c ∈ rest.head?, c.isDigit = false) ∧
    (point = '.' :: fraction ∨ point = [] ∧ fraction = [] ∧ '.' ∉ rest.head?)

theorem digitsOf_stops (cs : List Char) : ∀ c ∈ (digitsOf cs).2.head?, c.isDigit = false := by
  intro c first
  have stop := List.head?_dropWhile_not (·.isDigit) cs
  rwa [show (cs.dropWhile (·.isDigit)).head? = some c from first] at stop

/-- Every text starts with a mantissa, at least an empty one. -/
theorem exists_mantissa (cs : List Char) :
    ∃ whole point fraction rest, cs = whole ++ (point ++ rest) ∧
      (∀ c ∈ whole ++ fraction, c.isDigit = true) ∧ Behind point fraction rest := by
  have whole := append_digitsOf cs
  by_cases pointed : '.' ∈ (digitsOf cs).2.head?
  · obtain ⟨more, behind⟩ := List.head?_eq_some_iff.mp pointed
    refine ⟨(digitsOf cs).1, '.' :: (digitsOf more).1, (digitsOf more).1, (digitsOf more).2, ?_,
      List.forall_mem_append.mpr ⟨digits_digitsOf cs, digits_digitsOf more⟩, digitsOf_stops more,
      .inl rfl⟩
    rw [List.cons_append, append_digitsOf, ← behind, whole]
  · refine ⟨(digitsOf cs).1, [], [], (digitsOf cs).2, whole.symm, ?_, digitsOf_stops cs,
      .inr ⟨rfl, rfl, pointed⟩⟩
    rw [List.append_nil]
    exact digits_digitsOf cs

/-- What is no word is read as a mantissa and an exponent. -/
theorem ofUnsignedText?_mantissa {negative : Bool} {whole point fraction rest : List Char}
    (digits : ∀ c ∈ whole ++ fraction, c.isDigit = true) (behind : Behind point fraction rest)
    (word : ¬ IsWord (whole ++ (point ++ rest))) :
    ofUnsignedText? negative (whole ++ (point ++ rest)) =
      if whole ++ fraction = [] then none
      else (exponentOf? rest).map fun e =>
        ofDecimal negative (Nat.ofDigitChars 10 (whole ++ fraction) 0) (e - fraction.length) := by
  obtain ⟨wholeDigits, fractionDigits⟩ := List.forall_mem_append.mp digits
  obtain ⟨ends, pointed⟩ := behind
  have split : digitsOf (whole ++ (point ++ rest)) = (whole, point ++ rest) := by
    refine digitsOf_append wholeDigits ?_
    obtain rfl | ⟨rfl, -⟩ := pointed
    · rintro c ⟨⟩
      decide
    · exact ends
  have fraction_ : fractionOf (point ++ rest) = (fraction, rest) := by
    obtain rfl | ⟨rfl, rfl, unpointed⟩ := pointed
    · exact digitsOf_append fractionDigits ends
    · rw [List.nil_append]
      unfold fractionOf
      split
      · exact absurd rfl unpointed
      · rfl
  simp only [IsWord, not_or] at word
  unfold ofUnsignedText?
  dsimp only
  simp only [← String.toList_inj, String.toList_ofList]
  rw [if_neg (by tauto), if_neg word.2.2, split]
  dsimp only
  rw [fraction_]
  simp only [natOf_eq, Bool.and_eq_true, List.isEmpty_iff, List.append_eq_nil_iff]

/-- A mantissa begins with a digit or a point. -/
theorem mantissa_first {whole fraction point : List Char} (digits : Digits (whole ++ fraction))
    (pointed : point = '.' :: fraction ∨ point = [] ∧ fraction = []) (rest : List Char) :
    ∃ c cs, whole ++ (point ++ rest) = c :: cs ∧ (c.isDigit = true ∨ c = '.') := by
  cases whole with
  | cons c whole => exact ⟨c, _, rfl, .inl (digits.2 c List.mem_cons_self)⟩
  | nil =>
      obtain rfl | ⟨rfl, rfl⟩ := pointed
      · exact ⟨'.', _, rfl, .inr rfl⟩
      · exact absurd rfl digits.1

theorem IsExponent.behind {rest : List Char} {e : Int} (exponent : IsExponent rest e) :
    ∀ c ∈ rest.head?, c.isDigit = false ∧ c ≠ '.' := by
  cases exponent with
  | absent => rintro c ⟨⟩
  | present marked =>
      rintro c ⟨⟩
      obtain rfl | rfl := marked <;> decide

theorem ofUnsignedText?_eq_some {negative : Bool} {cs : List Char} {x : Binary64} :
    ofUnsignedText? negative cs = some x ↔ IsUnsigned negative cs x := by
  constructor
  · intro read
    by_cases word : IsWord cs
    · obtain infinity | nan := or_assoc.mpr word
      · cases (ofUnsignedText?_infinity infinity).symm.trans read
        exact .infinity infinity
      · cases (ofUnsignedText?_nan nan).symm.trans read
        exact .nan nan
    · obtain ⟨whole, point, fraction, rest, rfl, digits, behind⟩ := exists_mantissa cs
      rw [ofUnsignedText?_mantissa digits behind word] at read
      split at read
      · cases read
      · rename_i some_
        obtain ⟨e, exponent, rfl⟩ := Option.map_eq_some_iff.mp read
        have pointed := behind.2.imp_right fun pointless => And.intro pointless.1 pointless.2.1
        exact .decimal ⟨some_, digits⟩ pointed (exponentOf?_eq_some.mp exponent)
  · intro number
    cases number with
    | infinity word => exact ofUnsignedText?_infinity word
    | nan word => exact ofUnsignedText?_nan word
    | @decimal whole fraction point exponent e digits pointed power =>
        have behind : Behind point fraction exponent :=
          ⟨fun c first => (power.behind c first).1,
            pointed.imp_right fun pointless => ⟨pointless.1, pointless.2,
              fun first => (power.behind '.' first).2 rfl⟩⟩
        have word : ¬ IsWord (whole ++ (point ++ exponent)) := by
          obtain ⟨c, cs, text, first⟩ := mantissa_first digits pointed exponent
          exact text ▸ not_isWord (lt_letters first) cs
        rw [ofUnsignedText?_mantissa digits.2 behind word, if_neg digits.1,
          exponentOf?_eq_some.mpr power]
        rfl

/-! ## Signs -/

/-- What stands behind a sign begins with none. -/
theorem IsUnsigned.unsigned {negative : Bool} {c : Char} {cs : List Char} {x : Binary64}
    (number : IsUnsigned negative (c :: cs) x) : c ≠ '+' ∧ c ≠ '-' := by
  generalize text : c :: cs = whole at number
  have sign (word : IsWord (c :: cs)) : c ≠ '+' ∧ c ≠ '-' := by
    constructor <;> rintro rfl <;> exact not_isWord (by decide) cs word
  cases number with
  | infinity word =>
      subst text
      exact sign (word.imp_right .inl)
  | nan word =>
      subst text
      exact sign (.inr (.inr word))
  | @decimal _ _ _ exponent _ digits pointed =>
      obtain ⟨d, ds, text', first⟩ := mantissa_first digits pointed exponent
      obtain ⟨rfl, -⟩ := List.cons.inj (text.trans text')
      obtain digit | rfl := first
      · constructor <;> rintro rfl <;> cases digit
      · decide

/-- Exactly the texts that are numbers are read, each as the number that it is. -/
theorem ofText?_eq_some {s : String} {x : Binary64} : ofText? s = some x ↔ IsText s.toList x := by
  constructor
  · intro read
    unfold ofText? at read
    split at read <;> rename_i text
    · exact text ▸ .minus (ofUnsignedText?_eq_some.mp read)
    · exact text ▸ .plus (ofUnsignedText?_eq_some.mp read)
    · exact .unsigned (ofUnsignedText?_eq_some.mp read)
  · intro number
    unfold ofText?
    generalize s.toList = cs at number ⊢
    cases number with
    | unsigned number =>
        split
        · exact absurd rfl number.unsigned.2
        · exact absurd rfl number.unsigned.1
        · exact ofUnsignedText?_eq_some.mpr number
    | plus number => exact ofUnsignedText?_eq_some.mpr number
    | minus number => exact ofUnsignedText?_eq_some.mpr number

end DebugAdapter.Binary64
