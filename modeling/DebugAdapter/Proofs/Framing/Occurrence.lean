import DebugAdapter.Framing.Headed
import Mathlib.Data.List.Infix
/-!
# First occurrences

Where a pattern is found first in some octets, and how much of them has to be there for that.
-/

namespace DebugAdapter.Framing.Headed

/-- The first place in `bs` where `pattern` stands is the one behind `before`. -/
structure FirstBehind (pattern before bs : Bytes) : Prop where
  there : before ++ pattern <+: bs
  first : ∀ front, front ++ pattern <+: bs → before.length ≤ front.length

theorem splitAt?_absent {pattern : Bytes} (visible : pattern ≠ []) {bs : Bytes}
    (absent : ∀ front, ¬ front ++ pattern <+: bs) : splitAt? pattern bs = none := by
  induction bs with
  | nil =>
      rw [splitAt?, if_neg]
      simpa using visible
  | cons b bs ih =>
      have behind : ∀ front, ¬ front ++ pattern <+: bs := by
        intro front there
        exact absent (b :: front) (List.cons_prefix_cons.mpr ⟨rfl, there⟩)
      have here : pattern.isPrefixOf (b :: bs) = false := by
        rw [← Bool.not_eq_true, List.isPrefixOf_iff_prefix]
        exact absent []
      rw [splitAt?, here, ih behind]
      rfl

theorem splitAt?_firstBehind {pattern before bs : Bytes} (h : FirstBehind pattern before bs) :
    splitAt? pattern bs = some (before, bs.drop before.length) := by
  induction bs generalizing before with
  | nil =>
      obtain ⟨rfl, rfl⟩ := List.append_eq_nil_iff.mp (List.prefix_nil.mp h.there)
      rfl
  | cons b bs ih =>
      rw [splitAt?]
      split
      · rename_i here
        have none_ := h.first [] (List.isPrefixOf_iff_prefix.mp here)
        cases List.length_eq_zero_iff.mp (Nat.le_zero.mp none_)
        rfl
      · rename_i other
        cases before with
        | nil => exact absurd (List.isPrefixOf_iff_prefix.mpr h.there) other
        | cons c before =>
            obtain ⟨rfl, there⟩ := List.cons_prefix_cons.mp h.there
            have first : ∀ front, front ++ pattern <+: bs → before.length ≤ front.length := by
              intro front found
              have := h.first (c :: front) (List.cons_prefix_cons.mpr ⟨rfl, found⟩)
              exact Nat.le_of_succ_le_succ this
            rw [ih ⟨there, first⟩]
            rfl

theorem firstBehind_of_splitAt? {pattern bs before found : Bytes}
    (h : splitAt? pattern bs = some (before, found)) : FirstBehind pattern before bs := by
  induction bs generalizing before found with
  | nil =>
      rw [splitAt?] at h
      split at h
      · rename_i blank
        cases h
        cases List.isEmpty_iff.mp blank
        exact ⟨List.prefix_refl [], fun _ _ => Nat.zero_le _⟩
      · cases h
  | cons b bs ih =>
      rw [splitAt?] at h
      split at h
      · rename_i here
        cases h
        exact ⟨List.isPrefixOf_iff_prefix.mp here, fun _ _ => Nat.zero_le _⟩
      · rename_i other
        obtain ⟨⟨before', found'⟩, later, same⟩ := Option.map_eq_some_iff.mp h
        cases same
        have behind := ih later
        refine ⟨List.cons_prefix_cons.mpr ⟨rfl, behind.there⟩, ?_⟩
        intro front there
        cases front with
        | nil => exact absurd (List.isPrefixOf_iff_prefix.mpr there) other
        | cons c front =>
            have shorter := behind.first front (List.cons_prefix_cons.mp there).2
            exact Nat.succ_le_succ shorter

/-- What is found first is found as soon as all of it has been received. -/
theorem splitAt?_received {pattern before bs buffer : Bytes} (h : FirstBehind pattern before bs)
    (received : buffer <+: bs) (enough : before.length + pattern.length ≤ buffer.length) :
    splitAt? pattern buffer = some (before, buffer.drop before.length) := by
  apply splitAt?_firstBehind
  refine ⟨?_, fun front there => h.first front (there.trans received)⟩
  exact List.prefix_of_prefix_length_le h.there received (by rwa [List.length_append])

/-- Nothing is found before that. -/
theorem splitAt?_missing {pattern before bs buffer : Bytes} (visible : pattern ≠ [])
    (h : FirstBehind pattern before bs) (received : buffer <+: bs)
    (few : buffer.length < before.length + pattern.length) : splitAt? pattern buffer = none := by
  apply splitAt?_absent visible
  intro front there
  have later := h.first front (there.trans received)
  have fits := there.length_le
  rw [List.length_append] at fits
  omega

/-- A first occurrence stays the first one, whatever follows. -/
theorem FirstBehind.append {pattern before : Bytes}
    (h : FirstBehind pattern before (before ++ pattern)) (more : Bytes) :
    FirstBehind pattern before (before ++ pattern ++ more) := by
  refine ⟨List.prefix_append _ _, ?_⟩
  intro front there
  by_contra earlier
  have fits : (front ++ pattern).length ≤ (before ++ pattern).length := by
    rw [List.length_append, List.length_append]
    omega
  exact earlier (h.first front (List.prefix_of_prefix_length_le there (List.prefix_append _ _) fits))

/-- An occurrence before another one starts within what stands before that. -/
theorem start_of_earlier {pattern before more front : Bytes}
    (there : front ++ pattern <+: before ++ pattern ++ more)
    (earlier : front.length < before.length) :
    ∃ back, before = front ++ back ∧ 0 < back.length ∧ pattern <+: back ++ (pattern ++ more) := by
  have start : front <+: before ++ pattern ++ more := (List.prefix_append _ _).trans there
  obtain ⟨back, rfl⟩ : front <+: before := by
    refine List.prefix_of_prefix_length_le start ?_ (by omega)
    exact List.append_assoc before pattern more ▸ List.prefix_append _ _
  rw [List.append_assoc, List.append_assoc, List.prefix_append_right_inj] at there
  rw [List.length_append] at earlier
  exact ⟨back, rfl, by omega, there⟩

/-- No end of the pattern is also its beginning. -/
def Borderless (pattern : Bytes) : Prop :=
  ∀ n < pattern.length, 0 < n → ¬ pattern.drop n <+: pattern

/-- Octets without the pattern in them do not give rise to it together with its first octets. -/
theorem firstBehind_of_borderless {pattern before : Bytes} (borderless : Borderless pattern)
    (free : ¬ pattern <:+: before) (more : Bytes) :
    FirstBehind pattern before (before ++ pattern ++ more) := by
  refine ⟨List.prefix_append _ _, ?_⟩
  intro front there
  by_contra earlier
  obtain ⟨back, rfl, pos, there⟩ := start_of_earlier there (Nat.not_le.mp earlier)
  -- The pattern begins in `before`: it ends there as well, or it overlaps with itself.
  rcases Nat.lt_or_ge back.length pattern.length with short | long
  · have overlap : pattern.drop back.length <+: pattern ++ more := by
      have := there.drop back.length
      rwa [List.drop_left] at this
    exact borderless back.length short pos (List.prefix_of_prefix_length_le overlap
      (List.prefix_append _ _) (by simp))
  · apply free
    have inside : pattern <+: back :=
      List.prefix_of_prefix_length_le there (List.prefix_append _ _) long
    exact inside.isInfix.trans (List.suffix_append _ _).isInfix

/-- A pattern does not begin among octets without its first one. -/
theorem firstBehind_of_notMem {b : UInt8} {tail before : Bytes} (free : b ∉ before) (more : Bytes) :
    FirstBehind (b :: tail) before (before ++ b :: tail ++ more) := by
  refine ⟨List.prefix_append _ _, ?_⟩
  intro front there
  by_contra earlier
  obtain ⟨back, rfl, pos, there⟩ := start_of_earlier there (Nat.not_le.mp earlier)
  cases back with
  | nil => exact absurd pos (Nat.lt_irrefl 0)
  | cons c back =>
      obtain ⟨rfl, -⟩ := List.cons_prefix_cons.mp there
      exact free (List.mem_append_right front List.mem_cons_self)

theorem borderless_mark : Borderless mark := by
  have all : ∀ n < mark.length, 0 < n → (mark.drop n).isPrefixOf mark = false := by decide
  intro n short pos overlap
  have := all n short pos
  rw [List.isPrefixOf_iff_prefix.mpr overlap] at this
  cases this

end DebugAdapter.Framing.Headed
