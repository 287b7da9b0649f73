import DebugAdapter.Proofs.Program.Breakpoints
/-!
# Data and instruction breakpoints as sets

Breakpoints on data and on instructions have no order. What an address has depends on what is asked
for it, however often and in which order, and not on what it had before.
-/

namespace DebugAdapter.Program

namespace DataAccess

/-- An access that has been asked for, with one more. -/
def joined (before : Option DataAccess) (access : DataAccess) : DataAccess :=
  match before with
  | some a => a.widen access
  | none => access

/-- What several requests for one address ask for together: the access that each of them asks for,
or else both. -/
def together? : List DataAccess → Option DataAccess
  | [] => none
  | a :: as => some (if ∀ b ∈ as, b = a then a else readWrite)

theorem together?_concat (as : List DataAccess) (access : DataAccess) :
    together? (as ++ [access]) = some (joined (together? as) access) := by
  cases as with
  | nil => simp [together?, joined]
  | cons a as =>
      have all : (∀ b ∈ as ++ [access], b = a) ↔ (∀ b ∈ as, b = a) ∧ a = access := by
        simp [or_imp, forall_and, eq_comm]
      simp only [together?, joined, widen, List.cons_append, all]
      by_cases agreed : ∀ b ∈ as, b = a
      · by_cases same : a = access
        · rw [if_pos ⟨agreed, same⟩, if_pos agreed, if_pos same]
        · rw [if_neg fun both => same both.2, if_pos agreed, if_neg same]
      · rw [if_neg fun both => agreed both.1, if_neg agreed]
        split <;> rfl

theorem together?_eq_none {as : List DataAccess} : together? as = none ↔ as = [] := by
  cases as <;> simp [together?]

/-- One access alone is what each of them asks for. -/
theorem together?_eq_some {as : List DataAccess} {access : DataAccess} (alone : access ≠ readWrite) :
    together? as = some access ↔ as ≠ [] ∧ ∀ a ∈ as, a = access := by
  cases as with
  | nil => simp [together?]
  | cons a as =>
      by_cases agreed : ∀ b ∈ as, b = a
      · simp only [together?, if_pos agreed, Option.some.injEq, List.forall_mem_cons, ne_eq,
          reduceCtorEq, not_false_eq_true, true_and]
        constructor
        · rintro rfl
          exact ⟨rfl, agreed⟩
        · exact And.left
      · simp only [together?, if_neg agreed, Option.some.injEq, List.forall_mem_cons, ne_eq,
          reduceCtorEq, not_false_eq_true, true_and]
        constructor
        · intro both
          exact absurd both.symm alone
        · rintro ⟨rfl, all⟩
          exact absurd all agreed

end DataAccess

namespace Breakpoints

variable (bs : Breakpoints)

/-- What some entries ask for at an address. -/
def asked (entries : List (String × DataAccess)) (address : String) : List DataAccess :=
  (entries.filter (·.1 = address)).map (·.2)

theorem dataAccess?_setData (key address : String) (access : DataAccess) :
    (bs.setData key access).dataAccess? address =
      if key = address then some (DataAccess.joined (bs.dataAccess? address) access)
      else bs.dataAccess? address := by
  have found := lookup_replaceValue bs.data key address
    (DataAccess.joined (bs.dataAccess? key) access)
  apply Eq.trans found
  by_cases here : key = address
  · simp [here]
  · simp [here, Ne.symm here, dataAccess?]

/-- Entries that are set one after the other, after all have been cleared, ask together. -/
theorem dataAccess?_setAll (entries : List (String × DataAccess)) (address : String) :
    (entries.foldl (fun bs e => bs.setData e.1 e.2) bs.clearData).dataAccess? address =
      DataAccess.together? (asked entries address) := by
  induction entries using List.reverseRecOn with
  | nil => simp [asked, DataAccess.together?, clearData, dataAccess?]
  | append_singleton entries e ih =>
      rw [List.foldl_concat, dataAccess?_setData, ih]
      by_cases here : e.1 = address
      · have more : asked (entries ++ [e]) address = asked entries address ++ [e.2] := by
          simp [asked, here]
        rw [if_pos here, more, DataAccess.together?_concat]
      · simp [asked, here]

/-- Nothing but data breakpoints changes when these are set. -/
theorem foldl_setData (entries : List (String × DataAccess)) :
    ∃ data, entries.foldl (fun bs e => bs.setData e.1 e.2) bs = { bs with data } := by
  induction entries generalizing bs with
  | nil => exact ⟨bs.data, rfl⟩
  | cons e entries ih => exact ih (bs.setData e.1 e.2)

theorem stopsAtInstruction_setInstruction (key address : Int) :
    (bs.setInstruction key).stopsAtInstruction address =
      (bs.stopsAtInstruction address || decide (address = key)) := by
  unfold setInstruction
  split
  · rename_i there
    by_cases here : address = key
    · simp [here, there]
    · simp [here]
  · simp [stopsAtInstruction]

theorem stopsAtInstruction_setAll (addresses : List Int) (address : Int) :
    (addresses.foldl setInstruction bs.clearInstructions).stopsAtInstruction address = true ↔
      address ∈ addresses := by
  induction addresses using List.reverseRecOn with
  | nil => simp [clearInstructions, stopsAtInstruction]
  | append_singleton addresses key ih =>
      rw [List.foldl_concat, stopsAtInstruction_setInstruction]
      simp [ih]

/-- Nothing but instruction breakpoints changes when these are set. -/
theorem foldl_setInstruction (addresses : List Int) :
    ∃ instructions, addresses.foldl setInstruction bs = { bs with instructions } := by
  induction addresses generalizing bs with
  | nil => exact ⟨bs.instructions, rfl⟩
  | cons address addresses ih =>
      obtain ⟨instructions, later⟩ := ih (bs.setInstruction address)
      apply Exists.intro instructions
      rw [List.foldl_cons, later, setInstruction]
      split <;> rfl

end Breakpoints

end DebugAdapter.Program
