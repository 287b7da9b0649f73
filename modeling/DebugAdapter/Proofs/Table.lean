import Mathlib.Data.List.Nodup
/-!
# Tables

Lists of values under keys. A key is looked up where it comes first; as long as no key comes twice,
what is found under one is all that there is under it.
-/

namespace DebugAdapter.Table

variable {α : Type} {table : List (String × α)} {key : String}

theorem lookup_cons (table : List (String × α)) (entry : String × α) (k : String) :
    (entry :: table).lookup k = if k = entry.1 then some entry.2 else table.lookup k := by
  rw [List.lookup_cons]
  by_cases same : k = entry.1
  · rw [beq_iff_eq.mpr same, if_pos same]
  · rw [beq_false_of_ne same, if_neg same]

theorem lookup_filter (table : List (String × α)) {k : String} (other : k ≠ key) :
    (table.filter (·.1 ≠ key)).lookup k = table.lookup k := by
  induction table with
  | nil => rfl
  | cons entry table ih =>
      by_cases gone : entry.1 = key
      · rw [List.filter_cons_of_neg (by simp [gone]), ih, lookup_cons, if_neg (gone ▸ other)]
      · rw [List.filter_cons_of_pos (by simp [gone]), lookup_cons, lookup_cons, ih]

theorem lookup_filter_self (table : List (String × α)) (key : String) :
    (table.filter (·.1 ≠ key)).lookup key = none := by
  rw [List.lookup_eq_none_iff]
  intro entry member
  have other := of_decide_eq_true (List.mem_filter.mp member).2
  exact bne_iff_ne.mpr (Ne.symm other)

/-- As long as none of some keys comes twice, an entry is what is found under one of them. -/
theorem mem_iff_lookup_known {known : String → Bool}
    (once : ((table.map (·.1)).filter known).Nodup) (here : known key = true) {value : α} :
    (key, value) ∈ table ↔ table.lookup key = some value := by
  induction table with
  | nil => simp
  | cons entry table ih =>
      obtain ⟨k, a⟩ := entry
      rw [List.map_cons, List.filter_cons] at once
      rw [List.mem_cons, lookup_cons]
      split
      · rename_i same
        cases same
        rw [if_pos here] at once
        have fresh : k ∉ table.map (·.1) := fun later =>
          (List.nodup_cons.mp once).1 (List.mem_filter.mpr ⟨later, here⟩)
        constructor
        · rintro (first | later)
          · cases first
            rfl
          · exact absurd (List.mem_map_of_mem later) fresh
        · rintro ⟨⟩
          exact .inl rfl
      · rename_i other
        have rest : ((table.map (·.1)).filter known).Nodup := by
          split at once
          · exact (List.nodup_cons.mp once).2
          · exact once
        rw [← ih rest]
        refine ⟨fun member => member.resolve_left ?_, .inr⟩
        rintro ⟨⟩
        exact other rfl

/-- As long as no key comes twice, an entry is what is found under its key. -/
theorem mem_iff_lookup (distinct : (table.map (·.1)).Nodup) {value : α} :
    (key, value) ∈ table ↔ table.lookup key = some value :=
  have every : ((table.map (·.1)).filter fun _ => true).Nodup := by simpa using distinct
  mem_iff_lookup_known every rfl

end DebugAdapter.Table
