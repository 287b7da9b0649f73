import DebugAdapter.Proofs.Json.Record
import DebugAdapter.Proofs.Json.RoundTrip
/-! # The order of keys

A value that has been read has its keys in ascending order at every depth, whatever order they came
in and however often one of them came.
-/

namespace DebugAdapter

open Document

namespace Json

theorem OrderedMembers.mem {ms : List (String × Json)} (ordered : OrderedMembers ms)
    {m : String × Json} (mem : m ∈ ms) : m.2.Ordered := by
  induction ms with
  | nil => cases mem
  | cons n ms ih =>
      rcases List.mem_cons.mp mem with rfl | mem
      · exact ordered.1
      · exact ih ordered.2 mem

theorem OrderedMembers.of_forall {ms : List (String × Json)} (h : ∀ m ∈ ms, m.2.Ordered) :
    OrderedMembers ms := by
  induction ms with
  | nil => trivial
  | cons m ms ih => exact ⟨h m List.mem_cons_self, ih fun n mem => h n (.tail m mem)⟩

variable {key : String} {v : Json} {ms : List (String × Json)}

theorem mem_insertMember {m : String × Json} (mem : m ∈ insertMember key v ms) :
    m = (key, v) ∨ m ∈ ms := by
  induction ms with
  | nil => exact .inl (List.mem_singleton.mp mem)
  | cons n ms ih =>
      rw [insertMember] at mem
      split at mem
      · exact List.mem_cons.mp mem
      · split at mem
        · rcases List.mem_cons.mp mem with new | old
          · exact .inl new
          · exact .inr (.tail n old)
        · rcases List.mem_cons.mp mem with first | later
          · exact .inr (first ▸ List.mem_cons_self)
          · exact (ih later).imp_right (.tail n)

theorem Sorted.insertMember (sorted : Sorted ms) : Sorted (insertMember key v ms) := by
  induction ms with
  | nil => exact List.pairwise_singleton _ _
  | cons n ms ih =>
      obtain ⟨below, rest⟩ := List.pairwise_cons.mp sorted
      rw [Json.insertMember]
      split
      · rename_i less
        refine List.pairwise_cons.mpr ⟨?_, sorted⟩
        intro k mem
        rcases List.mem_cons.mp mem with rfl | mem
        · exact less
        · exact String.lt_trans less (below k mem)
      · rename_i least
        split
        · rename_i same
          exact List.pairwise_cons.mpr ⟨same ▸ below, rest⟩
        · rename_i other
          refine List.pairwise_cons.mpr ⟨?_, ih rest⟩
          intro k mem
          obtain ⟨m, listed, rfl⟩ := List.mem_map.mp mem
          rcases mem_insertMember listed with rfl | old
          · exact Std.lt_of_le_of_ne least (Ne.symm other)
          · exact below m.1 (List.mem_map_of_mem old)

theorem sorted_sortMembers (ms : List (String × Json)) : Sorted (sortMembers ms) := by
  have all (sorted : List (String × Json)) (h : Sorted sorted) :
      Sorted (ms.foldl (fun s m => Json.insertMember m.1 m.2 s) sorted) := by
    induction ms generalizing sorted with
    | nil => exact h
    | cons m ms ih => exact ih _ h.insertMember
  exact all [] List.Pairwise.nil

/-- Members put in one after the other stay in order, and none comes from elsewhere. -/
theorem foldl_insertMember_ordered (sorted : List (String × Json)) (h : Sorted sorted)
    (values : OrderedMembers sorted) (ordered : OrderedMembers ms) :
    (Json.object (ms.foldl (fun s (k, v) => Json.insertMember k v s) sorted)).Ordered := by
  induction ms generalizing sorted with
  | nil => exact ⟨h, values⟩
  | cons m ms ih =>
      obtain ⟨k, v⟩ := m
      apply ih (Json.insertMember k v sorted) h.insertMember _ ordered.2
      apply OrderedMembers.of_forall
      intro n mem
      rcases mem_insertMember mem with rfl | mem
      · exact ordered.1
      · exact values.mem mem

end Json

namespace Document

mutual

theorem ordered_of_toJson {d : Document} {v : Json} (read : d.toJson = .ok v) : v.Ordered := by
  cases d with
  | null | bool | number | string =>
      cases read
      trivial
  | outOfRange | unreadable | broken => cases read
  | array shallow items ending =>
      cases shallow with
      | false => cases read
      | true =>
          simp only [toJson, if_true] at read
          obtain ⟨vs, values, read⟩ := Decode.bind_ok read
          obtain ⟨-, -, read⟩ := Decode.bind_ok read
          cases read
          exact orderedItems_of_toItems values
  | object shallow members ending =>
      cases shallow with
      | false => cases read
      | true =>
          simp only [toJson, if_true] at read
          obtain ⟨ms, values, read⟩ := Decode.bind_ok read
          obtain ⟨-, -, read⟩ := Decode.bind_ok read
          cases read
          exact Json.foldl_insertMember_ordered [] List.Pairwise.nil trivial
            (orderedMembers_of_toMembers values)
termination_by sizeOf d

theorem orderedItems_of_toItems {ds : List Document} {vs : List Json} (read : toItems ds = .ok vs) :
    Json.OrderedItems vs := by
  cases ds with
  | nil =>
      cases read
      trivial
  | cons d ds =>
      rw [toItems] at read
      obtain ⟨v, first, read⟩ := Decode.bind_ok read
      obtain ⟨vs, others, read⟩ := Decode.bind_ok read
      cases read
      exact ⟨ordered_of_toJson first, orderedItems_of_toItems others⟩
termination_by sizeOf ds

theorem orderedMembers_of_toMembers {ms : List (Key × Document)} {vs : List (String × Json)}
    (read : toMembers ms = .ok vs) : Json.OrderedMembers vs := by
  cases ms with
  | nil =>
      cases read
      trivial
  | cons m ms =>
      cases m with
      | mk key d =>
          rw [toMembers] at read
          obtain ⟨k, -, read⟩ := Decode.bind_ok read
          obtain ⟨v, first, read⟩ := Decode.bind_ok read
          obtain ⟨vs, others, read⟩ := Decode.bind_ok read
          cases read
          exact ⟨ordered_of_toJson first, orderedMembers_of_toMembers others⟩
termination_by sizeOf ms

end

end Document

theorem Decode.ordered_of_json {o : Origin} {d : Document} {v : Json}
    (read : Decode.json o d = .ok v) : v.Ordered := by
  unfold Decode.json at read
  split at read
  · rename_i value
    cases read
    exact ordered_of_toJson value
  · cases read

end DebugAdapter
