import DebugAdapter.Json.Decode
import DebugAdapter.Proofs.Table
/-! # Reading records

What a record's reader makes of an object whose keys are distinct: every field is built from the
member of its name, wherever that stands, and members without a field are passed over. The other way
round, whatever a record is read from, each of its fields has been read from something or is the
field's default.
-/

namespace DebugAdapter

open Document

namespace Document

mutual

theorem skipFault_ofJson (v : Json) : (ofJson v).skipFault = none := by
  cases v with
  | null | bool | number | string => rfl
  | array items => exact congrArg (Option.or · none) (skipFaultOfItems_ofItems items)
  | object members => exact congrArg (Option.or · none) (skipFaultOfMembers_ofMembers members)
termination_by sizeOf v

theorem skipFaultOfItems_ofItems (vs : List Json) : skipFaultOfItems (ofItems vs) = none := by
  cases vs with
  | nil => rfl
  | cons v vs =>
      rw [ofItems, skipFaultOfItems, skipFault_ofJson v, skipFaultOfItems_ofItems vs]
      rfl
termination_by sizeOf vs

theorem skipFaultOfMembers_ofMembers (ms : List (String × Json)) :
    skipFaultOfMembers (ofMembers ms) = none := by
  cases ms with
  | nil => rfl
  | cons m ms =>
      cases m with
      | mk k v =>
          rw [ofMembers, skipFaultOfMembers, skipFault_ofJson v, skipFaultOfMembers_ofMembers ms]
          · rfl
          · intro b absent
            cases absent
termination_by sizeOf ms

end

end Document

namespace Decode

variable {α β : Type} {o : Origin}

theorem memberOf_cons (key : String) (d : Document) (members : List (Key × Document))
    (name : String) : memberOf ((.text key, d) :: members) name =
      if key = name then some d else memberOf members name := by
  unfold memberOf
  by_cases same : key = name
  · rw [List.find?_cons_of_pos (by simp [same]), if_pos same]
    rfl
  · rw [List.find?_cons_of_neg (by simp [same]), if_neg same]

theorem mem_of_memberOf_ofMembers {ms : List (String × Json)} {name : String} {d : Document}
    (found : memberOf (ofMembers ms) name = some d) : name ∈ ms.map (·.1) := by
  induction ms with
  | nil => cases found
  | cons m ms ih =>
      rw [ofMembers, memberOf_cons] at found
      split at found
      · rename_i same
        exact same ▸ List.mem_cons_self
      · exact .tail _ (ih found)

/-! ## What an object gives a record -/

/-- Where an object's members are found by name; a required one has to be there. -/
def slotsOf (members : List (Key × Document)) : Slots where
  find := memberOf members
  missing rule _ :=
    if rule.presence = .required then some (.mismatch (.missingField rule.name)) else none

/-- The members pass the checks of the fields, and `v` is built from them. -/
structure Fields.Gives (fields : Fields α) (o : Origin) (members : List (Key × Document)) (v : α) :
    Prop where
  checked : ∀ rule ∈ fields.rules, ∀ d, memberOf members rule.name = some d → rule.check o d = .ok ()
  built : fields.build o (slotsOf members) = .ok v

namespace Fields.Gives

variable {members : List (Key × Document)}

theorem pure (v : α) : (Fields.pure v).Gives o members v where
  checked _ mem := absurd mem List.not_mem_nil
  built := rfl

variable {before : Fields (α → β)} {f : α → β} {name : String} {presence : Presence}
    {absent : Option α} {inner : Decoder α}

theorem field {d : Document} {v : α} (earlier : before.Gives o members f)
    (there : memberOf members name = some d) (read : inner o d = .ok v) :
    (before.field name presence absent inner).Gives o members (f v) where
  checked := by
    intro rule mem d' found
    rcases List.mem_append.mp mem with old | new
    · exact earlier.checked rule old d' found
    · cases List.mem_singleton.mp new
      cases there.symm.trans found
      exact congrArg (Except.map fun _ => ()) read
  built := by
    have found : (slotsOf members).find name = some d := there
    simp only [Fields.field, earlier.built, found, read, bind, Except.bind]
    rfl

/-- A field that is not there is its default. -/
theorem field_absent {default : α} (earlier : before.Gives o members f)
    (lacking : memberOf members name = none) (spare : presence ≠ .required) :
    (before.field name presence (some default) inner).Gives o members (f default) where
  checked := by
    intro rule mem d found
    rcases List.mem_append.mp mem with old | new
    · exact earlier.checked rule old d found
    · cases List.mem_singleton.mp new
      cases lacking.symm.trans found
  built := by
    have found : (slotsOf members).find name = none := lacking
    have free (rule : FieldRule) (same : rule.presence = presence) (n : Nat) :
        (slotsOf members).missing rule n = none := if_neg (same ▸ spare)
    simp only [Fields.field, earlier.built, found, free, bind, Except.bind]
    rfl

end Fields.Gives

theorem checkMembers_ofMembers {rules : List FieldRule} {seen : List String}
    {ms : List (String × Json)} (distinct : (ms.map (·.1)).Nodup)
    (unseen : ∀ m ∈ ms, m.1 ∉ seen)
    (passes : ∀ rule ∈ rules, ∀ d, memberOf (ofMembers ms) rule.name = some d →
      rule.check o d = .ok ()) :
    checkMembers o rules seen (ofMembers ms) = .ok () := by
  induction ms generalizing seen with
  | nil => rfl
  | cons m ms ih =>
      obtain ⟨key, v⟩ := m
      obtain ⟨fresh, distinct⟩ := List.nodup_cons.mp distinct
      -- A later member has another name, so the first one does not hide it.
      have later : ∀ rule ∈ rules, ∀ d, memberOf (ofMembers ms) rule.name = some d →
          rule.check o d = .ok () := by
        intro rule mem d found
        apply passes rule mem d
        rw [ofMembers, memberOf_cons, if_neg, found]
        rintro rfl
        apply fresh
        exact mem_of_memberOf_ofMembers found
      rw [ofMembers, checkMembers]
      simp only [Key.read, bind, Except.bind]
      cases known : rules.find? (·.name = key) with
      | none =>
          simp only [skipFault_ofJson]
          exact ih distinct (fun m mem => unseen m (.tail _ mem)) later
      | some rule =>
          have named : rule.name = key := by simpa using List.find?_some known
          have found : memberOf (ofMembers ((key, v) :: ms)) rule.name = some (ofJson v) := by
            rw [ofMembers, memberOf_cons, if_pos named.symm]
          have first : seen.contains key = false := by
            simpa using unseen (key, v) List.mem_cons_self
          have others : ∀ m ∈ ms, m.1 ∉ key :: seen := by
            intro m mem again
            have listed : m.1 ∈ ms.map (·.1) := List.mem_map_of_mem mem
            rcases List.mem_cons.mp again with same | old
            · exact fresh (same ▸ listed)
            · exact unseen m (.tail _ mem) old
          have rest := ih distinct others later
          simp only [first, passes rule (List.mem_of_find?_eq_some known) _ found, rest,
            Bool.false_eq_true, if_false]

/-- A record is read from an object with distinct keys, in whatever order they stand. -/
theorem record_ofMembers {name : String} {fields : Fields α} {ms : List (String × Json)} {v : α}
    (keys : List String) (named : ms.map (·.1) = keys) (distinct : keys.Nodup)
    (gives : fields.Gives o (ofMembers ms) v) :
    record name fields o (ofJson (.object ms)) = .ok v := by
  have unseen : ∀ m ∈ ms, m.1 ∉ ([] : List String) := fun _ _ => List.not_mem_nil
  have passes := checkMembers_ofMembers (named ▸ distinct) unseen gives.checked
  have built := gives.built
  simp only [record, ofJson, passes, bind, Except.bind, Bool.not_true, Bool.false_eq_true, if_false]
  exact built

/-! ## Which members are accepted -/

theorem memberOf_ofMembers (ms : List (String × Json)) (name : String) :
    memberOf (ofMembers ms) name = (ms.lookup name).map ofJson := by
  induction ms with
  | nil => rfl
  | cons m ms ih =>
      rw [ofMembers, memberOf_cons, Table.lookup_cons, ih]
      by_cases same : m.1 = name
      · rw [if_pos same, if_pos same.symm]
        rfl
      · rw [if_neg same, if_neg (Ne.symm same)]

/-- Whether members pass the checks of some fields: none of the fields comes twice, and each is what
it should be. -/
structure Passes (o : Origin) (rules : List FieldRule) (ms : List (String × Json)) : Prop where
  once : ((ms.map (·.1)).filter fun key => (rules.find? (·.name = key)).isSome).Nodup
  checked : ∀ m ∈ ms, ∀ rule, rules.find? (·.name = m.1) = some rule →
    rule.check o (ofJson m.2) = .ok ()

section

variable {rules : List FieldRule} {key : String} {v : Json} {ms : List (String × Json)}

theorem passes_cons_unknown (unknown : rules.find? (·.name = key) = none) :
    Passes o rules ((key, v) :: ms) ↔ Passes o rules ms := by
  constructor
  · rintro ⟨once, checked⟩
    exact ⟨by simpa [unknown] using once, fun m later => checked m (.tail _ later)⟩
  · rintro ⟨once, checked⟩
    refine ⟨by simpa [unknown] using once, fun m mem rule found => ?_⟩
    rcases List.mem_cons.mp mem with rfl | later
    · cases unknown.symm.trans found
    · exact checked m later rule found

theorem passes_cons_known {rule : FieldRule} (known : rules.find? (·.name = key) = some rule) :
    Passes o rules ((key, v) :: ms) ↔
      rule.check o (ofJson v) = .ok () ∧ key ∉ ms.map (·.1) ∧ Passes o rules ms := by
  constructor
  · rintro ⟨once, checked⟩
    simp only [List.map_cons, List.filter_cons, known, Option.isSome_some, if_true,
      List.nodup_cons, List.mem_filter, and_true] at once
    exact ⟨checked (key, v) List.mem_cons_self rule known, once.1, once.2,
      fun m later => checked m (.tail _ later)⟩
  · rintro ⟨first, fresh, once, checked⟩
    refine ⟨?_, fun m mem rule' found => ?_⟩
    · simpa only [List.map_cons, List.filter_cons, known, Option.isSome_some, if_true,
        List.nodup_cons, List.mem_filter, and_true] using And.intro fresh once
    · rcases List.mem_cons.mp mem with rfl | later
      · cases known.symm.trans found
        exact first
      · exact checked m later rule' found

theorem checkMembers_eq_ok {seen : List String} : checkMembers o rules seen (ofMembers ms) = .ok () ↔
    Passes o rules ms ∧ ∀ m ∈ ms, (rules.find? (·.name = m.1)).isSome = true → m.1 ∉ seen := by
  induction ms generalizing seen with
  | nil => exact iff_of_true rfl ⟨⟨List.nodup_nil, nofun⟩, nofun⟩
  | cons m ms ih =>
      obtain ⟨key, v⟩ := m
      rw [ofMembers, checkMembers, List.forall_mem_cons]
      simp only [Key.read, bind, Except.bind]
      cases known : rules.find? (·.name = key) with
      | none =>
          simp only [skipFault_ofJson]
          rw [ih, passes_cons_unknown known]
          simp
      | some rule =>
          rw [passes_cons_known known]
          by_cases again : key ∈ seen
          · refine iff_of_false ?_ (fun passes => passes.2.1 (by simp) again)
            simp [again, mismatch]
          · have unseen : seen.contains key = false := by simpa using again
            simp only [unseen, Bool.false_eq_true, if_false]
            cases first : rule.check o (ofJson v) with
            | error e => simp
            | ok =>
                dsimp only
                rw [ih]
                constructor
                · rintro ⟨passes, unseen⟩
                  refine ⟨⟨rfl, fun listed => ?_, passes⟩, fun _ => again,
                    fun m mem field old => unseen m mem field (.tail _ old)⟩
                  obtain ⟨m, mem, rfl⟩ := List.mem_map.mp listed
                  exact unseen m mem (by simp [known]) List.mem_cons_self
                · rintro ⟨⟨-, fresh, passes⟩, -, unseen⟩
                  refine ⟨passes, fun m mem field listed => ?_⟩
                  rcases List.mem_cons.mp listed with same | old
                  · exact fresh (same ▸ List.mem_map_of_mem mem)
                  · exact unseen m mem field old

/-- What a record is read from, if it is an object. -/
theorem record_eq_ok {name : String} {fields : Fields α} {w : α} :
    record name fields o (ofJson (.object ms)) = .ok w ↔
      Passes o fields.rules ms ∧ fields.build o (slotsOf (ofMembers ms)) = .ok w := by
  have checks : checkMembers o fields.rules [] (ofMembers ms) = .ok () ↔
      Passes o fields.rules ms := by
    simp [checkMembers_eq_ok]
  rw [← checks]
  simp only [record, ofJson, bind, Except.bind, Bool.not_true, Bool.false_eq_true, if_false]
  cases checked : checkMembers o fields.rules [] (ofMembers ms) with
  | error e => simp
  | ok => exact (and_iff_right rfl).symm

end
/-! ## Parts of a record -/

theorem int64_ofJson {n : Int} (fits : Text.IntegerRange.signed64.holds n = true) (o : Origin) :
    int64 o (ofJson (.int n)) = .ok n := by
  simp only [int64, integer, ofJson, fits, if_true]

theorem string_ofJson (s : String) (o : Origin) : string o (ofJson (.string s)) = .ok s := rfl

theorem each_map {α : Type} {inner : Document → Except DecodeError α} {encode : α → Json}
    {xs : List α} (read : ∀ x ∈ xs, inner (ofJson (encode x)) = .ok x) :
    each inner (ofItems (xs.map encode)) = .ok xs := by
  induction xs with
  | nil => rfl
  | cons x xs ih =>
      have others := ih fun y member => read y (List.mem_cons_of_mem x member)
      simp only [List.map_cons, ofItems, each, read x List.mem_cons_self, others]
      rfl

theorem list_array {α : Type} {inner : Decoder α} {encode : α → Json} {xs : List α} {o : Origin}
    (read : ∀ x ∈ xs, inner o (ofJson (encode x)) = .ok x) :
    list inner o (ofJson (.array (xs.map encode))) = .ok xs := by
  simp only [list, ofJson, each_map read, Bool.not_true, Bool.false_eq_true, if_false]
  rfl

theorem optional_orNull {α : Type} {inner : Decoder α} {encode : α → Json} {x : Option α}
    {o : Origin} (visible : ∀ x, encode x ≠ .null)
    (read : ∀ y, x = some y → inner o (ofJson (encode y)) = .ok y) :
    optional inner o (ofJson (Json.orNull (x.map encode))) = .ok x := by
  cases x with
  | none => rfl
  | some y =>
      have visible := visible y
      have readY := read y rfl
      rw [Option.map_some, Json.orNull, Option.getD_some]
      cases shape : encode y with
      | null => exact absurd shape visible
      | bool | number | string | array | object =>
          rw [shape] at readY
          exact congrArg (Except.map some) readY

/-! ## What a record's reader accepts -/

theorem bind_ok {ε α β : Type} {x : Except ε α} {f : α → Except ε β} {b : β}
    (h : x >>= f = .ok b) : ∃ a, x = .ok a ∧ f a = .ok b := by
  cases x with
  | error e => cases h
  | ok a => exact ⟨a, rfl, h⟩

theorem map_ok {α β : Type} {x : Except DecodeError α} {f : α → β} {b : β}
    (h : x.map f = .ok b) : ∃ a, x = .ok a ∧ f a = b := by
  cases x with
  | error e => cases h
  | ok a => exact ⟨a, rfl, Except.ok.inj h⟩

theorem unexpected_ne_ok {α : Type} {expected : String} {d : Document} {x : α} :
    unexpected expected d ≠ .ok x := by
  intro read
  unfold unexpected at read
  split at read <;> cases read

theorem build_field_inv {α β : Type} {o : Origin} {before : Fields (α → β)} {name : String}
    {presence : Presence} {absent : Option α} {inner : Decoder α} {slots : Slots} {v : β}
    (built : (before.field name presence absent inner).build o slots = .ok v) :
    ∃ f x, before.build o slots = .ok f ∧ v = f x ∧ ((∃ d, inner o d = .ok x) ∨ absent = some x) := by
  obtain ⟨f, earlier, built⟩ := bind_ok built
  cases there : slots.find name with
  | some d =>
      simp only [there] at built
      obtain ⟨x, read, built⟩ := bind_ok built
      cases built
      exact ⟨f, x, earlier, rfl, .inl ⟨d, read⟩⟩
  | none =>
      simp only [there] at built
      split at built
      · cases built
      · cases built
        exact ⟨f, _, earlier, rfl, .inr rfl⟩
      · cases built

/-- A field that has to be there has been read. -/
theorem build_required_inv {α β : Type} {o : Origin} {before : Fields (α → β)} {name : String}
    {inner : Decoder α} {slots : Slots} {v : β}
    (built : (before.required name inner).build o slots = .ok v) :
    ∃ f x, before.build o slots = .ok f ∧ v = f x ∧ ∃ d, inner o d = .ok x := by
  obtain ⟨f, x, earlier, whole, read | absent⟩ := build_field_inv built
  · exact ⟨f, x, earlier, whole, read⟩
  · cases absent

/-- A field with a default has been read, or it is the default. -/
theorem build_defaulted_inv {α β : Type} {o : Origin} {before : Fields (α → β)} {name : String}
    {default : α} {inner : Decoder α} {slots : Slots} {v : β}
    (built : (before.defaulted name default inner).build o slots = .ok v) :
    ∃ f x, before.build o slots = .ok f ∧ v = f x ∧ ((∃ d, inner o d = .ok x) ∨ x = default) := by
  obtain ⟨f, x, earlier, whole, read⟩ := build_field_inv built
  exact ⟨f, x, earlier, whole, read.imp_right fun same => (Option.some.inj same).symm⟩

theorem record_inv {α : Type} {name : String} {fields : Fields α} {o : Origin} {d : Document}
    {v : α} (read : record name fields o d = .ok v) : ∃ slots, fields.build o slots = .ok v := by
  unfold record at read
  split at read
  · rename_i shallow members ending
    cases shallow with
    | false => cases read
    | true =>
        simp only [Bool.not_true, Bool.false_eq_true, if_false] at read
        obtain ⟨-, -, read⟩ := bind_ok read
        cases ending with
        | some b => cases read
        | none => exact ⟨_, read⟩
  · rename_i shallow items ending
    cases shallow with
    | false => cases read
    | true =>
        simp only [Bool.not_true, Bool.false_eq_true, if_false] at read
        obtain ⟨-, -, read⟩ := bind_ok read
        split at read
        · cases o <;> cases read
        · cases ending with
          | some b => cases read
          | none => exact ⟨_, read⟩
  · exact absurd read unexpected_ne_ok

theorem holds_of_int64 {o : Origin} {d : Document} {n : Int} (read : int64 o d = .ok n) :
    Text.IntegerRange.signed64.holds n = true := by
  unfold int64 integer at read
  split at read
  · split at read
    · rename_i fits
      cases read
      exact fits
    · cases read
  · exact absurd read unexpected_ne_ok

theorem read_of_optional {α : Type} {inner : Decoder α} {o : Origin} {d : Document} {x : α}
    (read : optional inner o d = .ok (some x)) : inner o d = .ok x := by
  unfold optional at read
  split at read
  · cases read
  · obtain ⟨y, read, same⟩ := map_ok read
    cases same
    exact read

theorem read_of_mem_each {α : Type} {inner : Document → Except DecodeError α} {ds : List Document}
    {xs : List α} (read : each inner ds = .ok xs) {x : α} (mem : x ∈ xs) :
    ∃ d, inner d = .ok x := by
  induction ds generalizing xs with
  | nil =>
      cases read
      cases mem
  | cons d ds ih =>
      rw [each] at read
      obtain ⟨y, first, read⟩ := bind_ok read
      obtain ⟨ys, others, read⟩ := bind_ok read
      cases read
      rcases List.mem_cons.mp mem with rfl | later
      · exact ⟨d, first⟩
      · exact ih others later

theorem read_of_mem_list {α : Type} {inner : Decoder α} {o : Origin} {d : Document} {xs : List α}
    (read : list inner o d = .ok xs) {x : α} (mem : x ∈ xs) : ∃ d, inner o d = .ok x := by
  unfold list at read
  split at read
  · rename_i shallow items ending
    cases shallow with
    | false => cases read
    | true =>
        simp only [Bool.not_true, Bool.false_eq_true, if_false] at read
        obtain ⟨ys, all, read⟩ := bind_ok read
        cases ending with
        | some b => cases read
        | none =>
            cases read
            exact read_of_mem_each all mem
  · exact absurd read unexpected_ne_ok

end Decode

end DebugAdapter
