import DebugAdapter.Program.Variable
import DebugAdapter.Proofs.Json.RoundTrip
import DebugAdapter.Proofs.Number.Reading
/-!
# Values of variables

Which texts are values of a type, and which; any other text stays as it is. A list of integers,
truth values, texts and lists of them comes back whole from its JSON text, its items named by their
places at every level.
-/

namespace DebugAdapter

namespace Json

mutual

/-- Only integers of 64 bits with a sign, truth values, texts, and arrays of them. -/
def Listable : Json → Prop
  | .bool _ | .string _ => True
  | .number (.int n) => Text.IntegerRange.signed64.holds n = true
  | .array items => ListableItems items
  | .null | .number (.float _) | .object _ => False

def ListableItems : List Json → Prop
  | [] => True
  | v :: rest => v.Listable ∧ ListableItems rest

end

mutual

theorem Listable.integral {v : Json} (listable : v.Listable) : v.Integral := by
  cases v with
  | null | object => simp only [Listable] at listable
  | bool | string => simp only [Integral]
  | number n =>
      cases n with
      | float => simp only [Listable] at listable
      | int n =>
          simp only [Listable, Text.IntegerRange.holds, Bool.and_eq_true,
            decide_eq_true_eq] at listable
          obtain ⟨low, high⟩ := listable
          have widened : Text.IntegerRange.signed64.high ≤ 18446744073709551615 := by decide
          exact ⟨low, Int.le_trans high widened⟩
  | array items => exact ListableItems.integral listable
termination_by sizeOf v

theorem ListableItems.integral {vs : List Json} (listable : ListableItems vs) :
    IntegralItems vs := by
  cases vs with
  | nil => trivial
  | cons v vs => exact ⟨listable.1.integral, ListableItems.integral listable.2⟩
termination_by sizeOf vs

end

mutual

theorem Listable.ordered {v : Json} (listable : v.Listable) : v.Ordered := by
  cases v with
  | object => simp only [Listable] at listable
  | null | bool | number | string => trivial
  | array items => exact ListableItems.ordered listable
termination_by sizeOf v

theorem ListableItems.ordered {vs : List Json} (listable : ListableItems vs) : OrderedItems vs := by
  cases vs with
  | nil => trivial
  | cons v vs => exact ⟨listable.1.ordered, ListableItems.ordered listable.2⟩
termination_by sizeOf vs

end

/-- A value is read back from its text. -/
theorem ofBytes?_text {v : Json} (listable : v.Listable) (nested : v.depth ≤ 127) :
    ofBytes? (Utf8.encode v.text) = .ok v := by
  have octets : Utf8.encode v.text = v.bytes := by
    rw [Utf8.encode, text, String.toList_ofList, bytes]
  have read : Decode.json .text (Document.ofJson v) = .ok v := by
    rw [Decode.json, Document.toJson_ofJson listable.ordered]
  rw [octets]
  exact Decode.fromBytes_bytes listable.integral nested read

end Json

namespace Program

open Interpreter (DataItem DataType)

namespace Value

mutual

/-- A value as JSON, a list as the array of its items. -/
def toJson : Value → Json
  | .integer n => .int n
  | .float x => .number (.float x)
  | .string s => .string s
  | .boolean b => .bool b
  | .list items => .array (toItems items)

def toItems : List (String × Value) → List Json
  | [] => []
  | (_, v) :: rest => v.toJson :: toItems rest

end

/-- At every level the items of a list are named by their places. -/
inductive Placed : Value → Prop
  | integer (n : Int) : Placed (.integer n)
  | float (x : Binary64) : Placed (.float x)
  | string (s : String) : Placed (.string s)
  | boolean (b : Bool) : Placed (.boolean b)
  | list {items : List (String × Value)}
      (names : items.map (·.1) =
        (List.range items.length).map fun place => "[" ++ toString place ++ "]")
      (inner : ∀ item ∈ items, Placed item.2) : Placed (.list items)

/-- A type, a text and the value of the type that the text is. -/
inductive Reads : DataType → String → Value → Prop
  | integer {type : DataType} {s : String} {n : Int} (whole : type = .int ∨ type = .byte)
      (numeral : Text.IsNumeral (Text.trimChars s.toList) n)
      (holds : Text.IntegerRange.signed64.holds n = true) : Reads type s (.integer n)
  | float {s : String} {x : Binary64} (number : Binary64.IsText (Text.trimChars s.toList) x) :
      Reads .float s (.float x)
  | boolean {s : String} {b : Bool}
      (word : (Text.trimChars s.toList).map Char.toLower = (toString b).toList) :
      Reads .boolean s (.boolean b)
  | list {s : String} {items : List Json}
      (array : Json.ofBytes? (Utf8.encode s) = .ok (.array items)) :
      Reads .list s (.list (ofItems 0 items))

/-! ## Lists -/

theorem map_fst_ofItems (place : Nat) (vs : List Json) :
    (ofItems place vs).map (·.1) = (List.range' place vs.length).map itemName := by
  induction vs generalizing place with
  | nil => rfl
  | cons v vs ih =>
      rw [ofItems, List.map_cons, ih, List.length_cons, List.range'_succ, List.map_cons]

theorem length_ofItems (place : Nat) (vs : List Json) : (ofItems place vs).length = vs.length := by
  have names := congrArg List.length (map_fst_ofItems place vs)
  rwa [List.length_map, List.length_map, List.length_range'] at names

mutual

theorem placed_ofJson (v : Json) : (ofJson v).Placed := by
  cases v with
  | null => exact .string _
  | object members => exact .string _
  | bool b => exact .boolean b
  | string s => exact .string s
  | number n =>
      cases n with
      | float x => exact .float x
      | int n =>
          rw [ofJson, ofNumber]
          split
          · exact .integer n
          · exact .float _
  | array items =>
      refine .list ?_ (placed_ofItems 0 items)
      rw [map_fst_ofItems, length_ofItems, List.range_eq_range']
      rfl
termination_by sizeOf v

theorem placed_ofItems (place : Nat) (vs : List Json) :
    ∀ item ∈ ofItems place vs, item.2.Placed := by
  cases vs with
  | nil => exact List.forall_mem_nil _
  | cons v vs => exact List.forall_mem_cons.mpr ⟨placed_ofJson v, placed_ofItems (place + 1) vs⟩
termination_by sizeOf vs

end

mutual

theorem toJson_ofJson {v : Json} (listable : v.Listable) : (ofJson v).toJson = v := by
  cases v with
  | null | object => simp only [Json.Listable] at listable
  | bool | string => rfl
  | number n =>
      cases n with
      | float => simp only [Json.Listable] at listable
      | int n =>
          simp only [Json.Listable] at listable
          rw [ofJson, ofNumber, if_pos listable]
          rfl
  | array items => exact congrArg Json.array (toItems_ofItems 0 listable)
termination_by sizeOf v

theorem toItems_ofItems (place : Nat) {vs : List Json} (listable : Json.ListableItems vs) :
    toItems (ofItems place vs) = vs := by
  cases vs with
  | nil => rfl
  | cons v vs =>
      rw [ofItems, toItems, toJson_ofJson listable.1, toItems_ofItems (place + 1) listable.2]
termination_by sizeOf vs

end

/-! ## Texts -/

theorem readInt64_trim {s : String} {n : Int} :
    (Text.readInt64 (Text.trim s)).toOption = some n ↔
      Text.IsNumeral (Text.trimChars s.toList) n ∧ Text.IntegerRange.signed64.holds n = true := by
  rw [Text.readInt64, Text.trim, String.toList_ofList,
    ← Text.readInteger_eq_ok (by decide) (by decide)]
  cases Text.readInteger .signed64 10 (Text.trimChars s.toList) <;> simp [Except.toOption]

theorem number_trim {s : String} {x : Binary64} :
    Binary64.ofText? (Text.trim s) = some x ↔ Binary64.IsText (Text.trimChars s.toList) x := by
  rw [Binary64.ofText?_eq_some, Text.trim, String.toList_ofList]

theorem booleanOfText?_eq_some {s : String} {b : Bool} :
    booleanOfText? s = some b ↔
      (Text.trimChars s.toList).map Char.toLower = (toString b).toList := by
  have word (w : String) : (Text.trim s).map Char.toLower = w ↔
      (Text.trimChars s.toList).map Char.toLower = w.toList := by
    rw [← String.toList_inj, String.toList_map, Text.trim, String.toList_ofList]
  rw [← word]
  unfold booleanOfText?
  split
  · rename_i same
    rw [same]
    cases b <;> decide
  · rename_i same
    rw [same]
    cases b <;> decide
  · rename_i notTrue notFalse
    refine iff_of_false nofun fun same => ?_
    cases b
    · exact notFalse same
    · exact notTrue same

/-- Exactly the texts that are values of a type are read as such. -/
theorem ofText?_eq_some {type : DataType} {s : String} {v : Value} :
    ofText? type s = some v ↔ Reads type s v := by
  constructor
  · intro read
    cases type with
    | int | byte =>
        rw [ofText?] at read
        obtain ⟨n, inner, rfl⟩ := Option.map_eq_some_iff.mp read
        obtain ⟨numeral, holds⟩ := readInt64_trim.mp inner
        exact .integer (by simp) numeral holds
    | float =>
        rw [ofText?] at read
        obtain ⟨x, inner, rfl⟩ := Option.map_eq_some_iff.mp read
        exact .float (number_trim.mp inner)
    | boolean =>
        rw [ofText?] at read
        obtain ⟨b, inner, rfl⟩ := Option.map_eq_some_iff.mp read
        exact .boolean (booleanOfText?_eq_some.mp inner)
    | list =>
        simp only [ofText?, listOfText?] at read
        split at read
        · rename_i array
          cases read
          exact .list array
        · cases read
    | char | string | struct | runtime | other => cases read
  · intro reads
    cases reads with
    | @integer type s n whole numeral holds =>
        have read := readInt64_trim.mpr ⟨numeral, holds⟩
        obtain rfl | rfl := whole <;> rw [ofText?, read] <;> rfl
    | float number =>
        rw [ofText?, number_trim.mpr number]
        rfl
    | boolean word =>
        rw [ofText?, booleanOfText?_eq_some.mpr word]
        rfl
    | list array => rw [ofText?, listOfText?, array]

theorem ofText_of_reads {type : DataType} {s : String} {v : Value} (reads : Reads type s v) :
    ofText type s = v := by
  rw [ofText, ofText?_eq_some.mpr reads, Option.getD_some]

theorem ofText_of_unread {type : DataType} {s : String} (unread : ∀ v, ¬ Reads type s v) :
    ofText type s = .string s := by
  have none_ : ofText? type s = none :=
    Option.eq_none_iff_forall_ne_some.mpr fun v read => unread v (ofText?_eq_some.mp read)
  rw [ofText, none_, Option.getD_none]

end Value

/-- A list that was written from integers, truth values, texts and lists of them is shown with every
item named by its place, at every level, and comes back whole. A text of any type is shown as the
value of its type that it is, and as itself, without a change, if it is none. -/
theorem ofItem_projects (name : String) :
    (∀ items tag, (Json.array items).Listable → (Json.array items).depth ≤ 127 →
      let x := Variable.ofItem name ⟨(Json.array items).text, .list, tag⟩
      (∃ children, x.value = .list children) ∧ x.value.Placed ∧ x.value.toJson = .array items) ∧
    (∀ item v, Value.Reads item.type item.value v → (Variable.ofItem name item).value = v) ∧
    ∀ item, (∀ v, ¬ Value.Reads item.type item.value v) →
      (Variable.ofItem name item).value = .string item.value := by
  refine ⟨fun items tag listable nested => ?_, fun item v reads => Value.ofText_of_reads reads,
    fun item unread => Value.ofText_of_unread unread⟩
  intro x
  have value : x.value = .list (Value.ofItems 0 items) :=
    Value.ofText_of_reads (.list (Json.ofBytes?_text listable nested))
  rw [value]
  exact ⟨⟨_, rfl⟩, Value.placed_ofJson (.array items), Value.toJson_ofJson listable⟩

/-- The least integer, a text with escapes, an empty list within a list; a word in capitals between
blanks; a text that is no integer. -/
theorem ofItem_projects_nested :
    (Variable.ofItem "rows" ⟨(Json.array [.int (-9223372036854775808), .string "\"\\\n",
        .array [.array [], .bool true]]).text, .list, none⟩).value.toJson =
      .array [.int (-9223372036854775808), .string "\"\\\n", .array [.array [], .bool true]] ∧
    (Variable.ofItem "flag" ⟨" TRUE\n", .boolean, none⟩).value = .boolean true ∧
    (Variable.ofItem "count" ⟨" nope ", .int, none⟩).value = .string " nope " := by
  refine ⟨((ofItem_projects "rows").1 _ none ?_ (by decide)).2.2,
    (ofItem_projects "flag").2.1 ⟨" TRUE\n", .boolean, none⟩ (.boolean true) (.boolean (by decide)),
    (ofItem_projects "count").2.2 ⟨" nope ", .int, none⟩ fun v reads => ?_⟩
  · simp only [Json.Listable, Json.ListableItems, and_true]
    decide
  · cases reads with
    | integer whole numeral holds =>
        exact absurd (numeral.isDigit_or_sign 'n' (by decide)) (by decide)

end Program

end DebugAdapter
