import DebugAdapter.Program.Variable
/-!
# The octets of a variable

A variable lays out the octets of its text when they are first looked at, and forgets them when it is
given another value. Nobody can tell whether they are laid out: what is seen of a variable depends on
its name and its value alone.
-/

namespace DebugAdapter.Program

/-- What is done with a variable. -/
inductive Use where
  /-- Its octets are looked at. -/
  | look
  /-- It is given a value. -/
  | assign (value : Value)

/-- The value after some use. -/
def Use.onto (value : Value) : Use → Value
  | .look => value
  | .assign v => v

/-- What is seen of a variable. -/
structure View where
  name : String
  value : Value
  hasMemory : Bool
  memory : Option Bytes

/-- The octets of a value: those of a text. -/
def Value.octets? : Value → Option Bytes
  | .string text => some (Utf8.encode text)
  | _ => none

theorem Value.octets?_eq_some {v : Value} {octets : Bytes} :
    v.octets? = some octets ↔ ∃ text, v = .string text ∧ octets = Utf8.encode text := by
  cases v with
  | string text => simp [octets?, eq_comm]
  | integer | float | boolean | list => simp [octets?]

theorem Value.isSome_octets? {v : Value} :
    v.octets?.isSome = true ↔ ∃ text, v = .string text := by
  cases v with
  | string text => simp [octets?]
  | integer | float | boolean | list => simp [octets?]

namespace Variable

/-- A variable that nothing was done with yet. -/
inductive Fresh : Variable → Prop where
  | new (name : String) (value : Value) : Fresh { name, value }
  | ofItem (name : String) (item : Interpreter.DataItem) : Fresh (ofItem name item)

/-- A variable after something is done with it. -/
def use (x : Variable) : Use → Variable
  | .look => x.memory.2
  | .assign value => x.setValue value

/-- A variable after some uses, one after the other. -/
def after (x : Variable) (uses : List Use) : Variable := uses.foldl use x

/-- All that is seen of a variable. -/
def view (x : Variable) : View where
  name := x.name
  value := x.value
  hasMemory := x.hasMemory
  memory := x.memory.1

/-- All that is seen of a variable before, between and after some uses. -/
def views (x : Variable) : List Use → List View
  | [] => [x.view]
  | u :: uses => x.view :: (x.use u).views uses

@[simp] theorem layOut_name (x : Variable) : x.layOut.name = x.name := by
  unfold layOut
  split <;> rfl

@[simp] theorem layOut_value (x : Variable) : x.layOut.value = x.value := by
  unfold layOut
  split <;> rfl

/-- Whether the octets of a variable, if they are laid out, are those of its value. -/
def Coherent (x : Variable) : Prop :=
  ∀ octets, x.octets = some octets → x.value.octets? = some octets

theorem Coherent.of_none {x : Variable} (absent : x.octets = none) : x.Coherent := by
  intro octets laid
  simp [absent] at laid

theorem Fresh.coherent {x : Variable} (fresh : x.Fresh) : x.Coherent := by
  cases fresh with
  | new | ofItem => exact .of_none rfl

namespace Coherent

variable {x y : Variable}

theorem layOut_octets (coherent : x.Coherent) : x.layOut.octets = x.value.octets? := by
  obtain ⟨name, value, octets⟩ := x
  cases octets with
  | some octets => exact (coherent octets rfl).symm
  | none => cases value <;> rfl

theorem memory (coherent : x.Coherent) : x.memory.1 = x.value.octets? := coherent.layOut_octets

theorem hasMemory (coherent : x.Coherent) : x.hasMemory = x.value.octets?.isSome := by
  obtain ⟨name, value, octets⟩ := x
  cases octets with
  | some octets =>
      have same : value.octets? = some octets := coherent octets rfl
      simp [Variable.hasMemory, same]
  | none => cases value <;> rfl

theorem use (coherent : x.Coherent) (u : Use) : (x.use u).Coherent := by
  cases u with
  | look =>
      intro octets laid
      have same : x.layOut.octets = some octets := laid
      have value : (x.use .look).value = x.value := layOut_value x
      rw [value, ← coherent.layOut_octets, same]
  | assign value => exact .of_none rfl

theorem after (coherent : x.Coherent) (uses : List Use) : (x.after uses).Coherent := by
  induction uses generalizing x with
  | nil => exact coherent
  | cons u uses ih => exact ih (coherent.use u)

theorem view_eq (first : x.Coherent) (second : y.Coherent) (name : x.name = y.name)
    (value : x.value = y.value) : x.view = y.view := by
  simp only [view, first.memory, second.memory, first.hasMemory, second.hasMemory, name, value]

/-- Two variables with the same name and the same value look the same ever after. -/
theorem views_eq (first : x.Coherent) (second : y.Coherent) (name : x.name = y.name)
    (value : x.value = y.value) (uses : List Use) : x.views uses = y.views uses := by
  induction uses generalizing x y with
  | nil => exact congrArg (fun v => [v]) (view_eq first second name value)
  | cons u uses ih =>
      have now : x.view = y.view := view_eq first second name value
      have later : (x.use u).views uses = (y.use u).views uses := by
        cases u with
        | look =>
            refine ih (first.use .look) (second.use .look) ?_ ?_
            · simpa [Variable.use, Variable.memory] using name
            · simpa [Variable.use, Variable.memory] using value
        | assign v => exact ih (first.use _) (second.use _) name rfl
      rw [views, views, now, later]

end Coherent

/-- The value of a variable after some uses: the last that it was given. -/
theorem after_value (x : Variable) (uses : List Use) :
    (x.after uses).value = uses.foldl Use.onto x.value := by
  induction uses generalizing x with
  | nil => rfl
  | cons u uses ih =>
      refine (ih (x.use u)).trans ?_
      cases u with
      | look => rw [List.foldl_cons, use, Variable.memory, layOut_value, Use.onto]
      | assign v => rfl

theorem after_name (x : Variable) (uses : List Use) : (x.after uses).name = x.name := by
  induction uses generalizing x with
  | nil => rfl
  | cons u uses ih =>
      refine (ih (x.use u)).trans ?_
      cases u with
      | look => exact layOut_name x
      | assign v => rfl

/-- However often the octets of a variable are looked at and whatever values it is given: it has
octets if its value is a text, and they are those of this text. Looking at them changes nothing that
is seen of the variable from then on. -/
theorem memory_after {x : Variable} (fresh : x.Fresh) (uses : List Use) :
    ((x.after uses).hasMemory = true ↔ ∃ text, (x.after uses).value = .string text) ∧
    (∀ octets, (x.after uses).memory.1 = some octets ↔
      ∃ text, (x.after uses).value = .string text ∧ octets = Utf8.encode text) ∧
    (x.after uses).memory.2.name = (x.after uses).name ∧
    (x.after uses).memory.2.value = (x.after uses).value ∧
    (∀ later, (x.after uses).memory.2.views later = (x.after uses).views later) ∧
    (x.after uses).name = x.name ∧ (x.after uses).value = uses.foldl Use.onto x.value := by
  have coherent := fresh.coherent.after uses
  refine ⟨?_, fun octets => ?_, layOut_name _, layOut_value _, fun later => ?_, x.after_name uses,
    x.after_value uses⟩
  · rw [coherent.hasMemory, Value.isSome_octets?]
  · rw [coherent.memory, Value.octets?_eq_some]
  · exact (coherent.use .look).views_eq coherent (layOut_name _) (layOut_value _) later

/-- A variable that is given another text after its octets were looked at. -/
theorem memory_after_assigned :
    (({ name := "s", value := .string "a" } : Variable).after
        [.look, .assign (.integer 1), .look, .assign (.string "ö")]).memory.1 = some [0xC3, 0xB6] ∧
      ∀ octets, (({ name := "s", value := .string "a" } : Variable).after
          [.look, .assign (.integer 1), .look, .assign (.string "ö")]).memory.1 = some octets ↔
        ∃ text, Value.string "ö" = .string text ∧ octets = Utf8.encode text :=
  ⟨by decide +kernel, (memory_after (.new "s" (.string "a"))
    [.look, .assign (.integer 1), .look, .assign (.string "ö")]).2.1⟩

end Variable

end DebugAdapter.Program
