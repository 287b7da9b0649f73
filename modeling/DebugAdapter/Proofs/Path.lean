import DebugAdapter.Path
import DebugAdapter.Proofs.Text.Blank
/-!
# Components of paths

A path is read as a list of components: its root or a dot at its start, and then what stands between
the slashes and is not void. The home directory stands for the first component, and the directory of
a path has all its components but the last.
-/

namespace DebugAdapter.Path

/-! ## Components -/

/-- The components that say something. -/
def solid (components : List (List Char)) : List (List Char) := components.filter (!isVoid ·)

/-- The components of a path. -/
def components (path : String) : List (List Char) :=
  let (start, body) := splitStart path.toList
  (if start.isEmpty then [] else [start]) ++ solid (Text.fields '/' body)

/-- Whether a path can consist of what comes before its components, and of the rest. -/
inductive Starts : List Char → List Char → Prop where
  | root (body : List Char) : Starts ['/'] body
  | dot : Starts ['.'] []
  | dotSlash (rest : List Char) : Starts ['.'] ('/' :: rest)
  | plain {body : List Char} (first_ : ∀ first others, Text.fields '/' body = first :: others →
      isVoid first = true → body = []) : Starts [] body

theorem splitStart_plain {body : List Char} (first_ : ∀ first others,
    Text.fields '/' body = first :: others → isVoid first = true → body = []) :
    splitStart body = ([], body) := by
  unfold splitStart
  split
  · rename_i rest
    cases first_ [] (Text.fields '/' rest) rfl rfl
  · cases first_ ['.'] [] rfl rfl
  · rename_i rest
    cases first_ ['.'] (Text.fields '/' rest) (Text.fields_cons (by decide : '/' ∉ ['.']) rest) rfl
  · rfl

theorem splitStart_append {start body : List Char} (starts : Starts start body) :
    splitStart (start ++ body) = (start, body) := by
  cases starts with
  | root | dot | dotSlash => rfl
  | plain first_ => exact splitStart_plain first_

theorem isVoid_iff {c : List Char} : isVoid c = true ↔ c = [] ∨ c = ['.'] := by
  simp [isVoid]

/-- Every path is put together so. -/
theorem exists_starts (path : String) :
    ∃ start body, Starts start body ∧ path = String.ofList (start ++ body) := by
  rw [← String.ofList_toList (s := path)]
  generalize path.toList = cs
  cases cut : Text.fields '/' cs with
  | nil => exact ⟨[], cs, .plain fun first others cut' => by simp [cut] at cut', rfl⟩
  | cons first others =>
      obtain ⟨-, whole⟩ := Text.fields_eq_cons.mp cut
      cases void : isVoid first with
      | false =>
          refine ⟨[], cs, .plain fun first' others' cut' void' => ?_, rfl⟩
          cases cut.symm.trans cut'
          simp [void] at void'
      | true =>
          obtain rfl | rfl := isVoid_iff.mp void <;> obtain ⟨rfl, -⟩ | ⟨rest, rfl, -⟩ := whole
          · exact ⟨[], [], .plain fun _ _ _ _ => rfl, rfl⟩
          · exact ⟨['/'], rest, .root rest, rfl⟩
          · exact ⟨['.'], [], .dot, rfl⟩
          · exact ⟨['.'], '/' :: rest, .dotSlash rest, rfl⟩

theorem components_append {start body : List Char} (starts : Starts start body) :
    components (String.ofList (start ++ body)) =
      (if start.isEmpty then [] else [start]) ++ solid (Text.fields '/' body) := by
  rw [components, String.toList_ofList, splitStart_append starts]

/-! ## Void components -/

theorem solid_dropWhile (cs : List (List Char)) : solid (cs.dropWhile isVoid) = solid cs := by
  induction cs with
  | nil => rfl
  | cons c cs ih => cases void : isVoid c <;> simp_all [solid]

theorem solid_dropVoidEnd (cs : List (List Char)) : solid (dropVoidEnd cs) = solid cs := by
  have behind := solid_dropWhile cs.reverse
  rw [dropVoidEnd, solid, List.filter_reverse, ← solid, behind, solid, List.filter_reverse,
    List.reverse_reverse, solid]

theorem solid_dropVoidEnds (cs : List (List Char)) : solid (dropVoidEnds cs) = solid cs := by
  rw [dropVoidEnds, solid_dropVoidEnd, solid_dropWhile]

theorem dropVoidEnd_part (cs : List (List Char)) : dropVoidEnd cs <+: cs := by
  have behind := List.reverse_prefix.mpr (List.dropWhile_suffix (l := cs.reverse) isVoid)
  rwa [List.reverse_reverse] at behind

/-- What is left ends in a component that says something. -/
theorem isVoid_last {cs front : List (List Char)} {last : List Char}
    (left : dropVoidEnd cs = front ++ [last]) : isVoid last = false := by
  have head : (cs.reverse.dropWhile isVoid).head? = some last := by
    have reversed := congrArg List.reverse left
    rw [dropVoidEnd, List.reverse_reverse, List.reverse_concat] at reversed
    rw [reversed]
    rfl
  have first := List.head?_dropWhile_not isVoid cs.reverse
  rw [head] at first
  simpa using first

/-! ## Joining -/

theorem notMem_of_mem_fields {sep : Char} {cs c : List Char} (mem : c ∈ Text.fields sep cs) :
    sep ∉ c := by
  generalize cut : Text.fields sep cs = fields at mem
  induction fields generalizing cs with
  | nil => cases mem
  | cons first others ih =>
      obtain ⟨free, ⟨-, rfl⟩ | ⟨rest, -, rest_⟩⟩ := Text.fields_eq_cons.mp cut
      · rwa [List.mem_singleton.mp mem]
      · rcases List.mem_cons.mp mem with rfl | mem
        · exact free
        · exact ih rest_ mem

theorem joinComponents_cons (c d : List Char) (cs : List (List Char)) :
    joinComponents (c :: d :: cs) = c ++ '/' :: joinComponents (d :: cs) := by
  simp [joinComponents, List.intercalate, List.intersperse]

theorem fields_joinComponents {c : List Char} {cs : List (List Char)}
    (free : ∀ d ∈ c :: cs, '/' ∉ d) : Text.fields '/' (joinComponents (c :: cs)) = c :: cs := by
  induction cs generalizing c with
  | nil =>
      have single : joinComponents [c] = c := by simp [joinComponents, List.intercalate]
      rw [single, Text.fields_of_notMem (free c List.mem_cons_self)]
  | cons d cs ih =>
      rw [joinComponents_cons, Text.fields_cons (free c List.mem_cons_self),
        ih fun e mem => free e (.tail c mem)]

theorem solid_joinComponents {cs : List (List Char)} (free : ∀ c ∈ cs, '/' ∉ c) :
    solid (Text.fields '/' (joinComponents cs)) = solid cs := by
  cases cs with
  | nil => rfl
  | cons c cs => rw [fields_joinComponents free]

/-! ## Below the home directory -/

theorem isAbsolute_append {start body : List Char} (starts : Starts start body) :
    isAbsolute (String.ofList (start ++ body)) = true ↔ start = ['/'] := by
  rw [isAbsolute, String.toList_ofList]
  cases starts with
  | root | dot | dotSlash => simp
  | plain first_ =>
      refine iff_of_false (fun absolute => ?_) (by simp)
      cases body with
      | nil => cases absolute
      | cons c body =>
          obtain rfl : c = '/' := by simpa using absolute
          cases first_ [] (Text.fields '/' body) rfl rfl

theorem starts_dropVoidEnds {cs : List (List Char)} (free : ∀ c ∈ cs, '/' ∉ c) :
    Starts [] (joinComponents (dropVoidEnds cs)) := by
  refine .plain fun first others cut void => ?_
  have part : dropVoidEnds cs <+: cs.dropWhile isVoid := dropVoidEnd_part _
  cases left : dropVoidEnds cs with
  | nil => rfl
  | cons c more =>
      rw [left] at part cut
      have free' : ∀ d ∈ c :: more, '/' ∉ d := fun d mem =>
        free d ((List.dropWhile_suffix _).subset (part.subset mem))
      rw [fields_joinComponents free'] at cut
      obtain ⟨rfl, rfl⟩ := List.cons.inj cut
      have head : (cs.dropWhile isVoid).head? = some c := by
        obtain ⟨rest, whole⟩ := part
        rw [← whole]
        rfl
      have solid_ := List.head?_dropWhile_not isVoid cs
      rw [head] at solid_
      simp [void] at solid_

/-- What stands below the home directory is what follows a first component `~`. -/
theorem belowHome?_eq_some {path rest : String} (below : belowHome? path = some rest) :
    components path = ['~'] :: components rest ∧ isAbsolute rest = false := by
  unfold belowHome? at below
  split at below
  · rename_i others cut
    cases below
    have free : ∀ c ∈ others, '/' ∉ c := fun c mem =>
      notMem_of_mem_fields (cut ▸ List.mem_cons_of_mem _ mem)
    have free' : ∀ c ∈ dropVoidEnds others, '/' ∉ c := fun c mem =>
      free c ((List.dropWhile_suffix _).subset ((dropVoidEnd_part _).subset mem))
    have starts : Starts [] path.toList := by
      refine .plain fun first others' cut' void => ?_
      cases cut.symm.trans cut'
      cases void
    have starts' := starts_dropVoidEnds free
    have whole := components_append starts
    have part := components_append starts'
    rw [List.nil_append, String.ofList_toList, cut] at whole
    rw [List.nil_append, solid_joinComponents free', solid_dropVoidEnds] at part
    refine ⟨by rw [whole, part]; rfl, ?_⟩
    simpa using isAbsolute_append starts'
  · cases below

theorem belowHome?_eq_none {path : String} (below : belowHome? path = none) :
    (components path).head? ≠ some ['~'] := by
  obtain ⟨start, body, starts, rfl⟩ := exists_starts path
  rw [components_append starts]
  cases starts with
  | root | dot | dotSlash => simp
  | plain first_ =>
      intro head
      cases cut : Text.fields '/' body with
      | nil => simp [cut, solid] at head
      | cons first others =>
          cases void : isVoid first with
          | true =>
              rw [first_ first others cut void] at head
              cases head
          | false =>
              have same : first = ['~'] := by simpa [cut, solid, void] using head
              rw [belowHome?, String.toList_ofList, List.nil_append, cut, same] at below
              cases below

example : belowHome? "~user/x" = none ∧ belowHome? "./~/x" = none ∧
    belowHome? "~//x/." = some "x" := by
  decide +kernel

/-! ## Directories -/

/-- A path without its last component is put together like the path. -/
theorem Starts.above {start body last : List Char} {front : List (List Char)}
    (starts : Starts start body) (ends : dropVoidEnd (Text.fields '/' body) = front ++ [last]) :
    Starts start (joinComponents (dropVoidEnd front)) := by
  have some_ : body ≠ [] := by
    rintro rfl
    have none_ : dropVoidEnd (Text.fields '/' []) = [] := rfl
    simp [none_] at ends
  have part : dropVoidEnd front <+: Text.fields '/' body :=
    (dropVoidEnd_part front).trans
      ((List.prefix_append front [last]).trans (ends ▸ dropVoidEnd_part _))
  cases starts with
  | root => exact .root _
  | dot => exact absurd rfl some_
  | dotSlash rest =>
      cases left : dropVoidEnd front with
      | nil => exact .dot
      | cons c more =>
          rw [left, Text.fields, if_pos rfl] at part
          obtain ⟨rfl, -⟩ := List.cons_prefix_cons.mp part
          cases more with
          | nil => cases isVoid_last (left.trans (List.nil_append _).symm)
          | cons d more =>
              rw [joinComponents_cons]
              exact .dotSlash _
  | plain first =>
      refine .plain fun c others cut void => ?_
      cases left : dropVoidEnd front with
      | nil => rfl
      | cons d more =>
          rw [left] at part cut
          have free : ∀ e ∈ d :: more, '/' ∉ e := fun e mem => notMem_of_mem_fields (part.subset mem)
          rw [fields_joinComponents free] at cut
          obtain ⟨rfl, rfl⟩ := List.cons.inj cut
          obtain ⟨rest, whole⟩ := part
          exact absurd (first d (more ++ rest) whole.symm void) some_

/-- The directory of a path has all its components but the last. -/
theorem components_parent? {path directory : String} (parent : parent? path = some directory) :
    components directory = (components path).dropLast := by
  obtain ⟨start, body, starts, rfl⟩ := exists_starts path
  rw [components_append starts, ← solid_dropVoidEnd]
  rw [parent?, String.toList_ofList, splitStart_append starts] at parent
  dsimp only at parent
  cases left : (dropVoidEnd (Text.fields '/' body)).reverse with
  | nil =>
      rw [List.reverse_eq_nil_iff.mp left]
      simp only [left] at parent
      split at parent
      · rename_i dot
        cases parent
        rw [dot]
        rfl
      · cases parent
  | cons last above =>
      simp only [left] at parent
      cases parent
      have ends : dropVoidEnd (Text.fields '/' body) = above.reverse ++ [last] := by
        rw [← List.reverse_cons, ← left, List.reverse_reverse]
      have free : ∀ c ∈ dropVoidEnd above.reverse, '/' ∉ c := fun c mem =>
        notMem_of_mem_fields ((dropVoidEnd_part _).subset
          (ends ▸ List.mem_append_left _ ((dropVoidEnd_part _).subset mem)))
      have solid_ : isVoid last = false := isVoid_last ends
      rw [components_append (starts.above ends), solid_joinComponents free, solid_dropVoidEnd, ends]
      simp [solid, solid_]

/-- A path that names something has a directory. -/
theorem parent?_isSome {path : String} (names : (fileName? path).isSome = true) :
    (parent? path).isSome = true := by
  obtain ⟨start, body, starts, rfl⟩ := exists_starts path
  rw [fileName?, String.toList_ofList, splitStart_append starts] at names
  rw [parent?, String.toList_ofList, splitStart_append starts]
  dsimp only at names ⊢
  cases left : (dropVoidEnd (Text.fields '/' body)).reverse with
  | nil => simp [List.reverse_eq_nil_iff.mp left] at names
  | cons last above => rfl

/-- Only the empty path and the root have no directory. -/
theorem parent?_eq_none {path : String} (parent : parent? path = none) :
    components path = [] ∨ components path = [['/']] := by
  obtain ⟨start, body, starts, rfl⟩ := exists_starts path
  rw [parent?, String.toList_ofList, splitStart_append starts] at parent
  rw [components_append starts, ← solid_dropVoidEnd]
  dsimp only at parent
  cases left : (dropVoidEnd (Text.fields '/' body)).reverse with
  | nil =>
      rw [List.reverse_eq_nil_iff.mp left]
      simp only [left] at parent
      cases starts with
      | root => exact .inr rfl
      | dot | dotSlash => cases parent
      | plain => exact .inl rfl
  | cons last above =>
      simp only [left] at parent
      cases parent

/-! ## Absolute paths -/

theorem head?_components {path : String} (absolute : isAbsolute path = true) :
    (components path).head? = some ['/'] := by
  obtain ⟨start, body, starts, rfl⟩ := exists_starts path
  obtain rfl := (isAbsolute_append starts).mp absolute
  rw [components_append starts]
  rfl

theorem isAbsolute_parent? {path directory : String} (absolute : isAbsolute path = true)
    (parent : parent? path = some directory) : isAbsolute directory = true := by
  obtain ⟨start, body, starts, rfl⟩ := exists_starts path
  obtain rfl := (isAbsolute_append starts).mp absolute
  rw [parent?, String.toList_ofList, splitStart_append starts] at parent
  dsimp only at parent
  split at parent
  · cases parent
    exact (isAbsolute_append (.root _)).mpr rfl
  · cases parent

theorem isAbsolute_join {base : String} (absolute : isAbsolute base = true) (path : String) :
    isAbsolute (join base path) = true := by
  have below (rest : String) : isAbsolute (base ++ rest) = true := by
    rw [isAbsolute, beq_iff_eq] at absolute ⊢
    rw [String.toList_append, List.head?_append, absolute]
    rfl
  unfold join
  split
  · rename_i alone
    have other : base.isEmpty = false := by
      cases empty : base.isEmpty with
      | false => rfl
      | true =>
          rw [String.isEmpty_iff.mp empty] at absolute
          cases absolute
    simpa [other] using alone
  · split
    · exact below path
    · exact String.append_assoc ▸ below ("/" ++ path)

end DebugAdapter.Path
