import DebugAdapter.Text.Blank
import Mathlib.Data.List.TakeWhile
/-!
# Parts of a text

Trimming leaves what stands between blanks, and the fields of a text are what stands between the
separators.
-/

namespace DebugAdapter.Text

/-! ## Blanks at the ends -/

/-- What stands between blanks is left if it has none at its own ends. -/
theorem trimChars_append {front inner back : List Char} (hfront : ∀ c ∈ front, isBlank c = true)
    (hback : ∀ c ∈ back, isBlank c = true) (first : ∀ c ∈ inner.head?, isBlank c = false)
    (last : ∀ c ∈ inner.getLast?, isBlank c = false) :
    trimChars (front ++ (inner ++ back)) = inner := by
  have stays (cs more : List Char) (visible : ∀ c ∈ cs.head?, isBlank c = false) (some_ : cs ≠ []) :
      (cs ++ more).dropWhile isBlank = cs ++ more := by
    cases cs with
    | nil => exact absurd rfl some_
    | cons c cs => rw [List.cons_append, List.dropWhile_cons_of_neg (by simp [visible c rfl])]
  rw [trimChars, List.dropWhile_append_of_pos hfront]
  cases inner with
  | nil =>
      rw [List.nil_append, List.dropWhile_eq_nil_iff.mpr hback]
      rfl
  | cons c cs =>
      have hback' : ∀ c ∈ back.reverse, isBlank c = true :=
        fun c member => hback c (List.mem_reverse.mp member)
      have last' : ∀ b ∈ (c :: cs).reverse.head?, isBlank b = false := by
        rwa [List.head?_reverse]
      have kept := stays (c :: cs).reverse [] last' (by simp)
      rw [List.append_nil] at kept
      rw [stays _ back first (List.cons_ne_nil c cs), List.reverse_append,
        List.dropWhile_append_of_pos hback', kept, List.reverse_reverse]

/-- A text with no blank at either end is not changed by trimming. -/
theorem trimChars_enclosed {a z : Char} (ha : isBlank a = false) (hz : isBlank z = false)
    (cs : List Char) : trimChars (a :: (cs ++ [z])) = a :: (cs ++ [z]) := by
  have first : ∀ c ∈ (a :: (cs ++ [z])).head?, isBlank c = false := by
    rintro c ⟨⟩
    exact ha
  have last : ∀ c ∈ (a :: (cs ++ [z])).getLast?, isBlank c = false := by
    rw [← List.cons_append, List.getLast?_concat]
    rintro c ⟨⟩
    exact hz
  have trimmed := trimChars_append (List.forall_mem_nil _) (List.forall_mem_nil _) first last
  rwa [List.append_nil, List.nil_append] at trimmed

/-- A blank before characters none of which is blank is trimmed away. -/
theorem trimChars_blank_cons {b : Char} (blank : isBlank b = true) {cs : List Char}
    (visible : ∀ c ∈ cs, isBlank c = false) : trimChars (b :: cs) = cs := by
  have trimmed := trimChars_append (List.forall_mem_singleton.mpr blank) (List.forall_mem_nil _)
    (fun c first => visible c (List.mem_of_mem_head? first))
    (fun c last => visible c (List.mem_of_getLast? last))
  rwa [List.append_nil] at trimmed

theorem trimChars_eq_nil (cs : List Char) : trimChars cs = [] ↔ cs.all isBlank := by
  rw [trimChars, List.reverse_eq_nil_iff, List.dropWhile_eq_nil_iff, List.all_eq_true]
  constructor
  · intro blank c mem
    rw [← List.takeWhile_append_dropWhile (p := isBlank) (l := cs)] at mem
    cases List.mem_append.mp mem with
    | inl front => exact (List.mem_takeWhile_imp front)
    | inr back => exact blank c (List.mem_reverse.mpr back)
  · intro blank c mem
    exact blank c ((List.dropWhile_suffix _).subset (List.mem_reverse.mp mem))

/-- A text is what trimming leaves, between blanks. -/
theorem exists_trimChars (cs : List Char) :
    ∃ front back, cs = front ++ (trimChars cs ++ back) ∧ (∀ c ∈ front, isBlank c = true) ∧
      ∀ c ∈ back, isBlank c = true := by
  refine ⟨cs.takeWhile isBlank, ((cs.dropWhile isBlank).reverse.takeWhile isBlank).reverse, ?_,
    fun c => List.mem_takeWhile_imp,
    fun c member => List.mem_takeWhile_imp (List.mem_reverse.mp member)⟩
  rw [trimChars, ← List.reverse_append, List.takeWhile_append_dropWhile, List.reverse_reverse,
    List.takeWhile_append_dropWhile]

/-! ## The start of a text -/

theorem afterStart?_eq_some {start s rest : String} :
    afterStart? start s = some rest ↔ s = start ++ rest := by
  unfold afterStart?
  split
  · rename_i front
    obtain ⟨more, whole⟩ := List.isPrefixOf_iff_prefix.mp front
    rw [Option.some.injEq, ← whole, List.drop_left, ← String.toList_inj, ← String.toList_inj,
      String.toList_append, String.toList_ofList, ← whole, List.append_cancel_left_eq]
  · rename_i other
    refine iff_of_false nofun ?_
    rintro rfl
    rw [String.toList_append] at other
    apply other
    exact List.isPrefixOf_iff_prefix.mpr (List.prefix_append ..)

/-- What a text starts with stands before the first separator if it holds none. -/
theorem isPrefix_of_notMem {sep : Char} {start front rest : List Char} (free : sep ∉ start)
    (isPrefix : start <+: front ++ sep :: rest) : start <+: front := by
  obtain longer | ⟨more, rfl⟩ :=
    List.prefix_or_prefix_of_prefix isPrefix (List.prefix_append front _)
  · exact longer
  · rw [List.prefix_append_right_inj] at isPrefix
    cases more with
    | nil => simp
    | cons c more =>
        obtain rfl := (List.cons_prefix_cons.mp isPrefix).1
        exact absurd (List.mem_append_right front List.mem_cons_self) free

/-! ## Fields -/

section

variable {sep : Char}

theorem fields_of_notMem {cs : List Char} (free : sep ∉ cs) : fields sep cs = [cs] := by
  induction cs with
  | nil => rfl
  | cons c cs ih =>
      have other : c ≠ sep := fun same => free (same ▸ List.mem_cons_self)
      rw [fields, if_neg other, ih fun member => free (List.mem_cons_of_mem c member)]

/-- The first separator ends the first field. -/
theorem fields_cons {first : List Char} (free : sep ∉ first) (rest : List Char) :
    fields sep (first ++ sep :: rest) = first :: fields sep rest := by
  induction first with
  | nil => rw [List.nil_append, fields, if_pos rfl]
  | cons c first ih =>
      have other : c ≠ sep := fun same => free (same ▸ List.mem_cons_self)
      rw [List.cons_append, fields, if_neg other,
        ih fun member => free (List.mem_cons_of_mem c member)]

theorem fields_eq_cons {cs first : List Char} {others : List (List Char)} :
    fields sep cs = first :: others ↔
      sep ∉ first ∧ (cs = first ∧ others = [] ∨
        ∃ rest, cs = first ++ sep :: rest ∧ fields sep rest = others) := by
  constructor
  · intro cut
    by_cases member : sep ∈ cs
    · obtain ⟨front, rest, rfl, free⟩ := List.eq_append_cons_of_mem member
      rw [fields_cons free] at cut
      obtain ⟨rfl, rfl⟩ := List.cons.inj cut
      exact ⟨free, .inr ⟨rest, rfl, rfl⟩⟩
    · rw [fields_of_notMem member] at cut
      obtain ⟨rfl, rfl⟩ := List.cons.inj cut
      exact ⟨member, .inl ⟨rfl, rfl⟩⟩
  · rintro ⟨free, ⟨rfl, rfl⟩ | ⟨rest, rfl, rfl⟩⟩
    · exact fields_of_notMem free
    · exact fields_cons free rest

end

end DebugAdapter.Text
