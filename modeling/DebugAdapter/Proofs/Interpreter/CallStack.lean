import DebugAdapter.Interpreter.CallStack
import DebugAdapter.Proofs.Text.Integer
/-!
# The grammar of frames

Which texts are frames, and which: a phase by how it starts, any other frame by its fields. So what
is written as a function's frame is read back, and of a call stack exactly the texts that are frames
are kept.
-/

namespace DebugAdapter.Interpreter

open Text (IsField IntegerRange)

/-- A text and the frame that it is. A text that starts as a phase does is one, whatever follows;
any other text is a function's frame if it has four fields or more, and integers of 64 bits for the
third and the fourth. -/
inductive IsFrame : String → CallFrame → Prop
  | state (name : String) : IsFrame ("State: " ++ name) (.state name)
  | source {s name file : String} {third fourth more : List Char} {offset line : Int}
      (unmarked : ∀ phase, s ≠ "State: " ++ phase)
      (cut : s.toList =
        name.toList ++ ';' :: (file.toList ++ ';' :: (third ++ ';' :: (fourth ++ more))))
      (free : ∀ field ∈ [name.toList, file.toList, third, fourth], ';' ∉ field)
      (ends : more = [] ∨ ∃ others, more = ';' :: others)
      (offsetField : IsField .signed64 third offset) (lineField : IsField .signed64 fourth line) :
      IsFrame s (.source name file offset line)

/-- The frames among some texts, in order; a text that is no frame is left out. -/
inductive Keeps : List String → List CallFrame → Prop
  | nil : Keeps [] []
  | keep {s : String} {texts : List String} {f : CallFrame} {frames : List CallFrame}
      (frame : IsFrame s f) (others : Keeps texts frames) : Keeps (s :: texts) (f :: frames)
  | skip {s : String} {texts : List String} {frames : List CallFrame}
      (none_ : ∀ f, ¬ IsFrame s f) (others : Keeps texts frames) : Keeps (s :: texts) frames

namespace CallFrame

/-! ## Fields -/

theorem readField_eq_ok {cs : List Char} {n : Int} :
    readField cs = .ok n ↔ IsField .signed64 cs n :=
  Text.readInteger_trimChars (by decide) (by decide)

/-- The first four fields and what follows them. -/
theorem fields_four {cs name file third fourth : List Char} :
    (∃ others, Text.fields ';' cs = name :: file :: third :: fourth :: others) ↔
      (∃ more, cs = name ++ ';' :: (file ++ ';' :: (third ++ ';' :: (fourth ++ more))) ∧
        (more = [] ∨ ∃ others, more = ';' :: others)) ∧
      ∀ field ∈ [name, file, third, fourth], ';' ∉ field := by
  simp only [List.forall_mem_cons, List.not_mem_nil, false_implies, implies_true, and_true]
  constructor
  · rintro ⟨others, fields⟩
    obtain ⟨hname, ⟨-, ⟨⟩⟩ | ⟨rest, rfl, behindName⟩⟩ := Text.fields_eq_cons.mp fields
    obtain ⟨hfile, ⟨-, ⟨⟩⟩ | ⟨rest, rfl, behindFile⟩⟩ := Text.fields_eq_cons.mp behindName
    obtain ⟨hthird, ⟨-, ⟨⟩⟩ | ⟨rest, rfl, behindThird⟩⟩ := Text.fields_eq_cons.mp behindFile
    obtain ⟨hfourth, ⟨rfl, -⟩ | ⟨rest, rfl, -⟩⟩ := Text.fields_eq_cons.mp behindThird
    · exact ⟨⟨[], by rw [List.append_nil], .inl rfl⟩, hname, hfile, hthird, hfourth⟩
    · exact ⟨⟨_, rfl, .inr ⟨rest, rfl⟩⟩, hname, hfile, hthird, hfourth⟩
  · rintro ⟨⟨more, rfl, ends⟩, hname, hfile, hthird, hfourth⟩
    rw [Text.fields_cons hname, Text.fields_cons hfile, Text.fields_cons hthird]
    obtain rfl | ⟨others, rfl⟩ := ends
    · rw [List.append_nil, Text.fields_of_notMem hfourth]
      exact ⟨[], rfl⟩
    · rw [Text.fields_cons hfourth]
      exact ⟨Text.fields ';' others, rfl⟩

theorem ofFields_eq_ok {fs : List (List Char)} {f : CallFrame} :
    ofFields fs = .ok f ↔ ∃ name file third fourth others offset line,
      fs = name :: file :: third :: fourth :: others ∧ IsField .signed64 third offset ∧
        IsField .signed64 fourth line ∧
        f = source (String.ofList name) (String.ofList file) offset line := by
  constructor
  · intro read
    match fs, read with
    | name :: file :: third :: fourth :: others, read =>
      cases hoffset : readField third with
      | error flaw => simp [ofFields, hoffset, Except.mapError, bind, Except.bind] at read
      | ok offset =>
          cases hline : readField fourth with
          | error flaw =>
              simp [ofFields, hoffset, hline, Except.mapError, bind, Except.bind] at read
          | ok line =>
              simp only [ofFields, hoffset, hline, Except.mapError, bind, Except.bind] at read
              cases read
              exact ⟨name, file, third, fourth, others, offset, line, rfl,
                readField_eq_ok.mp hoffset, readField_eq_ok.mp hline, rfl⟩
  · rintro ⟨name, file, third, fourth, others, offset, line, rfl, hoffset, hline, rfl⟩
    rw [← readField_eq_ok] at hoffset hline
    simp only [ofFields, hoffset, hline, Except.mapError, bind, Except.bind]
    rfl

/-! ## Texts -/

/-- Exactly the frames are read, each as the frame that it is. -/
theorem ofText_eq_ok {s : String} {f : CallFrame} : ofText s = .ok f ↔ IsFrame s f := by
  cases start : Text.afterStart? stateMark s with
  | some name =>
      obtain rfl := Text.afterStart?_eq_some.mp start
      have read : ofText (stateMark ++ name) = .ok (state name) := by rw [ofText, start]
      rw [read, Except.ok.injEq]
      constructor
      · rintro rfl
        exact .state name
      · intro frame
        generalize text : stateMark ++ name = s at frame
        cases frame with
        | state name' =>
            rw [← String.toList_inj, String.toList_append, String.toList_append] at text
            rw [String.toList_inj.mp (List.append_cancel_left text)]
        | source unmarked => exact absurd text.symm (unmarked name)
  | none =>
      have unmarked : ∀ phase, s ≠ "State: " ++ phase := by
        intro phase (text : s = stateMark ++ phase)
        rw [Text.afterStart?_eq_some.mpr text] at start
        cases start
      have read : ofText s = ofFields (Text.fields ';' s.toList) := by rw [ofText, start]
      rw [read, ofFields_eq_ok]
      constructor
      · rintro ⟨name, file, third, fourth, others, offset, line, fields, hoffset, hline, rfl⟩
        obtain ⟨⟨more, cut, ends⟩, free⟩ := fields_four.mp ⟨others, fields⟩
        rw [← @String.toList_ofList name, ← @String.toList_ofList file] at cut free
        exact .source unmarked cut free ends hoffset hline
      · intro frame
        cases frame with
        | state name => exact absurd rfl (unmarked name)
        | @source _ name file third fourth more offset line _ cut free ends hoffset hline =>
            obtain ⟨others, fields⟩ := fields_four.mpr ⟨⟨more, cut, ends⟩, free⟩
            exact ⟨_, _, third, fourth, others, offset, line, fields, hoffset, hline,
              by rw [String.ofList_toList, String.ofList_toList]⟩

theorem isField_toString {n : Int} (holds : IntegerRange.signed64.holds n = true) :
    IsField .signed64 (toString n).toList n :=
  ⟨[], _, [], (List.append_nil _).symm, List.forall_mem_nil _, List.forall_mem_nil _,
    Text.isNumeral_toString n, holds⟩

/-- No separator stands in a printed integer. -/
theorem notMem_toString (n : Int) : ';' ∉ (toString n).toList := by
  intro member
  have all := (Text.isNumeral_toString n).isDigit_or_sign ';' member
  exact absurd all (by decide)

/-- A written frame of a function is that frame, unless it starts as a phase does. -/
theorem isFrame_text {name file : String} {offset line : Int} (hname : ';' ∉ name.toList)
    (hfile : ';' ∉ file.toList) (unmarked : ∀ rest, name ≠ "State: " ++ rest)
    (hoffset : IntegerRange.signed64.holds offset = true)
    (hline : IntegerRange.signed64.holds line = true) :
    IsFrame (source name file offset line).text (source name file offset line) := by
  have cut : (source name file offset line).text.toList =
      name.toList ++ ';' :: (file.toList ++ ';' ::
        ((toString offset).toList ++ ';' :: ((toString line).toList ++ []))) := by
    simp [text]
  refine .source ?_ cut ?_ (.inl rfl) (isField_toString hoffset) (isField_toString hline)
  · intro phase marked
    rw [marked, String.toList_append] at cut
    -- No separator stands in the mark, so it stands before the first one.
    obtain ⟨rest, whole⟩ := Text.isPrefix_of_notMem (by decide) ⟨phase.toList, cut⟩
    refine unmarked (String.ofList rest) ?_
    rw [← String.toList_inj, String.toList_append, @String.toList_ofList rest]
    exact whole.symm
  · simp only [List.forall_mem_cons, List.not_mem_nil, false_implies, implies_true, and_true]
    exact ⟨hname, hfile, notMem_toString offset, notMem_toString line⟩

end CallFrame

theorem keeps_parseCallStack (texts : List String) : Keeps texts (parseCallStack texts) := by
  induction texts with
  | nil => exact .nil
  | cons s texts ih =>
      rw [parseCallStack, List.filterMap_cons]
      cases read : CallFrame.ofText s with
      | ok f => exact .keep (CallFrame.ofText_eq_ok.mp read) ih
      | error flaw =>
          refine .skip (fun f frame => ?_) ih
          rw [CallFrame.ofText_eq_ok.mpr frame] at read
          cases read

/-- A text is read as a frame exactly if it is one, and as that one; otherwise it is refused. So a
frame of a function comes back from its four parts, whatever its name, its file and its numbers are,
and a call stack keeps exactly the texts that are frames, in order. -/
theorem frames_by_grammar :
    (∀ s f, CallFrame.ofText s = .ok f ↔ IsFrame s f) ∧
      (∀ s, (∃ flaw, CallFrame.ofText s = .error flaw) ↔ ∀ f, ¬ IsFrame s f) ∧
      (∀ name file offset line, ';' ∉ name.toList → ';' ∉ file.toList →
        (∀ rest, name ≠ "State: " ++ rest) → IntegerRange.signed64.holds offset = true →
        IntegerRange.signed64.holds line = true →
        CallFrame.ofText (name ++ ";" ++ file ++ ";" ++ toString offset ++ ";" ++ toString line) =
          .ok (.source name file offset line)) ∧
      ∀ texts, Keeps texts (parseCallStack texts) := by
  refine ⟨fun s f => CallFrame.ofText_eq_ok, fun s => ?_, ?_, keeps_parseCallStack⟩
  · simp only [← CallFrame.ofText_eq_ok]
    cases CallFrame.ofText s <;> simp
  · intro name file offset line hname hfile unmarked hoffset hline
    exact CallFrame.ofText_eq_ok.mpr
      (CallFrame.isFrame_text hname hfile unmarked hoffset hline)

/-- No name, a file with blanks, and the least and the greatest number. -/
theorem frames_by_grammar_extremes :
    CallFrame.ofText ("" ++ ";" ++ " a b " ++ ";" ++ toString (-9223372036854775808 : Int) ++
        ";" ++ toString (9223372036854775807 : Int)) =
      .ok (.source "" " a b " (-9223372036854775808) 9223372036854775807) :=
  frames_by_grammar.2.2.1 "" " a b " (-9223372036854775808) 9223372036854775807 (by decide)
    (by decide) (fun rest same => by simpa using congrArg String.toList same) (by decide)
    (by decide)

end DebugAdapter.Interpreter
