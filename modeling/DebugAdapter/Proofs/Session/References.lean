import Mathlib.Data.List.Forall2
import Mathlib.Data.List.Nodup
import DebugAdapter.Proofs.Session.Delivery
import DebugAdapter.Proofs.Text.Integer
/-!
# References

The numbers that the editor is given for scopes, lists and texts are looked up until the program
stops again. The history of a session says which numbers have been handed out since the last stop and
what for; the table of handles agrees with it, so that a number leads back to what it was handed out
for, and any other number to nothing.
-/

namespace DebugAdapter

open Protocol

namespace Session

/-! ## What has been handed out -/

/-- A number that has been handed out, and what for. -/
abbrev Issue := Int × Container

/-- The number that a decimal text stands for. -/
def decimal (text : String) : Int := (Nat.ofDigitChars 10 text.toList 0 : Nat)

/-- The numbers in a variable as it is shown. -/
def references (v : Protocol.Variable) : List Int :=
  (if v.variablesReference = 0 then [] else [v.variablesReference]) ++
    v.memoryReference.toList.map decimal

/-- The variables under a number, if these numbers have been handed out. -/
def shownUnder (c : Control) (issued : List Issue) (n : Int) : List Program.Variable :=
  Handler.contents c (issued.lookup n)

/-- The numbers that a response to a request hands out. -/
def issuesIn (c : Control) (issued : List Issue) (r : Request) (response : Response) : List Issue :=
  match r.parse, response.body with
  | .ok (.scopes _), some (.scopes ss) =>
    (ss.map (·.variablesReference)).zip [.locals, .parameters, .globals]
  | .ok (.variables args), some (.variables vs) =>
    ((shownUnder c issued args.variablesReference).zip vs).flatMap fun (x, v) =>
      (references v).map fun n => (n, .variable_ x)
  | _, _ => []

/-- Whether the editor is told that the program stopped. -/
def stops (s : Session) : Happening → Bool
  | .activity _ .notice =>
    !s.concluded &&
      match s.handler.control.notices with
      | .stopped _ :: _ => true
      | _ => false
  | _ => false

/-- The numbers that have been handed out since the last stop, when one more thing has happened. -/
def issuedAfter (issued : List Issue) (e : Session × Happening) : List Issue :=
  if e.1.stops e.2 then []
  else
    match e.1.handled? e.2 with
    | some r => issued ++ (responses (e.1.produced e.2)).flatMap (issuesIn e.1.control issued r)
    | none => issued

/-- The numbers that have been handed out since the last stop. -/
def issuedBy (t : Trace Session (Session × Happening)) : List Issue := t.entries.foldl issuedAfter []

/-! ## Numbers in order -/

/-- Things with the numbers that are handed out for them one after the other, from `n` on. -/
def labelled (n : Nat) (cs : List Container) : List Issue := (cs.zipIdx n).map fun (c, k) => (k, c)

theorem labelled_cons (n : Nat) (c : Container) (cs : List Container) :
    labelled n (c :: cs) = (↑n, c) :: labelled (n + 1) cs := rfl

theorem labelled_append (n : Nat) (cs cs' : List Container) :
    labelled n (cs ++ cs') = labelled n cs ++ labelled (n + cs.length) cs' := by
  rw [labelled, List.zipIdx_append, List.map_append]
  rfl

theorem labelled_numbers (n : Nat) (cs : List Container) :
    (labelled n cs).map Prod.fst = (List.range' n cs.length).map Int.ofNat := by
  induction cs generalizing n with
  | nil => rfl
  | cons c cs ih =>
      rw [labelled_cons, List.map_cons, ih, List.length_cons, List.range'_succ, List.map_cons]
      rfl

theorem lookup_labelled (n : Nat) (cs : List Container) (k : Int) :
    (labelled n cs).lookup k = if (n : Int) ≤ k then cs[(k - n).toNat]? else none := by
  induction cs generalizing n with
  | nil => simp [labelled]
  | cons c cs ih =>
      rw [labelled_cons, List.lookup_cons, ih]
      by_cases here : k = n
      · simp [here]
      · rw [beq_false_of_ne here]
        by_cases above : (n : Int) ≤ k
        · have further : ((n + 1 : Nat) : Int) ≤ k := by omega
          have place : (k - n).toNat = (k - (n + 1 : Nat)).toNat + 1 := by omega
          rw [if_pos above, if_pos further, place, List.getElem?_cons_succ]
        · have below : ¬ ((n + 1 : Nat) : Int) ≤ k := by omega
          rw [if_neg above, if_neg below]

theorem labelled_nodup (n : Nat) (cs : List Container) : ((labelled n cs).map Prod.fst).Nodup := by
  rw [labelled_numbers]
  exact List.Nodup.map (fun _ _ => Int.ofNat.inj) List.nodup_range'

/-! ## The table of handles -/

/-- Whether a thing in the table is what a number was handed out for; the octets of a text may have
been laid out since. -/
inductive Stands : Container → Container → Prop where
  | scope {c : Container} (scope : ∀ x, c ≠ .variable_ x) : Stands c c
  | fresh {x : Program.Variable} (fresh : x.octets = none) : Stands (.variable_ x) (.variable_ x)
  | laidOut {x : Program.Variable} (fresh : x.octets = none) :
      Stands (.variable_ x) (.variable_ x.layOut)

theorem layOut_children (x : Program.Variable) : x.layOut.children = x.children := by
  unfold Program.Variable.layOut
  split <;> rfl

theorem layOut_layOut (x : Program.Variable) : x.layOut.layOut = x.layOut := by
  obtain ⟨name, value, octets⟩ := x
  cases octets <;> cases value <;> rfl

theorem Stands.contents {c c' : Container} (stands : Stands c c') (control : Control) :
    Handler.contents control (some c') = Handler.contents control (some c) := by
  cases stands with
  | scope | fresh => rfl
  | laidOut => exact layOut_children _

/-- Laying out octets does not change what a thing stands for. -/
theorem Stands.layOut {x x' : Program.Variable} (stands : Stands (.variable_ x) (.variable_ x')) :
    Stands (.variable_ x) (.variable_ x'.layOut) := by
  cases stands with
  | scope scope => exact absurd rfl (scope _)
  | fresh fresh => exact .laidOut fresh
  | laidOut fresh =>
      rw [layOut_layOut]
      exact .laidOut fresh

/-- The octets of a variable are those of its text. -/
theorem Stands.memory {x x' : Program.Variable} (stands : Stands (.variable_ x) (.variable_ x')) :
    x'.memory.1 =
      match x.value with
      | .string s => some (Utf8.encode s)
      | _ => none := by
  have laidOut {x : Program.Variable} (fresh : x.octets = none) : x.memory.1 =
      match x.value with
      | .string s => some (Utf8.encode s)
      | _ => none := by
    obtain ⟨name, value, octets⟩ := x
    cases fresh
    cases value <;> rfl
  cases stands with
  | scope scope => exact absurd rfl (scope _)
  | fresh fresh => exact laidOut fresh
  | laidOut fresh =>
      rw [Program.Variable.memory, layOut_layOut]
      exact laidOut fresh

/-- Whether the table agrees with what has been handed out. -/
def Tracks (issued : List Issue) (handles : Handles Container) : Prop :=
  ∃ subjects, issued = labelled firstHandle subjects ∧ List.Forall₂ Stands subjects handles.items

theorem tracks_nothing : Tracks [] {} := ⟨[], rfl, .nil⟩

theorem rel_getElem? {R : Container → Container → Prop} {cs cs' : List Container}
    (related : List.Forall₂ R cs cs') (i : Nat) : Option.Rel R cs[i]? cs'[i]? := by
  induction related generalizing i with
  | nil => exact .none
  | cons here _ ih =>
      cases i with
      | zero => exact .some here
      | succ i => exact ih i

theorem forall₂_set {R : Container → Container → Prop} {cs cs' : List Container} {c : Container}
    (related : List.Forall₂ R cs cs') {i : Nat} (here : ∀ a, cs[i]? = some a → R a c) :
    List.Forall₂ R cs (cs'.set i c) := by
  induction related generalizing i with
  | nil => exact .nil
  | cons first rest ih =>
      cases i with
      | zero => exact .cons (here _ rfl) rest
      | succ i => exact .cons first (ih here)

variable {issued : List Issue} {handles : Handles Container}

/-- What a number leads to. -/
theorem Tracks.get? (tracks : Tracks issued handles) (n : Int) :
    Option.Rel Stands (issued.lookup n) (handles.get? n) := by
  obtain ⟨subjects, rfl, stands⟩ := tracks
  rw [lookup_labelled, Handles.get?, Handles.place?]
  split
  · exact rel_getElem? stands _
  · exact .none

/-- More things get numbers. -/
theorem Tracks.append (tracks : Tracks issued handles) {subjects : List Container}
    {handles' : Handles Container} (items : handles'.items = handles.items ++ subjects)
    (fresh : List.Forall₂ Stands subjects subjects) :
    Tracks (issued ++ labelled handles.next subjects) handles' := by
  obtain ⟨before, rfl, stands⟩ := tracks
  refine ⟨before ++ subjects, ?_, ?_⟩
  · rw [labelled_append, stands.length_eq]
    rfl
  · rw [items]
    exact List.rel_append stands fresh

/-- A thing in the table is replaced by one that stands for the same. -/
theorem Tracks.set (tracks : Tracks issued handles) {n : Int} {c : Container}
    (same : ∀ subject, issued.lookup n = some subject → Stands subject c) :
    Tracks issued (handles.set n c) := by
  obtain ⟨subjects, rfl, stands⟩ := tracks
  refine ⟨subjects, rfl, ?_⟩
  rw [lookup_labelled] at same
  unfold Handles.set Handles.place?
  by_cases large : (firstHandle : Int) ≤ n
  · rw [if_pos large] at same ⊢
    exact forall₂_set stands same
  · rw [if_neg large]
    exact stands

/-! ## Variables as they are shown -/

/-- Whether a variable is a text. -/
def isText (x : Program.Variable) : Bool :=
  match x.value with
  | .string _ => true
  | _ => false

/-- How a variable is shown: a list has a number under which its items are, a text one under which
its octets are. -/
structure Shows (hex : Bool) (x : Program.Variable) (v : Protocol.Variable) : Prop where
  name : v.name = x.name
  value : v.value = (Handler.shownValue hex x.value).1
  type : v.type = some (Handler.shownValue hex x.value).2
  expandable : v.variablesReference ≠ 0 ↔ Handler.isExpandable x = true
  memory : v.memoryReference.isSome = isText x
  digits : ∀ text, v.memoryReference = some text → ∃ n : Nat, text = toString n

theorem decimal_toString (n : Nat) : decimal (toString n) = n := by
  have digits : (toString n).toList = Nat.toDigits 10 n := String.toList_ofList
  rw [decimal, digits, Nat.ofDigitChars_toDigits (by decide) (by decide)]

/-- A variable is shown: it gets one number if it is a list or a text, and none otherwise. -/
theorem showVariable_fresh (hex : Bool) (handles : Handles Container) {x : Program.Variable}
    (fresh : x.octets = none) :
    Shows hex x (Handler.showVariable hex handles x).1 ∧ ∃ subjects,
      (Handler.showVariable hex handles x).2.items = handles.items ++ subjects ∧
      List.Forall₂ Stands subjects subjects ∧
      (references (Handler.showVariable hex handles x).1).map (fun n => (n, .variable_ x)) =
        labelled handles.next subjects := by
  obtain ⟨name, value, octets⟩ := x
  cases fresh
  have positive : handles.next ≠ 0 := Nat.ne_of_gt (Nat.add_pos_left (by decide) _)
  have stands (value : Program.Value) : List.Forall₂ Stands
      [.variable_ { name, value }] [.variable_ { name, value }] := .cons (.fresh rfl) .nil
  cases value with
  | list items =>
      refine ⟨⟨rfl, rfl, rfl, iff_of_true (Int.natCast_ne_zero.mpr positive) rfl, rfl, nofun⟩, [_],
        rfl, stands _, ?_⟩
      have shown : references (Handler.showVariable hex handles { name, value := .list items }).1 =
          [(handles.next : Int)] := by
        simp [references, Handler.showVariable, Handler.isExpandable, Program.Variable.hasMemory,
          Handles.create, positive]
      rw [shown]
      rfl
  | string text =>
      refine ⟨⟨rfl, rfl, rfl, iff_of_false (not_not_intro rfl) nofun, rfl, ?_⟩, [_], rfl, stands _, ?_⟩
      · rintro _ ⟨⟩
        exact ⟨_, rfl⟩
      · have shown : references (Handler.showVariable hex handles { name, value := .string text }).1 =
            [(handles.next : Int)] := congrArg (fun n => [n]) (decimal_toString _)
        rw [shown]
        rfl
  | integer | float | boolean =>
      exact ⟨⟨rfl, rfl, rfl, iff_of_false (not_not_intro rfl) nofun, rfl, nofun⟩, [],
        (List.append_nil _).symm, .nil, rfl⟩

/-- Variables are shown in order, and get numbers one after the other. -/
theorem showVariables_fresh (hex : Bool) (xs : List Program.Variable) (handles : Handles Container)
    (fresh : ∀ x ∈ xs, x.octets = none) :
    List.Forall₂ (Shows hex) xs (Handler.showVariables hex handles xs).1 ∧ ∃ subjects,
      (Handler.showVariables hex handles xs).2.items = handles.items ++ subjects ∧
      List.Forall₂ Stands subjects subjects ∧
      ((xs.zip (Handler.showVariables hex handles xs).1).flatMap fun (x, v) =>
        (references v).map fun n => (n, .variable_ x)) = labelled handles.next subjects := by
  induction xs generalizing handles with
  | nil => exact ⟨.nil, [], (List.append_nil _).symm, .nil, rfl⟩
  | cons x xs ih =>
      obtain ⟨shows, subjects, items, stands, issues⟩ :=
        showVariable_fresh hex handles (fresh x List.mem_cons_self)
      obtain ⟨others, subjects', items', stands', issues'⟩ :=
        ih (Handler.showVariable hex handles x).2 fun x member => fresh x (List.mem_cons_of_mem _ member)
      refine ⟨.cons shows others, subjects ++ subjects', ?_, List.rel_append stands stands', ?_⟩
      · rw [← List.append_assoc, ← items]
        exact items'
      · -- The numbers of the others begin where those of the first one end.
        have later : (Handler.showVariable hex handles x).2.next = handles.next + subjects.length := by
          rw [Handles.next, items, List.length_append, ← Nat.add_assoc]
          rfl
        rw [labelled_append, ← later, ← issues, ← issues']
        rfl

theorem contents_fresh (c : Control) (container : Option Container) :
    ∀ x ∈ Handler.contents c container, x.octets = none := by
  have tagged (nameOf : Interpreter.Tag → Option String) :
      ∀ x ∈ (c.snapshot?.map (·.taggedVariables nameOf)).getD [], x.octets = none := by
    intro x member
    cases snapshot : c.snapshot? with
    | none => simp [snapshot] at member
    | some s =>
        rw [snapshot] at member
        obtain ⟨item, -, found⟩ := List.mem_filterMap.mp member
        simp only [Option.bind_eq_bind, Option.bind_eq_some_iff] at found
        obtain ⟨tag, -, name, -, same⟩ := found
        cases same
        rfl
  intro x member
  cases container with
  | none => cases member
  | some container =>
      cases container with
      | globals => cases member
      | locals | parameters => exact tagged _ x member
      | variable_ parent =>
          simp only [Handler.contents, Program.Variable.children] at member
          split at member
          · obtain ⟨item, -, rfl⟩ := List.mem_map.mp member
            rfl
          · cases member

/-! ## Handling requests -/

namespace Handler

@[simp] theorem send_handles (h : Handler) (m : Outgoing) : (h.send m).handles = h.handles := by
  unfold send
  split <;> rfl

/-- Whether a command has to do with handles. -/
def concernsHandles : Command → Bool
  | .scopes _ | .variables _ | .readMemory _ => true
  | _ => false

theorem handles_carryOut (h : Handler) (now : Millis) (r : Request) {command : Command}
    (other : concernsHandles command = false) : (h.carryOut now r command).handles = h.handles := by
  have kept {h' : Handler} {m : Outgoing} (same : h'.handles = h.handles) :
      (h'.send m).handles = h.handles := (send_handles _ _).trans same
  cases command with
  | scopes | «variables» | readMemory => cases other
  | launch | attach => rfl
  | handshake args => exact kept (send_handles _ _)
  | setBreakpoints args =>
      simp only [carryOut, setBreakpoints]
      split <;> exact kept rfl
  | disconnect args =>
      refine kept ?_
      split <;> rfl
  | toggleFormatting =>
      refine kept ?_
      split
      · exact send_handles _ _
      · rfl
  | configurationDone | terminate | setFunctionBreakpoints | setExceptionBreakpoints
  | breakpointLocations | setDataBreakpoints | dataBreakpointInfo | setInstructionBreakpoints
  | exceptionInfo | threads | stackTrace | continue_ | next | evaluate | setExpression | completions
  | cancel | unknown => exact kept rfl

theorem handles_resume (h : Handler) (i : Nat) (p : PendingLaunch) :
    (h.resume i p).handles = h.handles := by
  unfold resume
  split
  · exact send_handles _ _
  · split
    · exact send_handles _ _
    · rfl

/-- The scopes get three numbers, one after the other. -/
theorem produces_scopes (h : Handler) (r : Request) :
    ∃ ss, Produces (fun h => h.scopes r) h [.response (.ok r (.scopes ss))] ∧
      ss.map (·.name) = ["Locals", "Parameters", "Globals"] ∧
      (ss.map (·.variablesReference)).zip [.locals, .parameters, .globals] =
        labelled h.handles.next [.locals, .parameters, .globals] ∧
      (h.scopes r).handles.items = h.handles.items ++ [.locals, .parameters, .globals] := by
  refine ⟨_, produces_send (f := fun h => h.scopes r) (fun _ => by rfl) (fun _ => by rfl)
    (fun _ => by rfl) (fun _ => by rfl), rfl, ?_, ?_⟩
  · simp [labelled, List.zipIdx, Handles.next, Nat.add_assoc]
  · exact (congrArg Handles.items (send_handles _ _)).trans (by simp)

theorem produces_variables (h : Handler) (r : Request) (args : Variables) :
    Produces (fun h => h.listVariables r args) h [.response (.ok r (.variables (showVariables h.hex
      h.handles (contents h.control (h.handles.get? args.variablesReference))).1))] :=
  produces_send (m := fun h => .response (.ok r (.variables (showVariables h.hex h.handles
    (contents h.control (h.handles.get? args.variablesReference))).1)))
    (fun _ => by rfl) (fun _ => by rfl) (fun _ => by rfl) (fun _ => by rfl)

/-- A part of the octets of a text. -/
def excerpt (octets : Bytes) (args : ReadMemory) : ResponseBody :=
  let offset := (args.offset.getD 0).toNat
  let part := (octets.drop offset).take args.count.toNat
  .memory (toString offset) (Text.base64 part) (args.count.toNat - part.length : Nat)

theorem produces_memory (h : Handler) (r : Request) (args : ReadMemory) :
    Produces (fun h => h.readMemory r args) h [.response (.ok r
      (excerpt ((octetsOf h.handles args.memoryReference).1.getD []) args))] :=
  produces_send (m := fun h => .response (.ok r
      (excerpt ((octetsOf h.handles args.memoryReference).1.getD []) args)))
    (fun _ => by rfl) (fun _ => by rfl) (fun _ => by rfl) (fun _ => by rfl)

end Handler

/-- What stands in a container can be told from what has been handed out. -/
theorem Tracks.contents (tracks : Tracks issued handles) (c : Control) (n : Int) :
    Handler.contents c (handles.get? n) = shownUnder c issued n := by
  have stands := tracks.get? n
  unfold shownUnder
  generalize issued.lookup n = subject, handles.get? n = found at stands
  cases stands with
  | none => rfl
  | some stands => exact stands.contents c

theorem Tracks.layOut (tracks : Tracks issued handles) (reference : String) :
    Tracks issued (Handler.octetsOf handles reference).2 := by
  unfold Handler.octetsOf
  split
  · exact tracks
  · rename_i n _
    have stands := tracks.get? n
    split
    · rename_i x found
      rw [found] at stands
      refine tracks.set fun subject issued => ?_
      rw [issued] at stands
      cases stands with
      | some stands =>
          cases subject with
          | variable_ x => exact stands.layOut
          | locals | parameters | globals => cases stands
    · exact tracks

/-- Only scopes and variables have references. -/
theorem issuesIn_other {r : Request} (noScopes : ∀ args, r.parse ≠ .ok (.scopes args))
    (noVariables : ∀ args, r.parse ≠ .ok (.variables args)) (c : Control) (issued : List Issue)
    (response : Response) : issuesIn c issued r response = [] := by
  unfold issuesIn
  split
  · exact absurd ‹_› (noScopes _)
  · exact absurd ‹_› (noVariables _)
  · rfl

theorem issuesIn_scopes {r : Request} {args : Scopes} (parsed : r.parse = .ok (.scopes args))
    (c : Control) (issued : List Issue) (ss : List Scope) :
    (responses [.response (.ok r (.scopes ss))]).flatMap (issuesIn c issued r) =
      (ss.map (·.variablesReference)).zip [.locals, .parameters, .globals] := by
  simp [responses, issuesIn, parsed, Response.ok]

theorem issuesIn_variables {r : Request} {args : Variables}
    (parsed : r.parse = .ok (.variables args)) (c : Control) (issued : List Issue)
    (vs : List Protocol.Variable) :
    (responses [.response (.ok r (.variables vs))]).flatMap (issuesIn c issued r) =
      ((shownUnder c issued args.variablesReference).zip vs).flatMap fun (x, v) =>
        (references v).map fun n => (n, .variable_ x) := by
  simp [responses, issuesIn, parsed, Response.ok]

/-- What other requests are answered hands out nothing. -/
theorem append_issues_other {r : Request} (noScopes : ∀ args, r.parse ≠ .ok (.scopes args))
    (noVariables : ∀ args, r.parse ≠ .ok (.variables args)) (c : Control) (issued : List Issue)
    (ms : List Outgoing) : issued ++ (responses ms).flatMap (issuesIn c issued r) = issued := by
  have none_ : (responses ms).flatMap (issuesIn c issued r) = [] :=
    List.flatMap_eq_nil_iff.mpr fun response _ => issuesIn_other noScopes noVariables _ _ response
  rw [none_, List.append_nil]

/-- A command is carried out: the table agrees with what has been handed out before and what the
response hands out. -/
theorem tracks_carryOut {h : Handler} (now : Millis) {r : Request} {command : Command}
    (parsed : r.parse = .ok command) (tracks : Tracks issued h.handles) :
    ∃ ms, Handler.Produces (fun h => h.carryOut now r command) h ms ∧
      Tracks (issued ++ (responses ms).flatMap (issuesIn h.control issued r))
        (h.carryOut now r command).handles := by
  cases concerns : Handler.concernsHandles command with
  | false =>
      obtain ⟨ms, produces, -⟩ := h.produces_carryOut now r command
      have noScopes (args : Scopes) : r.parse ≠ .ok (.scopes args) := by
        rw [parsed]
        rintro ⟨⟩
        cases concerns
      have noVariables (args : Variables) : r.parse ≠ .ok (.variables args) := by
        rw [parsed]
        rintro ⟨⟩
        cases concerns
      refine ⟨ms, produces, ?_⟩
      rw [h.handles_carryOut now r concerns, append_issues_other noScopes noVariables]
      exact tracks
  | true =>
      cases command with
      | scopes args =>
          obtain ⟨ss, produces, -, numbers, items⟩ := h.produces_scopes r
          refine ⟨_, produces, ?_⟩
          rw [issuesIn_scopes parsed, numbers]
          exact tracks.append items
            (.cons (.scope (by simp)) (.cons (.scope (by simp)) (.cons (.scope (by simp)) .nil)))
      | «variables» args =>
          -- What is shown is the same whether it is looked up in the table or in the history.
          obtain ⟨-, subjects, items, stands, issues⟩ := showVariables_fresh h.hex
            (Handler.contents h.control (h.handles.get? args.variablesReference)) h.handles
            (contents_fresh _ _)
          refine ⟨_, h.produces_variables r args, ?_⟩
          rw [issuesIn_variables parsed, ← tracks.contents, issues]
          refine tracks.append ?_ stands
          exact (congrArg Handles.items (Handler.send_handles _ _)).trans items
      | readMemory args =>
          have after : (h.carryOut now r (.readMemory args)).handles =
              (Handler.octetsOf h.handles args.memoryReference).2 := Handler.send_handles _ _
          refine ⟨_, h.produces_memory r args, ?_⟩
          rw [append_issues_other (by simp [parsed]) (by simp [parsed]), after]
          exact tracks.layOut _
      | _ => cases concerns

theorem tracks_handle {h : Handler} (now : Millis) (r : Request) (tracks : Tracks issued h.handles) :
    ∃ ms, Handler.Produces (fun h => (h.handle now r).1) h ms ∧
      Tracks (issued ++ (responses ms).flatMap (issuesIn h.control issued r))
        (h.handle now r).1.handles := by
  cases parsed : r.parse with
  | error e =>
      obtain ⟨ms, produces, -⟩ := h.produces_handle now r
      refine ⟨ms, produces, ?_⟩
      rw [append_issues_other (by simp [parsed]) (by simp [parsed])]
      simp only [Handler.handle, parsed, Handler.refuse, Handler.respond, Handler.send_handles]
      exact tracks
  | ok command =>
      have handled (h : Handler) : (h.handle now r).1 = h.carryOut now r command := by
        simp only [Handler.handle, parsed]
      simp only [handled]
      exact tracks_carryOut now parsed tracks

/-! ## Runs -/

section Happenings

variable {s : Session} {h : Happening}

theorem handles_stop (stop : s.stops h = true) : (s.happen h).handler.handles = {} := by
  cases h with
  | editor incoming outgoing => cases stop
  | interpreter i line complaints fate => cases stop
  | activity now a =>
      cases a with
      | notice =>
          simp only [stops, Bool.and_eq_true, Bool.not_eq_true'] at stop
          obtain ⟨going, first⟩ := stop
          split at first
          · rename_i reason rest notices
            simp only [happen, perform?, notice?, going, Bool.false_eq_true, if_false, notices,
              Option.getD_some]
            exact Handler.send_handles _ _
          · cases first
      | control | read | resume | complete | write | discard => cases stop

/-- What the handler does by itself leaves the table as it is, unless it tells of a stop. -/
theorem Handler.Acts.handles_eq {h h' : Handler} {a : Activity} (acts : h.Acts a h')
    (unstopped : a = .notice → ∀ reason, h.control.notices.head? ≠ some (.stopped reason)) :
    h'.handles = h.handles := by
  cases acts with
  | control | discard => rfl
  | @notice n rest first =>
      cases n with
      | stopped reason => exact absurd (by rw [first]; rfl) (unstopped rfl reason)
      | output | ended => exact Handler.send_handles _ _
  | resume => exact h.handles_resume _ _
  | complete => exact Handler.send_handles _ _

/-- What is no stop and handles no request leaves the table as it is. -/
theorem handles_happen (stop : s.stops h = false) (handled : s.handled? h = none) :
    (s.happen h).handler.handles = s.handler.handles := by
  cases h with
  | editor incoming outgoing => rfl
  | interpreter i line complaints fate => rfl
  | activity now a =>
      cases a with
      | read =>
          obtain ⟨buffer, incoming, ⟨r, some_, -⟩ | ⟨-, same | same⟩⟩ := s.read_cases now
          · cases handled.symm.trans some_
          · rw [same]
          · rw [same]
            rfl
      | write =>
          have writes := s.writes_happen now
          generalize s.happen (.activity now .write) = s' at writes
          cases writes <;> rfl
      | notice =>
          rw [happen]
          cases performed : s.perform? now .notice with
          | none => rfl
          | some s' =>
              obtain ⟨handler, rfl, acts⟩ := perform?_acts performed (by simp) (by simp)
              refine acts.handles_eq fun _ reason first => ?_
              obtain ⟨rest, notices⟩ := List.head?_eq_some_iff.mp first
              simp [stops, (notice?_eq performed).1, notices] at stop
      | control | resume | complete | discard =>
          rw [happen]
          cases performed : s.perform? now _ with
          | none => rfl
          | some s' =>
              obtain ⟨handler, rfl, acts⟩ := perform?_acts performed (by simp) (by simp)
              exact acts.handles_eq (by simp)

theorem handles_read {now : Millis} {r : Request}
    (handled : s.handled? (.activity now .read) = some r) :
    (s.happen (.activity now .read)).handler.handles = (s.handler.handle now r).1.handles := by
  obtain ⟨buffer, incoming, ⟨r', some_, same⟩ | ⟨none_, -⟩⟩ := s.read_cases now
  · cases handled.symm.trans some_
    rw [same, handle]
    dsimp only
    split <;> rfl
  · cases handled.symm.trans none_

end Happenings

theorem issuedBy_next (t : Trace Session (Session × Happening)) (h : Happening) :
    issuedBy (t.next step h) = issuedAfter (issuedBy t) (t.state, h) := by
  rw [issuedBy, Trace.next, List.foldl_append]
  rfl

theorem issuedBy_read {t : Trace Session (Session × Happening)} {now : Millis} {r : Request}
    {ms : List Outgoing} (handled : t.state.handled? (.activity now .read) = some r)
    (produced : t.state.produced (.activity now .read) = ms) :
    issuedBy (t.next step (.activity now .read)) =
      issuedBy t ++ (responses ms).flatMap (issuesIn t.state.control (issuedBy t) r) := by
  rw [issuedBy_next, issuedAfter, handled, produced]
  rfl

/-- The table agrees with what has been handed out. -/
theorem tracks_next (t : Trace Session (Session × Happening)) (h : Happening)
    (tracks : Tracks (issuedBy t) t.state.handler.handles) :
    Tracks (issuedBy (t.next step h)) (t.next step h).state.handler.handles := by
  have state : (t.next step h).state = t.state.happen h := rfl
  rw [state]
  cases stop : t.state.stops h with
  | true =>
      rw [handles_stop stop, issuedBy_next, issuedAfter, if_pos stop]
      exact tracks_nothing
  | false =>
      cases handled : t.state.handled? h with
      | none =>
          rw [handles_happen stop handled, issuedBy_next, issuedAfter, handled]
          simp only [stop, Bool.false_eq_true, if_false]
          exact tracks
      | some r =>
          obtain ⟨now, rfl⟩ := handled?_read handled
          obtain ⟨ms, produces, after⟩ := tracks_handle now r tracks
          rw [handles_read handled, issuedBy_read handled (yields_handle handled produces).produced]
          exact after

theorem tracks_run (config : Monitor.Config) (home : String) (refusal : Option Monitor.Refusal)
    (patience : Millis) (happenings : List Happening) :
    let t := Trace.run step (opening config home refusal patience) happenings
    Tracks (issuedBy t) t.state.handler.handles := by
  refine Trace.run_invariant step (P := fun t => Tracks (issuedBy t) t.state.handler.handles)
    ?_ tracks_next happenings
  exact tracks_nothing

/-- What a session does with the numbers that it has handed out since the last stop. -/
structure Resolves (t : Trace Session (Session × Happening)) : Prop where
  /-- No number was handed out twice. -/
  distinct : ((issuedBy t).map Prod.fst).Nodup
  /-- No number is one that means nothing. -/
  large : ∀ n ∈ (issuedBy t).map Prod.fst, 1000 ≤ n
  /-- The scopes get numbers for what stands in them. -/
  scopes : ∀ now r args, t.state.handled? (.activity now .read) = some r →
    r.parse = .ok (.scopes args) → ∃ ss,
      t.state.produced (.activity now .read) = [.response (.ok r (.scopes ss))] ∧
      ss.map (·.name) = ["Locals", "Parameters", "Globals"] ∧
      issuedBy (t.next step (.activity now .read)) = issuedBy t ++
        (ss.map (·.variablesReference)).zip [.locals, .parameters, .globals]
  /-- A number leads to what it was handed out for: the variables in a scope as they are now, or the
  items of a list, in order. Each list and each text among them gets a number of its own. A number
  that was not handed out leads to nothing. -/
  «variables» : ∀ now r args, t.state.handled? (.activity now .read) = some r →
    r.parse = .ok (.variables args) → ∃ vs,
      t.state.produced (.activity now .read) = [.response (.ok r (.variables vs))] ∧
      (∀ c, (args.variablesReference, c) ∈ issuedBy t →
        List.Forall₂ (fun x v => Shows t.state.handler.hex x v ∧ ∀ n ∈ references v,
          (n, .variable_ x) ∈ issuedBy (t.next step (.activity now .read)))
          (Handler.contents t.state.control (some c)) vs) ∧
      (args.variablesReference ∉ (issuedBy t).map Prod.fst → vs = [])
  /-- The reference of a text leads to its octets; what was not handed out has none. -/
  memory : ∀ now r args, t.state.handled? (.activity now .read) = some r →
    r.parse = .ok (.readMemory args) →
      (∀ (n : Nat) x text, args.memoryReference = toString n → (↑n, .variable_ x) ∈ issuedBy t →
        x.value = .string text → Text.IntegerRange.signed64.holds n = true →
          t.state.produced (.activity now .read) =
            [.response (.ok r (Handler.excerpt (Utf8.encode text) args))]) ∧
      ((∀ n, Text.readInt64 args.memoryReference = .ok n → n ∉ (issuedBy t).map Prod.fst) →
        t.state.produced (.activity now .read) = [.response (.ok r (Handler.excerpt [] args))])

theorem Tracks.lookup (tracks : Tracks issued handles) {n : Int} {c : Container}
    (member : (n, c) ∈ issued) : issued.lookup n = some c := by
  obtain ⟨subjects, rfl, -⟩ := tracks
  have distinct := labelled_nodup firstHandle subjects
  generalize labelled firstHandle subjects = issued at member distinct
  induction issued with
  | nil => cases member
  | cons i issued ih =>
      rw [List.map_cons, List.nodup_cons] at distinct
      rw [List.lookup_cons]
      obtain rfl | later := List.mem_cons.mp member
      · simp
      · have other : n ≠ i.1 := fun same => distinct.1 (same ▸ List.mem_map_of_mem later)
        rw [beq_false_of_ne other]
        exact ih later distinct.2

theorem lookup_unissued {n : Int} (unissued : n ∉ issued.map Prod.fst) : issued.lookup n = none := by
  rw [List.lookup_eq_none_iff]
  rintro ⟨k, c⟩ member
  exact bne_iff_ne.mpr fun same => unissued (same ▸ List.mem_map_of_mem member)

theorem Tracks.octetsOf_text (tracks : Tracks issued handles) {n : Nat} {x : Program.Variable}
    {text : String} (member : (↑n, .variable_ x) ∈ issued) (value : x.value = .string text)
    (fits : Text.IntegerRange.signed64.holds n = true) :
    (Handler.octetsOf handles (toString n)).1 = some (Utf8.encode text) := by
  have digits : (toString n).toList = Nat.toDigits 10 n := String.toList_ofList
  have high : (n : Int) ≤ Text.IntegerRange.signed64.high :=
    of_decide_eq_true (Bool.and_eq_true_iff.mp fits).2
  have read : Text.readInt64 (toString n) = .ok (n : Int) := by
    rw [Text.readInt64, digits, Text.readInteger_toDigits (by decide) high]
  have stands := tracks.get? n
  rw [tracks.lookup member] at stands
  obtain ⟨x', found, octets⟩ : ∃ x', handles.get? n = some (.variable_ x') ∧
      x'.memory.1 = some (Utf8.encode text) := by
    generalize handles.get? n = found at stands
    cases stands with
    | @some _ c stands =>
        cases c with
        | variable_ x' =>
            have octets := stands.memory
            rw [value] at octets
            exact ⟨x', rfl, octets⟩
        | locals | parameters | globals => cases stands
  simp only [Handler.octetsOf, read, found]
  exact octets

theorem Tracks.octetsOf_unissued (tracks : Tracks issued handles) {reference : String}
    (unissued : ∀ n, Text.readInt64 reference = .ok n → n ∉ issued.map Prod.fst) :
    (Handler.octetsOf handles reference).1 = none := by
  cases read : Text.readInt64 reference with
  | error e => simp only [Handler.octetsOf, read]
  | ok n =>
      have stands := tracks.get? n
      rw [lookup_unissued (unissued n read)] at stands
      have found : handles.get? n = none := by
        generalize handles.get? n = found at stands
        cases stands
        rfl
      simp only [Handler.octetsOf, read, found]

theorem resolves_tracks {t : Trace Session (Session × Happening)}
    (tracks : Tracks (issuedBy t) t.state.handler.handles) : Resolves t := by
  refine ⟨?_, ?_, ?_, ?_, ?_⟩
  · obtain ⟨subjects, issued, -⟩ := tracks
    rw [issued]
    exact labelled_nodup _ _
  · obtain ⟨subjects, issued, -⟩ := tracks
    rw [issued, labelled_numbers]
    intro n member
    obtain ⟨k, inside, rfl⟩ := List.mem_map.mp member
    exact Int.ofNat_le.mpr (List.mem_range'_1.mp inside).1
  · intro now r args handled parsed
    obtain ⟨ss, produces, names, -, -⟩ := t.state.handler.produces_scopes r
    have produced := produced_carryOut handled parsed produces
    refine ⟨ss, produced, names, ?_⟩
    rw [issuedBy_read handled produced, issuesIn_scopes parsed]
  · intro now r args handled parsed
    have produced := produced_carryOut handled parsed (t.state.handler.produces_variables r args)
    rw [tracks.contents] at produced
    obtain ⟨shows, -⟩ := showVariables_fresh t.state.handler.hex
      (shownUnder t.state.control (issuedBy t) args.variablesReference) t.state.handler.handles
      (contents_fresh _ _)
    refine ⟨_, produced, fun c member => ?_, fun unissued => ?_⟩
    · have found : shownUnder t.state.control (issuedBy t) args.variablesReference =
          Handler.contents t.state.control (some c) := by
        rw [shownUnder, tracks.lookup member]
      rw [← found]
      obtain ⟨length, each⟩ := List.forall₂_iff_zip.mp shows
      refine List.forall₂_iff_zip.mpr ⟨length, fun {x v} pair => ⟨each pair, fun n reference => ?_⟩⟩
      rw [issuedBy_read handled produced]
      rw [issuesIn_variables parsed]
      refine List.mem_append_right _ ?_
      exact List.mem_flatMap.mpr ⟨(x, v), pair, List.mem_map_of_mem reference⟩
    · rw [shownUnder, lookup_unissued unissued]
      rfl
  · intro now r args handled parsed
    have produced := produced_carryOut handled parsed (t.state.handler.produces_memory r args)
    refine ⟨fun n x text reference member value fits => ?_, fun unissued => ?_⟩
    · rw [reference, tracks.octetsOf_text member value fits] at produced
      exact produced
    · rw [tracks.octetsOf_unissued unissued] at produced
      exact produced

/-- The numbers that a session hands out lead to what they were handed out for, until the next stop
and not beyond. -/
theorem run_resolves (config : Monitor.Config) (home : String) (refusal : Option Monitor.Refusal)
    (patience : Millis) (happenings : List Happening) :
    Resolves (Trace.run step (opening config home refusal patience) happenings) :=
  resolves_tracks (tracks_run config home refusal patience happenings)

end Session

end DebugAdapter
