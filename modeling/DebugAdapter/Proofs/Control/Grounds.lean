import DebugAdapter.Proofs.Control.Interpreters
import DebugAdapter.Proofs.Interpreter.CallStack
import DebugAdapter.Proofs.Monitor.Latest
/-!
# The grounds of what is shown

What is shown of a program was read from the answers of its interpreter, whatever else happens. So
every function in a call stack was read from a text, and its numbers have 64 bits.
-/

namespace DebugAdapter

open Channel (RequestError)
open Interpreter (CallFrame IsFrame)
open Program (Snapshot)

/-! ## Call stacks -/

namespace Interpreter

theorem isFrame_of_mem {texts : List String} {f : CallFrame} (mem : f ∈ parseCallStack texts) :
    ∃ s ∈ texts, IsFrame s f := by
  obtain ⟨s, text, read⟩ := List.mem_filterMap.mp mem
  cases frame : CallFrame.ofText s with
  | ok f' =>
      rw [frame] at read
      cases read
      exact ⟨s, text, CallFrame.ofText_eq_ok.mp frame⟩
  | error flaw =>
      rw [frame] at read
      cases read

theorem IsFrame.holds_offset {s name file : String} {offset line : Int}
    (frame : IsFrame s (.source name file offset line)) :
    Text.IntegerRange.signed64.holds offset = true := by
  cases frame with
  | source _ _ _ _ offsetField _ =>
      obtain ⟨_, _, _, -, -, -, -, holds⟩ := offsetField
      exact holds

end Interpreter

namespace Monitor

variable {log : Log}

theorem Details.holds_offset {s : Snapshot} (details : Details log s) {name file : String}
    {offset line : Int} (mem : .source name file offset line ∈ s.callStack.getD []) :
    Text.IntegerRange.signed64.holds offset = true := by
  rw [details.callStack] at mem
  cases texts : log.last? (Decode.list Decode.string) .callStack with
  | none =>
      rw [texts] at mem
      cases mem
  | some texts' =>
      rw [texts] at mem
      obtain ⟨_, -, frame⟩ := Interpreter.isFrame_of_mem mem
      exact frame.holds_offset

end Monitor

namespace Debuggee

variable {d d' : Debuggee} {now : Millis}

/-- Whether what is shown was read from some answers. -/
def Grounded (d : Debuggee) : Prop := ∃ log, Monitor.Details log d.snapshot

theorem grounded_start (config : Monitor.Config) (now : Millis) : (start config now).Grounded :=
  ⟨[], (Monitor.Current.start config now).details⟩

theorem Grounded.congr (grounded : d.Grounded) (same : d'.snapshot = d.snapshot) : d'.Grounded := by
  rwa [Grounded, same]

theorem Grounded.perform (grounded : d.Grounded) {a : Activity} (h : d.perform? now a = some d') :
    d'.Grounded := by
  cases performs h with
  | link | forward => exact grounded
  | @settle i q a answered =>
      obtain ⟨log, details⟩ := grounded
      exact ⟨_, Monitor.Details.answer details q a⟩
  | poll =>
      have same := (d.monitor.poll_knows now d.status).snapshot
      exact grounded.congr ((told_askAll _ _).snapshot.trans same)
  | fetch =>
      have same := (d.monitor.fetchCode_knows d.status).snapshot
      exact grounded.congr ((told_askAll _ _).snapshot.trans same)

end Debuggee

namespace Control

theorem Tells.every {ds ds' : List Debuggee} (tells : Tells ds ds') {P : Debuggee → Prop}
    (kept : ∀ {d d' : Debuggee}, Debuggee.Told d d' → P d → P d') (all : ∀ d ∈ ds, P d) :
    ∀ d ∈ ds', P d := by
  intro d' mem
  obtain ⟨i, inside, rfl⟩ := List.getElem_of_mem mem
  have found := List.getElem?_eq_getElem (tells.length ▸ inside)
  obtain ⟨d, found', told⟩ := tells.told found
  cases (List.getElem?_eq_getElem inside).symm.trans found'
  exact kept told (all _ (List.getElem_mem _))

namespace Moment

variable {m : Moment} {i : Nat} {d d' : Debuggee}

theorem Fares.grounded (fares : m.Fares i d d') (grounded : d.Grounded) : d'.Grounded := by
  cases fares with
  | performs _ performed => exact grounded.perform performed
  | outside => exact grounded
  | hears _ taken told =>
      obtain ⟨news, -, rfl⟩ := Debuggee.hear?_eq taken
      exact grounded.congr told.snapshot
  | told _ _ told => exact grounded.congr told.snapshot

theorem grounded_next (grounded : ∀ d ∈ m.before.debuggees, d.Grounded) :
    ∀ d ∈ m.after.debuggees, d.Grounded :=
  m.every_next (fun fares grounded => fares.grounded grounded) Debuggee.grounded_start grounded

end Moment

end Control

end DebugAdapter
