import DebugAdapter.Interpreter.Scripted
import DebugAdapter.Monitor.Debuggee
import DebugAdapter.Proofs.Framing.Passage
import DebugAdapter.Proofs.Interpreter.Script
import DebugAdapter.Proofs.Json.Printed
import Mathlib
/-!
# Orders on their way to an interpreter, and answers on their way back

A monitor's questions and the commands to make a step go through the same places in the same order:
the channel's commands, its queue, the pipe, the interpreter; the answers come back through the other
pipe to those who are to settle them. What will be answered to a question is therefore known as soon
as it is asked: it depends only on the number of steps that were ordered before it.
-/

namespace DebugAdapter.Monitor

open Channel (Command Effect Link Pending RequestError Requests)
open Framing (Holds)
open Interpreter (Carried Message ScriptedInterpreter ScriptedProgram)

/-! ## Orders -/

/-- Something that the interpreter is told. -/
inductive Order where
  | step
  | ask (q : Query)
deriving DecidableEq

/-- How long a question waits for its answer. -/
def Query.patience (config : Config) : Query → Millis
  | .part .. => config.statusTimeout
  | .debugInfo | .code => config.codeTimeout

namespace Order

/-- The type of the message that carries an order. -/
def type : Order → String
  | step => Interpreter.stepCommand
  | ask q => q.type

/-- The message that carries an order, under the number `n`. -/
def message (n : Nat) (o : Order) : Message :=
  { type := o.type, id := toString n, reply := none, data := .null }

/-- What the channel is told to do. -/
def command (config : Config) : Order → Command Query
  | step => .send Interpreter.stepCommand .null none
  | ask q => .request q q.type .null (some (q.patience config))

end Order

/-- The messages that carry some orders, numbered from `n` on. -/
def messages : Nat → List Order → List Message
  | _, [] => []
  | n, o :: os => o.message n :: messages (n + 1) os

/-- The questions among some orders, under the numbers of their messages. -/
def asked : Nat → List Order → List (Nat × Query)
  | _, [] => []
  | n, .step :: os => asked (n + 1) os
  | n, .ask q :: os => (n, q) :: asked (n + 1) os

/-- The questions among some orders, with the number of steps before each; `n` were made before. -/
def staged : Nat → List Order → List (Query × Nat)
  | _, [] => []
  | n, .step :: os => staged (n + 1) os
  | n, .ask q :: os => (q, n) :: staged n os

/-- The number of steps among some orders. -/
def steps : List Order → Nat
  | [] => 0
  | .step :: os => steps os + 1
  | .ask _ :: os => steps os

theorem messages_append (n : Nat) (os os' : List Order) :
    messages n (os ++ os') = messages n os ++ messages (n + os.length) os' := by
  induction os generalizing n with
  | nil => rfl
  | cons o os ih =>
      rw [List.cons_append, messages, messages, ih, List.length_cons, List.cons_append,
        show n + 1 + os.length = n + (os.length + 1) by omega]

theorem asked_append (n : Nat) (os os' : List Order) :
    asked n (os ++ os') = asked n os ++ asked (n + os.length) os' := by
  induction os generalizing n with
  | nil => rfl
  | cons o os ih =>
      cases o with
      | step =>
          rw [List.cons_append, asked, asked, ih, List.length_cons,
            show n + 1 + os.length = n + (os.length + 1) by omega]
      | ask q =>
          rw [List.cons_append, asked, asked, ih, List.length_cons, List.cons_append,
            show n + 1 + os.length = n + (os.length + 1) by omega]

theorem steps_append (os os' : List Order) : steps (os ++ os') = steps os + steps os' := by
  induction os with
  | nil => simp [steps]
  | cons o os ih =>
      cases o with
      | step =>
          simp only [List.cons_append, steps, ih]
          omega
      | ask q => simp only [List.cons_append, steps, ih]

theorem staged_append (n : Nat) (os os' : List Order) :
    staged n (os ++ os') = staged n os ++ staged (n + steps os) os' := by
  induction os generalizing n with
  | nil => rfl
  | cons o os ih =>
      cases o with
      | step =>
          rw [List.cons_append, staged, staged, ih, steps,
            show n + 1 + steps os = n + (steps os + 1) by omega]
      | ask q => rw [List.cons_append, staged, staged, ih, steps, List.cons_append]

theorem staged_asks (n : Nat) (qs : List Query) :
    staged n (qs.map .ask) = qs.map fun q => (q, n) := by
  induction qs with
  | nil => rfl
  | cons q qs ih => rw [List.map_cons, staged, ih, List.map_cons]

theorem mem_staged {n : Nat} {os : List Order} {q : Query} :
    (∃ k, (q, k) ∈ staged n os) ↔ .ask q ∈ os := by
  induction os generalizing n with
  | nil => simp [staged]
  | cons o os ih =>
      cases o with
      | step => simp [staged, ih]
      | ask q' => simp [staged, exists_or, ih]

theorem steps_asks (qs : List Query) : steps (qs.map .ask) = 0 := by
  induction qs with
  | nil => rfl
  | cons q qs ih => rw [List.map_cons, steps, ih]

theorem not_mem_of_steps {os : List Order} (none_ : steps os = 0) : .step ∉ os := by
  induction os with
  | nil => exact List.not_mem_nil
  | cons o os ih =>
      cases o with
      | step => cases none_
      | ask q =>
          rw [steps] at none_
          simpa using ih none_

theorem type_of_mem_messages {n : Nat} {os : List Order} {m : Message} (h : m ∈ messages n os) :
    ∃ o ∈ os, m.type = o.type := by
  induction os generalizing n with
  | nil => cases h
  | cons o os ih =>
      obtain rfl | later := List.mem_cons.mp h
      · exact ⟨o, List.mem_cons_self, rfl⟩
      · obtain ⟨o', member, type⟩ := ih later
        exact ⟨o', .tail o member, type⟩

theorem Order.carried (n : Nat) (o : Order) : Carried 126 (o.message n).data := Carried.null 126

theorem Query.type_ne_step (q : Query) : q.type ≠ Interpreter.stepCommand := by
  cases q with
  | part tick p => cases p <;> simp only [type] <;> decide
  | debugInfo | code => decide

theorem Query.type_ne_ping (q : Query) : q.type ≠ Message.pingRequest := by
  cases q with
  | part tick p => cases p <;> simp only [type] <;> decide
  | debugInfo | code => decide

/-! ## Writing -/

/-- A message on the wire. -/
def wire (d : Framing.Delimiting) (m : Message) : Bytes := m.encode.bytes ++ [d.delimiter]

section

variable {d : Framing.Delimiting} (outOfBand : d.OutOfBand)

include outOfBand

theorem encode_carried {m : Message} (carried : Carried 126 m.data) :
    d.encode m = .ok (wire d m) := by
  have free := outOfBand m.encode (Message.integral_encode carried.integral)
  rw [Framing.Delimiting.encode, List.contains_eq_mem, decide_eq_false free]
  rfl

theorem holds_wire {m : Message} (carried : Carried 126 m.data) : Holds d (wire d m) [m] :=
  Framing.holds_message (Message.faithful_of_carried carried) (encode_carried outOfBand carried)

theorem holds_wires (ms : List Message) (carried : ∀ m ∈ ms, Carried 126 m.data) :
    Holds d (ms.flatMap (wire d)) ms := by
  induction ms with
  | nil => exact Framing.holds_nil
  | cons m ms ih =>
      have first := holds_wire outOfBand (carried m List.mem_cons_self)
      exact first.append (ih fun m' member => carried m' (.tail m member))

end

theorem messages_carried (n : Nat) (os : List Order) : ∀ m ∈ messages n os, Carried 126 m.data := by
  induction os generalizing n with
  | nil => simp [messages]
  | cons o os ih =>
      intro m member
      obtain rfl | later := List.mem_cons.mp member
      · exact o.carried n
      · exact ih (n + 1) m later

/-! ## Questions that wait for their answers -/

/-- The questions that will be answered, in order, each with a request of the channel under its
number; no other request has a number from `next` on. -/
structure Registered (pending : List (Pending Query)) (questions : List (Nat × Query)) (next : Nat) :
    Prop where
  listed : ∀ o ∈ questions, ∃ x ∈ pending, x.id = toString o.1 ∧ x.asker = o.2
  ascending : questions.Pairwise (·.1 < ·.1)
  below : ∀ o ∈ questions, o.1 < next
  distinct : (pending.map (·.id)).Nodup
  known : ∀ x ∈ pending, ∃ n < next, x.id = toString n

namespace Registered

variable {pending : List (Pending Query)} {questions : List (Nat × Query)} {next : Nat}

theorem nil (n : Nat) : Registered [] [] n := by
  constructor <;> simp

theorem sublist (registered : Registered pending questions next) {others : List (Nat × Query)}
    (part : others.Sublist questions) : Registered pending others next where
  listed := fun o member => registered.listed o (part.subset member)
  ascending := registered.ascending.sublist part
  below := fun o member => registered.below o (part.subset member)
  distinct := registered.distinct
  known := registered.known

/-- A message takes the next number. -/
theorem skip (registered : Registered pending questions next) :
    Registered pending questions (next + 1) where
  listed := registered.listed
  ascending := registered.ascending
  below := fun o member => Nat.lt_succ_of_lt (registered.below o member)
  distinct := registered.distinct
  known := by
    intro x member
    obtain ⟨n, less, id⟩ := registered.known x member
    exact ⟨n, Nat.lt_succ_of_lt less, id⟩

theorem insert (registered : Registered pending questions next) (x : Pending Query)
    (id : x.id = toString next) :
    Registered (pending ++ [x]) (questions ++ [(next, x.asker)]) (next + 1) where
  listed := by
    intro o member
    obtain old | new := List.mem_append.mp member
    · obtain ⟨y, listed, same⟩ := registered.listed o old
      exact ⟨y, List.mem_append_left _ listed, same⟩
    · cases List.mem_singleton.mp new
      exact ⟨x, by simp, id, rfl⟩
  ascending := by
    refine List.pairwise_append.mpr ⟨registered.ascending, List.pairwise_singleton .., ?_⟩
    intro o member o' new
    cases List.mem_singleton.mp new
    exact registered.below o member
  below := by
    intro o member
    obtain old | new := List.mem_append.mp member
    · exact Nat.lt_succ_of_lt (registered.below o old)
    · cases List.mem_singleton.mp new
      exact Nat.lt_succ_self next
  distinct := by
    rw [List.map_append, List.map_singleton]
    refine List.nodup_append.mpr ⟨registered.distinct, List.nodup_singleton _, ?_⟩
    intro i member i' new same
    obtain ⟨y, listed, rfl⟩ := List.mem_map.mp member
    obtain ⟨n, less, id'⟩ := registered.known y listed
    rw [List.mem_singleton.mp new, id, id'] at same
    exact absurd (Nat.repr_injective same) (Nat.ne_of_lt less)
  known := by
    intro y member
    obtain old | new := List.mem_append.mp member
    · obtain ⟨n, less, id'⟩ := registered.known y old
      exact ⟨n, Nat.lt_succ_of_lt less, id'⟩
    · rw [List.mem_singleton.mp new]
      exact ⟨next, Nat.lt_succ_self next, id⟩

/-- The answer to the first question finds its request. -/
theorem find {n : Nat} {q : Query} (registered : Registered pending ((n, q) :: questions) next) :
    ∃ x, pending.find? (·.id == toString n) = some x ∧ x.id = toString n ∧ x.asker = q := by
  obtain ⟨x, listed, id, asker⟩ := registered.listed _ List.mem_cons_self
  cases found : pending.find? (·.id == toString n) with
  | none =>
      have other := List.find?_eq_none.mp found x listed
      simp [id] at other
  | some y =>
      have named : y.id = toString n := by simpa using List.find?_some found
      have same : x = y := List.inj_on_of_nodup_map registered.distinct listed
        (List.mem_of_find?_eq_some found) (id.trans named.symm)
      exact ⟨y, rfl, named, same ▸ asker⟩

/-- The first question is answered. -/
theorem erase {n : Nat} {q : Query} (registered : Registered pending ((n, q) :: questions) next) :
    Registered (pending.filter (·.id != toString n)) questions next where
  listed := by
    intro o member
    obtain ⟨x, listed, id, asker⟩ := registered.listed o (.tail _ member)
    have later := List.rel_of_pairwise_cons registered.ascending member
    refine ⟨x, List.mem_filter.mpr ⟨listed, ?_⟩, id, asker⟩
    rw [id]
    refine bne_iff_ne.mpr fun same => ?_
    exact absurd (Nat.repr_injective same) (Nat.ne_of_gt later)
  ascending := (List.pairwise_cons.mp registered.ascending).2
  below := fun o member => registered.below o (.tail _ member)
  distinct := registered.distinct.sublist (List.filter_sublist.map _)
  known := fun x member => registered.known x (List.mem_filter.mp member).1

end Registered

end DebugAdapter.Monitor
