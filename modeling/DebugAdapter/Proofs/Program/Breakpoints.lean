import DebugAdapter.Program.Breakpoints
import DebugAdapter.Proofs.Table
import DebugAdapter.Proofs.Trace
import Mathlib.Data.List.Forall2
import Mathlib.Data.List.Induction
/-!
# Line breakpoints as one list

The line breakpoints of each file stand in a list of their own, under the file's key. Whatever is set
and cleared, they say the same as one list of all line breakpoints in the order in which they were
set. Their numbers grow along it, and a path leads to the same ones however its separators are
spelled.
-/

namespace DebugAdapter

/-! ## Spellings -/

namespace Path

/-- Whether a character separates the components of a path. -/
def IsSeparator (c : Char) : Prop := c = '/' ∨ c = '\\'

/-- Whether two paths differ in the spelling of their separators only. -/
def Alike (path other : String) : Prop :=
  List.Forall₂ (fun a b => a = b ∨ IsSeparator a ∧ IsSeparator b) path.toList other.toList

theorem key_eq_iff {path other : String} : key path = key other ↔ Alike path other := by
  have same (a b : Char) : ((if a = '\\' then '/' else a) = if b = '\\' then '/' else b) ↔
      a = b ∨ IsSeparator a ∧ IsSeparator b := by
    unfold IsSeparator
    split <;> split <;> grind
  rw [key, key, String.ofList_inj, ← List.forall₂_eq_eq_eq, List.forall₂_map_left_iff,
    List.forall₂_map_right_iff]
  simp only [same]
  rfl

end Path

namespace Program

open Breakpoints (replaceValue)

/-! ## Entries of a table -/

section

variable {α : Type} {table : List (String × α)}

theorem lookup_replaceValue (table : List (String × α)) (key k : String) (value : α) :
    (replaceValue key value table).lookup k = if k = key then some value else table.lookup k := by
  induction table with
  | nil => exact Table.lookup_cons [] (key, value) k
  | cons entry table ih =>
      rw [replaceValue]
      split
      · rename_i here
        rw [Table.lookup_cons, Table.lookup_cons, here]
        split <;> rfl
      · rename_i elsewhere
        rw [Table.lookup_cons, Table.lookup_cons, ih]
        split
        · rename_i same
          rw [if_neg (same ▸ elsewhere)]
        · rfl

/-- Only the key itself may be new. -/
theorem mem_keys_replaceValue {key k : String} {value : α}
    (member : k ∈ (replaceValue key value table).map (·.1)) : k = key ∨ k ∈ table.map (·.1) := by
  induction table with
  | nil => exact .inl (List.mem_singleton.mp member)
  | cons entry table ih =>
      rw [replaceValue] at member
      split at member
      · exact .inr member
      · rw [List.map_cons, List.mem_cons] at member ⊢
        exact member.elim (fun here => .inr (.inl here)) fun later => (ih later).imp_right .inr

theorem nodup_replaceValue (distinct : (table.map (·.1)).Nodup) (key : String) (value : α) :
    ((replaceValue key value table).map (·.1)).Nodup := by
  induction table with
  | nil => exact List.nodup_singleton key
  | cons entry table ih =>
      obtain ⟨fresh, rest⟩ := List.nodup_cons.mp distinct
      rw [replaceValue]
      split
      · exact distinct
      · rename_i other
        refine List.nodup_cons.mpr ⟨fun again => ?_, ih rest⟩
        obtain same | later := mem_keys_replaceValue again
        · exact other same
        · exact fresh later

end

/-! ## The breakpoints under a key -/

namespace Breakpoints

/-- The line breakpoints of the file with a key. -/
def underKey (bs : Breakpoints) (key : String) : List LineBreakpoint :=
  (bs.files.lookup key).getD []

variable (bs : Breakpoints) (path key : String) (line : Int)

theorem underKey_setLine : (bs.setLine path line).2.underKey key =
    if key = Path.key path then bs.inFile path ++ [(bs.setLine path line).1]
    else bs.underKey key := by
  rw [underKey, setLine]
  dsimp only [verifyFile]
  rw [lookup_replaceValue]
  split <;> rfl

theorem underKey_clearFile : (bs.clearFile path).underKey key =
    if key = Path.key path then [] else bs.underKey key := by
  rw [underKey, clearFile]
  split
  · rename_i same
    rw [same, Table.lookup_filter_self]
    rfl
  · rename_i other
    rw [Table.lookup_filter _ other]
    rfl

theorem clearLine_found :
    (bs.clearLine path line).1 = (bs.inFile path).find? (·.line = line) := by
  rw [clearLine, inFile]
  cases bs.files.lookup (Path.key path) with
  | none => rfl
  | some bps =>
      dsimp only [Option.getD_some]
      cases bps.find? (·.line = line) <;> rfl

theorem underKey_clearLine : (bs.clearLine path line).2.underKey key =
    if key = Path.key path then (bs.inFile path).eraseP (·.line = line) else bs.underKey key := by
  rw [clearLine, inFile]
  -- Where nothing is found nothing is erased.
  have unchanged {bps : List LineBreakpoint} (found : bs.underKey (Path.key path) = bps)
      (none_ : bps.find? (·.line = line) = none) : bs.underKey key =
      if key = Path.key path then bps.eraseP (·.line = line) else bs.underKey key := by
    rw [List.eraseP_of_forall_not (List.find?_eq_none.mp none_)]
    split
    · rename_i same
      rw [same, found]
    · rfl
  cases found : bs.files.lookup (Path.key path) with
  | none => exact unchanged (by rw [underKey, found]) rfl
  | some bps =>
      dsimp only [Option.getD_some]
      cases first : bps.find? (·.line = line) with
      | none => exact unchanged (by rw [underKey, found]; rfl) first
      | some bp =>
          dsimp only [underKey]
          rw [lookup_replaceValue]
          split <;> rfl

/-- The files keep their places, and the numbers go on as before. -/
theorem clearLine_kept (distinct : (bs.files.map (·.1)).Nodup) :
    ((bs.clearLine path line).2.files.map (·.1)).Nodup ∧
      (bs.clearLine path line).2.nextId = bs.nextId := by
  rw [clearLine]
  cases bs.files.lookup (Path.key path) with
  | none => exact ⟨distinct, rfl⟩
  | some bps =>
      cases first : bps.find? (·.line = line) with
      | none =>
          dsimp only
          rw [first]
          exact ⟨distinct, rfl⟩
      | some bp =>
          dsimp only
          rw [first]
          exact ⟨nodup_replaceValue distinct _ _, rfl⟩

end Breakpoints

/-! ## One list -/

/-- What is done with line breakpoints. -/
inductive Operation where
  | set (path : String) (line : Int)
  | clear (path : String) (line : Int)
  | clearFile (path : String)
  | verify (path : String)

/-- What an operation returns. -/
inductive Answer where
  | added (bp : LineBreakpoint)
  | removed (bp : Option LineBreakpoint)
  | nothing

/-- The number that an operation has handed out. -/
def Answer.id? : Answer → Option Nat
  | added bp => some bp.id
  | removed _ | nothing => none

/-- An operation is performed. -/
def Breakpoints.perform (bs : Breakpoints) : Operation → Breakpoints × Answer
  | .set path line => ((bs.setLine path line).2, .added (bs.setLine path line).1)
  | .clear path line => ((bs.clearLine path line).2, .removed (bs.clearLine path line).1)
  | .clearFile path => (bs.clearFile path, .nothing)
  | .verify path => (bs.verifyFile path, .nothing)

/-- One list of all line breakpoints, with the keys of their files. -/
structure Listing where
  entries : List (String × LineBreakpoint) := []
  nextId : Nat := 1

namespace Listing

/-- The first of some entries of which something holds, and the others. -/
def removeFirst {α : Type} (p : α → Bool) : List α → Option α × List α
  | [] => (none, [])
  | a :: as =>
    if p a then (some a, as)
    else ((removeFirst p as).1, a :: (removeFirst p as).2)

/-- The line breakpoints of the file with a key. -/
def underKey (key : String) (entries : List (String × LineBreakpoint)) : List LineBreakpoint :=
  (entries.filter (·.1 = key)).map (·.2)

/-- An operation is performed: what is set comes last, with the next number; the first entry of a
file on a line is removed, or every entry of a file. -/
def perform (g : Listing) : Operation → Listing × Answer
  | .set path line =>
    let bp : LineBreakpoint := { id := g.nextId, line, verified := false }
    ({ entries := g.entries ++ [(Path.key path, bp)], nextId := g.nextId + 1 }, .added bp)
  | .clear path line =>
    let (found, entries) :=
      removeFirst (fun e => e.1 = Path.key path && e.2.line = line) g.entries
    ({ g with entries }, .removed (found.map (·.2)))
  | .clearFile path => ({ g with entries := g.entries.filter (·.1 ≠ Path.key path) }, .nothing)
  | .verify _ => (g, .nothing)

theorem underKey_cons (key file : String) (bp : LineBreakpoint)
    (entries : List (String × LineBreakpoint)) :
    underKey key ((file, bp) :: entries) =
      if file = key then bp :: underKey key entries else underKey key entries := by
  rw [underKey, List.filter_cons]
  by_cases here : file = key <;> simp [here, underKey]

theorem underKey_append (key : String) (entries others : List (String × LineBreakpoint)) :
    underKey key (entries ++ others) = underKey key entries ++ underKey key others := by
  rw [underKey, List.filter_append, List.map_append]
  rfl

theorem underKey_filter (key file : String) (entries : List (String × LineBreakpoint)) :
    underKey key (entries.filter (·.1 ≠ file)) =
      if key = file then [] else underKey key entries := by
  rw [underKey, List.filter_filter]
  split
  · rename_i same
    rw [List.filter_eq_nil_iff.mpr (by simp [same])]
    rfl
  · rename_i other
    refine congrArg _ (List.filter_congr fun entry _ => ?_)
    by_cases here : entry.1 = key <;> simp [here, other]

theorem removeFirst_sublist {α : Type} (p : α → Bool) (as : List α) :
    (removeFirst p as).2.Sublist as := by
  induction as with
  | nil => exact List.Sublist.refl []
  | cons a as ih =>
      rw [removeFirst]
      split
      · exact List.sublist_cons_self a as
      · exact ih.cons_cons a

/-- The first entry of a file on a line is the first one on it of those of the file. -/
theorem underKey_removeFirst (file : String) (line : Int)
    (entries : List (String × LineBreakpoint)) :
    let removed := removeFirst (fun e => e.1 = file && e.2.line = line) entries
    removed.1.map (·.2) = (underKey file entries).find? (·.line = line) ∧
      ∀ key, underKey key removed.2 =
        if key = file then (underKey file entries).eraseP (·.line = line)
        else underKey key entries := by
  induction entries with
  | nil => exact ⟨rfl, fun key => (ite_self _).symm⟩
  | cons entry entries ih =>
      obtain ⟨found, others⟩ := ih
      obtain ⟨file', bp⟩ := entry
      rw [removeFirst]
      by_cases here : file' = file
      · subst here
        rw [underKey_cons, if_pos rfl]
        by_cases on : bp.line = line
        · have hit : (decide (file' = file') && decide (bp.line = line)) = true := by simp [on]
          rw [if_pos hit, List.find?_cons_of_pos (by simpa using on),
            List.eraseP_cons_of_pos (by simpa using on)]
          refine ⟨rfl, fun key => ?_⟩
          rw [underKey_cons]
          split
          · rename_i same
            rw [same]
          · rename_i other
            rw [if_neg (Ne.symm other)]
        · have missed : ¬ (decide (file' = file') && decide (bp.line = line)) = true := by
            simp [on]
          rw [if_neg missed, List.find?_cons_of_neg (by simpa using on),
            List.eraseP_cons_of_neg (by simpa using on)]
          refine ⟨found, fun key => ?_⟩
          rw [underKey_cons, underKey_cons, others]
          split
          · rename_i same
            rw [if_pos same.symm, if_pos same.symm]
          · rename_i other
            rw [if_neg (Ne.symm other), if_neg (Ne.symm other)]
      · have missed : ¬ (decide (file' = file) && decide (bp.line = line)) = true := by
          simp [here]
        rw [if_neg missed, underKey_cons, if_neg here]
        refine ⟨found, fun key => ?_⟩
        rw [underKey_cons, underKey_cons, others]
        split
        · rename_i same
          rw [if_neg (same ▸ here), if_neg (same ▸ here)]
        · rfl

/-- Whether `n` numbers have been handed out, and those in a list are among them, in order. -/
structure Numbered (n : Nat) (g : Listing) : Prop where
  nextId : g.nextId = n + 1
  left : (g.entries.map (·.2.id)).Sublist (List.range' 1 n)

theorem Numbered.perform {n : Nat} {g : Listing} (numbered : g.Numbered n) (op : Operation) :
    ∃ m, (g.perform op).1.Numbered (n + m) ∧
      (g.perform op).2.id?.toList = List.range' (n + 1) m := by
  have fewer {entries : List (String × LineBreakpoint)} (sublist : entries.Sublist g.entries) :
      ({ g with entries } : Listing).Numbered (n + 0) :=
    ⟨numbered.nextId, (sublist.map _).trans numbered.left⟩
  cases op with
  | set path line =>
      refine ⟨1, ⟨congrArg (· + 1) numbered.nextId, ?_⟩, congrArg (fun k => [k]) numbered.nextId⟩
      rw [Listing.perform, List.map_append, List.range'_1_concat]
      refine numbered.left.append ?_
      rw [List.map_singleton, numbered.nextId, Nat.add_comm]
  | clear path line => exact ⟨0, fewer (removeFirst_sublist _ _), rfl⟩
  | clearFile path => exact ⟨0, fewer List.filter_sublist, rfl⟩
  | verify path => exact ⟨0, numbered, rfl⟩

theorem mem_underKey {key : String} {bp : LineBreakpoint}
    {entries : List (String × LineBreakpoint)} :
    bp ∈ underKey key entries ↔ (key, bp) ∈ entries := by
  simp [underKey]

namespace Numbered

variable {n : Nat} {g : Listing} (numbered : g.Numbered n)
include numbered

theorem increasing (key : String) :
    (underKey key g.entries).Pairwise (fun a b => a.id < b.id) := by
  have handedOut : (List.range' 1 n).Pairwise (· < ·) := List.pairwise_lt_range'
  have sorted := handedOut.sublist numbered.left
  exact List.pairwise_map.mpr ((List.pairwise_map.mp sorted).sublist List.filter_sublist)

theorem apart {key other : String} {a b : LineBreakpoint} (here : (key, a) ∈ g.entries)
    (there : (other, b) ∈ g.entries) (same : a.id = b.id) : key = other := by
  have handedOut : (List.range' 1 n).Nodup := List.nodup_range'
  have distinct := handedOut.sublist numbered.left
  exact congrArg Prod.fst (List.inj_on_of_nodup_map distinct here there same)

end Numbered

end Listing

/-! ## Agreement -/

/-- Whether a store of line breakpoints says the same as one list. -/
structure Breakpoints.Lists (bs : Breakpoints) (g : Listing) : Prop where
  distinct : (bs.files.map (·.1)).Nodup
  underKey : ∀ key, bs.underKey key = Listing.underKey key g.entries
  nextId : bs.nextId = g.nextId

namespace Breakpoints.Lists

variable {bs : Breakpoints} {g : Listing} (lists : bs.Lists g)
include lists

theorem perform (op : Operation) :
    (bs.perform op).2 = (g.perform op).2 ∧ (bs.perform op).1.Lists (g.perform op).1 := by
  have inFile (path : String) : bs.inFile path = Listing.underKey (Path.key path) g.entries :=
    lists.underKey _
  cases op with
  | set path line =>
      have same : (bs.setLine path line).1 = { id := g.nextId, line, verified := false } := by
        rw [setLine, lists.nextId]
      refine ⟨congrArg Answer.added same, nodup_replaceValue lists.distinct _ _, fun key => ?_,
        congrArg (· + 1) lists.nextId⟩
      rw [Breakpoints.perform, underKey_setLine, same, inFile, Listing.perform,
        Listing.underKey_append, Listing.underKey_cons]
      split
      · rename_i same
        rw [same, if_pos rfl]
        rfl
      · rename_i other
        rw [if_neg (Ne.symm other), lists.underKey]
        exact (List.append_nil _).symm
  | clear path line =>
      obtain ⟨found, left⟩ := Listing.underKey_removeFirst (Path.key path) line g.entries
      obtain ⟨distinct, nextId⟩ := bs.clearLine_kept path line lists.distinct
      refine ⟨congrArg Answer.removed ?_, distinct, fun key => ?_, nextId.trans lists.nextId⟩
      · rw [clearLine_found, inFile]
        exact found.symm
      · rw [Breakpoints.perform, underKey_clearLine, inFile, lists.underKey]
        exact (left key).symm
  | clearFile path =>
      refine ⟨rfl, lists.distinct.sublist (List.filter_sublist.map _), fun key => ?_, lists.nextId⟩
      rw [Breakpoints.perform, underKey_clearFile, lists.underKey]
      exact (Listing.underKey_filter key _ _).symm
  | verify path => exact ⟨rfl, lists⟩

theorem mem_lines {entry : String × LineBreakpoint} : entry ∈ bs.lines ↔ entry ∈ g.entries := by
  obtain ⟨key, bp⟩ := entry
  refine Iff.trans ?_ (lists.underKey key ▸ Listing.mem_underKey)
  simp only [Breakpoints.lines,  List.mem_flatMap, List.mem_map, Prod.mk.injEq]
  constructor
  · rintro ⟨⟨_, bps⟩, member, _, inFile, rfl, rfl⟩
    rw [Breakpoints.underKey, (Table.mem_iff_lookup lists.distinct).mp member]
    exact inFile
  · intro member
    rw [Breakpoints.underKey] at member
    cases found : bs.files.lookup key with
    | none => exact absurd (found ▸ member) List.not_mem_nil
    | some bps =>
        rw [found] at member
        exact ⟨(key, bps), (Table.mem_iff_lookup lists.distinct).mpr found, bp, member, rfl, rfl⟩

theorem stops {line : Option Int} : bs.stopsAtLine line = true ↔
    ∃ n, line = some n ∧ n ≠ 0 ∧ ∃ e ∈ g.entries, e.2.line = n := by
  cases line with
  | none => simp [stopsAtLine]
  | some n =>
      rw [stopsAtLine_some_iff]
      simp only [lists.mem_lines]
      constructor
      · rintro ⟨nonzero, set⟩
        exact ⟨n, rfl, nonzero, set⟩
      · rintro ⟨_, ⟨⟩, nonzero, set⟩
        exact ⟨nonzero, set⟩

end Breakpoints.Lists

/-! ## Histories -/

/-- Operations, one after the other, on no breakpoints. -/
def Breakpoints.history (ops : List Operation) : Trace Breakpoints Answer :=
  Trace.run Breakpoints.perform {} ops

/-- Operations, one after the other, on an empty list. -/
def Listing.history (ops : List Operation) : Trace Listing Answer :=
  Trace.run Listing.perform {} ops

/-- Whether two operations differ in the spelling of their paths only. -/
inductive Operation.Alike : Operation → Operation → Prop
  | set {path other : String} (alike : Path.Alike path other) (line : Int) :
      Alike (.set path line) (.set other line)
  | clear {path other : String} (alike : Path.Alike path other) (line : Int) :
      Alike (.clear path line) (.clear other line)
  | clearFile {path other : String} (alike : Path.Alike path other) :
      Alike (.clearFile path) (.clearFile other)
  | verify {path other : String} (alike : Path.Alike path other) :
      Alike (.verify path) (.verify other)

/-- What there is to say of the breakpoints that some operations leave behind. -/
structure Listed (ops : List Operation) (t : Trace Breakpoints Answer) (g : Trace Listing Answer) :
    Prop where
  /-- Each operation returns the same as on the list. -/
  answers : t.entries = g.entries
  /-- The breakpoints of a file are those in the list, in order. -/
  inFile : ∀ path, t.state.inFile path = (g.state.entries.filter (·.1 = Path.key path)).map (·.2)
  /-- A line is stopped at if it is known, is not 0 and is in the list for some file. -/
  stops : ∀ line, t.state.stopsAtLine line = true ↔
    ∃ n, line = some n ∧ n ≠ 0 ∧ ∃ e ∈ g.state.entries, e.2.line = n
  /-- The numbers 1, 2, 3 and so on have been handed out, in this order. -/
  handedOut : ∃ n, t.entries.filterMap Answer.id? = List.range' 1 n
  /-- The numbers of the breakpoints that are left are among them, and grow along the list. -/
  left : (g.state.entries.map (·.2.id)).Sublist (t.entries.filterMap Answer.id?)
  /-- So do those in a file. -/
  increasing : ∀ path, (t.state.inFile path).Pairwise (fun a b => a.id < b.id)
  /-- No number stands in two files. -/
  apart : ∀ path other, ∀ a ∈ t.state.inFile path, ∀ b ∈ t.state.inFile other, a.id = b.id →
    Path.key path = Path.key other
  /-- Other spellings of the paths make no difference. -/
  spelled : ∀ others, List.Forall₂ Operation.Alike ops others → Breakpoints.history others = t
  spelledFile : ∀ path other, Path.Alike path other → t.state.inFile path = t.state.inFile other

/-- Operations that differ in spelling are the same operation. -/
theorem Operation.Alike.perform {op other : Operation} (alike : op.Alike other)
    (bs : Breakpoints) : bs.perform other = bs.perform op := by
  cases alike with
  | set alike line =>
      simp only [Breakpoints.perform, Breakpoints.setLine, Breakpoints.inFile,
        Breakpoints.verifyFile, Path.key_eq_iff.mpr alike]
  | clear alike line =>
      simp only [Breakpoints.perform, Breakpoints.clearLine, Path.key_eq_iff.mpr alike]
  | clearFile alike =>
      simp only [Breakpoints.perform, Breakpoints.clearFile, Path.key_eq_iff.mpr alike]
  | verify alike => rfl

theorem history_alike {ops others : List Operation}
    (alike : List.Forall₂ Operation.Alike ops others) :
    Breakpoints.history others = Breakpoints.history ops := by
  rw [Breakpoints.history, Breakpoints.history, Trace.run, Trace.run]
  generalize ({ state := {} } : Trace Breakpoints Answer) = t
  induction alike generalizing t with
  | nil => rfl
  | cons first _ ih =>
      rw [List.foldl_cons, List.foldl_cons, ih, Trace.next, Trace.next, first.perform]

/-- The store and the list go through a history side by side. -/
theorem history_lists (ops : List Operation) :
    (Breakpoints.history ops).entries = (Listing.history ops).entries ∧
      (Breakpoints.history ops).state.Lists (Listing.history ops).state := by
  induction ops using List.reverseRecOn with
  | nil => exact ⟨rfl, List.nodup_nil, fun _ => rfl, rfl⟩
  | append_singleton ops op ih =>
      obtain ⟨answers, lists⟩ := ih
      obtain ⟨answer, lists⟩ := lists.perform op
      rw [Breakpoints.history, Listing.history, Trace.run, Trace.run, List.foldl_concat,
        List.foldl_concat]
      exact ⟨congrArg₂ (· ++ [·]) answers answer, lists⟩

theorem Listing.history_numbered (ops : List Operation) :
    ∃ n, (Listing.history ops).state.Numbered n ∧
      (Listing.history ops).entries.filterMap Answer.id? = List.range' 1 n := by
  refine Trace.run_invariant Listing.perform (P := fun t => ∃ n, t.state.Numbered n ∧
    t.entries.filterMap Answer.id? = List.range' 1 n)
    ?_ ?_ ops
  · exact ⟨0, ⟨rfl, List.Sublist.refl []⟩, rfl⟩
  rintro t op ⟨n, numbered, handedOut⟩
  obtain ⟨m, numbered, more⟩ := numbered.perform op
  refine ⟨n + m, numbered, ?_⟩
  have latest : [(t.state.perform op).2].filterMap Answer.id? = List.range' (n + 1) m := by
    rw [← more, List.filterMap_cons]
    cases (t.state.perform op).2.id? <;> rfl
  rw [Trace.next, List.filterMap_append, handedOut, latest, Nat.add_comm n 1,
    List.range'_append_1]

theorem history_listed (ops : List Operation) :
    Listed ops (Breakpoints.history ops) (Listing.history ops) := by
  obtain ⟨answers, lists⟩ := history_lists ops
  obtain ⟨n, numbered, handedOut⟩ := Listing.history_numbered ops
  have inFile (path : String) : (Breakpoints.history ops).state.inFile path =
      Listing.underKey (Path.key path) (Listing.history ops).state.entries := lists.underKey _
  exact {
    answers
    inFile
    stops := fun line => lists.stops
    handedOut := ⟨n, by rw [answers, handedOut]⟩
    left := by
      rw [answers, handedOut]
      exact numbered.left
    increasing := fun path => by
      have increasing := numbered.increasing (Path.key path)
      rwa [← inFile] at increasing
    apart := fun path other a here b there same => by
      rw [inFile] at here there
      exact numbered.apart (Listing.mem_underKey.mp here) (Listing.mem_underKey.mp there) same
    spelled := fun others alike => history_alike alike
    spelledFile := fun path other alike => by
      rw [Breakpoints.inFile, Path.key_eq_iff.mpr alike, Breakpoints.inFile] }

end Program

end DebugAdapter
