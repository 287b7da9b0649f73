import DebugAdapter.Path
/-!
# Breakpoints

The breakpoints of one session: lines of source files, data, and instructions. The lines of a file
are kept in the order in which they were set, under the file's key; each gets a number of its own,
and no number is given twice.
-/

namespace DebugAdapter.Program

/-- A breakpoint on a line. -/
structure LineBreakpoint where
  id : Nat
  line : Int
  verified : Bool
deriving DecidableEq, Repr, Inhabited

/-- Which accesses to data stop the program. -/
inductive DataAccess where
  | read
  | write
  | readWrite
deriving DecidableEq, Repr, Inhabited

namespace DataAccess

/-- Both accesses together. -/
def widen (a b : DataAccess) : DataAccess := if a = b then a else readWrite

/-- How an access is written. -/
def text : DataAccess → String
  | read => "read"
  | write => "write"
  | readWrite => "read write"

/-- The access that a text names. -/
def ofText? (s : String) : Option DataAccess :=
  match s with
  | "read" => some read
  | "write" => some write
  | "readWrite" | "read write" => some readWrite
  | _ => none

/-- How a text that names no access is reported. -/
def invalidMessage (s : String) : String := "invalid data access type " ++ s

end DataAccess

/-- The breakpoints of a session. -/
structure Breakpoints where
  /-- The line breakpoints of each file, under its key; a file that has been cleared has no entry. -/
  files : List (String × List LineBreakpoint) := []
  nextId : Nat := 1
  data : List (String × DataAccess) := []
  instructions : List Int := []
deriving DecidableEq, Repr, Inhabited

namespace Breakpoints

/-- A value for a key, in the place of the one it had. -/
def replaceValue {α : Type} (key : String) (value : α) : List (String × α) → List (String × α)
  | [] => [(key, value)]
  | (k, a) :: rest =>
    if k = key then (k, value) :: rest else (k, a) :: replaceValue key value rest

/-- The line breakpoints of a file, in the order in which they were set. -/
def inFile (bs : Breakpoints) (path : String) : List LineBreakpoint :=
  (bs.files.lookup (Path.key path)).getD []

/-- All line breakpoints, with the keys of their files. -/
def lines (bs : Breakpoints) : List (String × LineBreakpoint) :=
  bs.files.flatMap fun (file, bps) => bps.map (file, ·)

/-- The line breakpoints of a file are checked. The interpreter cannot check a line, so they stay as
they are. -/
def verifyFile (bs : Breakpoints) (_path : String) : Breakpoints := bs

/-- One more line breakpoint, not verified. -/
def setLine (bs : Breakpoints) (path : String) (line : Int) : LineBreakpoint × Breakpoints :=
  let bp : LineBreakpoint := { id := bs.nextId, line, verified := false }
  let files := replaceValue (Path.key path) (bs.inFile path ++ [bp]) bs.files
  (bp, { bs with files, nextId := bs.nextId + 1 }.verifyFile path)

/-- Without the first breakpoint on a line of a file, which is also returned. -/
def clearLine (bs : Breakpoints) (path : String) (line : Int) :
    Option LineBreakpoint × Breakpoints :=
  match bs.files.lookup (Path.key path) with
  | none => (none, bs)
  | some bps =>
    match bps.find? (·.line = line) with
    | none => (none, bs)
    | some bp =>
      let files := replaceValue (Path.key path) (bps.eraseP (·.line = line)) bs.files
      (some bp, { bs with files })

/-- Without the line breakpoints of a file. -/
def clearFile (bs : Breakpoints) (path : String) : Breakpoints :=
  { bs with files := bs.files.filter (·.1 ≠ Path.key path) }

/-- Whether a breakpoint is set on a line of any file; unknown places and line 0 have none. -/
def stopsAtLine (bs : Breakpoints) (line : Option Int) : Bool :=
  match line with
  | none => false
  | some line => line ≠ 0 && bs.files.any (·.2.any (·.line = line))

theorem stopsAtLine_some_iff {bs : Breakpoints} {line : Int} :
    bs.stopsAtLine (some line) = true ↔ line ≠ 0 ∧ ∃ e ∈ bs.lines, e.2.line = line := by
  simp only [stopsAtLine, lines, Bool.and_eq_true, decide_eq_true_eq, List.any_eq_true,
    List.mem_flatMap, List.mem_map]
  refine and_congr_right fun _ => ⟨?_, ?_⟩
  · rintro ⟨entry, member, bp, inFile, here⟩
    exact ⟨(entry.1, bp), ⟨entry, member, bp, inFile, rfl⟩, here⟩
  · rintro ⟨_, ⟨entry, member, bp, inFile, rfl⟩, here⟩
    exact ⟨entry, member, bp, inFile, here⟩

/-- The access that stops the program at an address. -/
def dataAccess? (bs : Breakpoints) (address : String) : Option DataAccess := bs.data.lookup address

/-- One more data breakpoint; several for one address widen each other. -/
def setData (bs : Breakpoints) (address : String) (access : DataAccess) : Breakpoints :=
  let access :=
    match bs.dataAccess? address with
    | some a => a.widen access
    | none => access
  { bs with data := replaceValue address access bs.data }

/-- Without data breakpoints. -/
def clearData (bs : Breakpoints) : Breakpoints := { bs with data := [] }

/-- Whether a breakpoint is set on an instruction. -/
def stopsAtInstruction (bs : Breakpoints) (address : Int) : Bool := bs.instructions.contains address

/-- One more breakpoint on an instruction. -/
def setInstruction (bs : Breakpoints) (address : Int) : Breakpoints :=
  if bs.stopsAtInstruction address then bs
  else { bs with instructions := bs.instructions ++ [address] }

/-- Without breakpoints on instructions. -/
def clearInstructions (bs : Breakpoints) : Breakpoints := { bs with instructions := [] }

end Breakpoints

end DebugAdapter.Program
