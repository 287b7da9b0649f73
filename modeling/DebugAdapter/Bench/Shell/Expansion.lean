import DebugAdapter.Bench.Shell.Act
import DebugAdapter.Bench.Shell.Arithmetic
import DebugAdapter.Bench.Shell.Pattern
/-!
# Expansion of words

What parameters, outputs of scripts and expressions in a word come to, and how the result is divided
into fields. Only what has been replaced and was not quoted is divided.
-/

namespace DebugAdapter.Bench.Shell

open Act (change state)

/-- A part of an expanded word. -/
inductive Bit where
  | char (c : Char) (quoted : Bool) (divisible : Bool)
  /-- Something that was quoted stands here, even if it is empty. -/
  | present
  /-- One field ends and another begins. -/
  | border
deriving DecidableEq, Repr, Inhabited

namespace Bit

/-- The bits of a text. -/
def ofText (quoted divisible : Bool) (s : String) : List Bit :=
  s.toList.map fun c => .char c quoted divisible

/-- The bits of something that has been replaced. -/
def replaced (quoted : Bool) (s : String) : List Bit :=
  if quoted then .present :: ofText true false s else ofText false true s

/-- The characters among some bits; a border counts as a space. -/
def marks (bits : List Bit) : List Mark :=
  bits.filterMap fun b =>
    match b with
    | .char c quoted _ => some ⟨c, quoted⟩
    | .border => some ⟨' ', true⟩
    | .present => none

/-- The text of some bits. -/
def text (bits : List Bit) : String := String.ofList ((marks bits).map (·.char))

/-- Texts with borders between them. -/
def bordered (quoted : Bool) : List String → List Bit
  | [] => []
  | [s] => replaced quoted s
  | s :: rest => replaced quoted s ++ .border :: bordered quoted rest

end Bit

/-- How far the division into fields has come. -/
structure Division where
  /-- The fields that are complete, the last one first. -/
  fields : List String := []
  /-- The characters of the present field, the last one first. -/
  seen : List Char := []
  /-- Whether there is a field here at all. -/
  begun : Bool := false
  /-- Whether blanks have just ended a field; then one more separator belongs to them. -/
  blank : Bool := false

namespace Division

/-- The present field ends, if there is one. -/
def close (d : Division) : Division :=
  if d.begun then
    { d with fields := String.ofList d.seen.reverse :: d.fields, seen := [], begun := false }
  else d

/-- One more bit; `separators` are the characters between fields. -/
def add (separators : List Char) (d : Division) : Bit → Division
  | .present => { d with begun := true }
  | .border => { d.close with blank := false }
  | .char c _ divisible =>
    if divisible && separators.contains c then
      if c = ' ' ∨ c = '\t' ∨ c = '\n' then { d.close with blank := d.blank || d.begun }
      else if d.begun then { d.close with blank := false }
      else if d.blank then { d with blank := false }
      else { d with fields := "" :: d.fields }
    else { d with seen := c :: d.seen, begun := true, blank := false }

end Division

/-- The fields of an expanded word. -/
def fieldsOf (separators : List Char) (bits : List Bit) : List String :=
  (bits.foldl (Division.add separators) {}).close.fields.reverse

/-- The characters between fields. -/
def State.separators (s : State) : List Char := ((s.value? "IFS").getD " \t\n").toList

/-- The value of a parameter, if it has one. -/
def State.parameter? (s : State) (name : String) : Option String :=
  match name with
  | "?" => some (toString s.status)
  | "$" => some (toString s.number)
  | "!" => s.beside.map toString
  | "#" => some (toString s.arguments.length)
  | "-" => some (String.ofList s.options)
  | "0" => some s.name
  | "@" | "*" => if s.arguments.isEmpty then none else some (" ".intercalate s.arguments)
  | _ =>
    match name.toNat? with
    | some n => s.arguments[n - 1]?
    | none => s.value? name

/-- A parameter gets a value, unless it must not change. -/
def Runner.assign (r : Runner) (name value : String) : Act Unit := do
  if (← state).readOnly.contains name then r.fail (name ++ ": is read only")
  change fun s => s.assign name value

/-- What a script prints, without line ends behind it. -/
def Runner.outputOf (r : Runner) (script : Script) : Act String := do
  let s ← state
  let pipe ← Act.pipe []
  let child := (({ s with saved := [] } : State).withStream 1 (some (.writing pipe)))
  let child := { child with traps := [], jobs := [] }
  let (bs, fate) ← Act.holding [.reading pipe] do
    let number ← Act.start
      (fun _ => r.run false true script child fun status s => r.leave status s) child.held
    let bs ← Act.readAll (.reading pipe) 100000 []
    return (bs, ← Act.await number false)
  let status := (fate.map Fate.status).getD 0
  change fun s => { s with status, outputStatus := some status }
  let text := (textOf (bs.filter (· ≠ 0))).toList
  return String.ofList (text.reverse.dropWhile (· = '\n')).reverse

/-- The value of an expression. -/
def Runner.evaluate (r : Runner) (text : String) : Act Int := do
  let s ← state
  match Arithmetic.evaluate s.parameter? text with
  | .error (.expression flaw) =>
    r.fail ("arithmetic expression: " ++ flaw ++ ": \"" ++ text ++ "\"")
  | .error (.value v) => r.fail ("Illegal number: " ++ v)
  | .ok (n, given) => do
    given.forM fun (name, n) => r.assign name (toString n)
    return n

/-- All arguments, or their number as the parameter says. -/
def allArguments (s : State) (quoted : Bool) (name : String) : List Bit :=
  if name = "*" && quoted then
    let between :=
      match s.value? "IFS" with
      | some ifs => String.ofList (ifs.toList.take 1)
      | none => " "
    Bit.replaced true (between.intercalate s.arguments)
  else Bit.bordered quoted s.arguments

/-- A word at whose start a tilde stands for the home directory. -/
def atHome (s : State) : Word → Word
  | .plain ('~' :: rest) :: more =>
    match s.value? "HOME", rest with
    | some home, [] => if more.isEmpty then .quoted home.toList :: more else .plain ['~'] :: more
    | some home, '/' :: rest => .quoted home.toList :: .plain ('/' :: rest) :: more
    | _, rest => .plain ('~' :: rest) :: more
  | w => w

mutual

/-- The bits that a word comes to. A word is nested at most `fuel` deep. -/
def Runner.bits (r : Runner) : Nat → Word → Act (List Bit)
  | 0, _ => pure []
  | fuel + 1, w => do
    let parts ← w.mapM (r.piece fuel)
    return parts.flatten

/-- The bits that a part of a word comes to. -/
def Runner.piece (r : Runner) : Nat → Piece → Act (List Bit)
  | 0, _ => pure []
  | _ + 1, .plain cs => return Bit.ofText false false (String.ofList cs)
  | _ + 1, .quoted cs => return .present :: Bit.ofText true false (String.ofList cs)
  | _ + 1, .output quoted script => return Bit.replaced quoted (← r.outputOf script)
  | fuel + 1, .arithmetic quoted expression => do
    let text := Bit.text (← r.bits fuel expression)
    return Bit.replaced quoted (toString (← r.evaluate text))
  | fuel + 1, .parameter quoted name use => do
    let s ← state
    let value := s.parameter? name
    let isList := name = "@" || name = "*"
    let shown : List Bit :=
      if isList then allArguments s quoted name
      else
        match value with
        | some v => Bit.replaced quoted v
        | none => if quoted then [.present] else []
    let isSet (onEmpty : Bool) : Bool :=
      match value with
      | some v => !(onEmpty && v.isEmpty)
      | none => false
    match use with
    | .value =>
      if value.isNone && s.has 'u' && !isList then r.fail (name ++ ": parameter not set")
      return shown
    | .length =>
      if value.isNone && s.has 'u' && !isList then r.fail (name ++ ": parameter not set")
      return Bit.replaced quoted (toString (value.getD "").length)
    | .orElse onEmpty w => if isSet onEmpty then return shown else r.bits fuel w
    | .instead onEmpty w =>
      if isSet onEmpty then r.bits fuel w else return if quoted then [.present] else []
    | .orAssign onEmpty w =>
      if isSet onEmpty then return shown
      if !isName name.toList then r.fail (name ++ ": bad variable name")
      let text := Bit.text (← r.bits fuel w)
      r.assign name text
      return Bit.replaced quoted text
    | .orFail onEmpty w =>
      if isSet onEmpty then return shown
      let text := Bit.text (← r.bits fuel w)
      let usual := if onEmpty then "parameter not set or null" else "parameter not set"
      r.fail (name ++ ": " ++ if w.isEmpty then usual else text)
    | .withoutEnd longest w =>
      if value.isNone && s.has 'u' && !isList then r.fail (name ++ ": parameter not set")
      let pattern := Bit.marks (← r.bits fuel w)
      let left := Pattern.trimEnd longest pattern (value.getD "").toList
      return Bit.replaced quoted (String.ofList left)
    | .withoutStart longest w =>
      if value.isNone && s.has 'u' && !isList then r.fail (name ++ ": parameter not set")
      let pattern := Bit.marks (← r.bits fuel w)
      let left := Pattern.trimStart longest pattern (value.getD "").toList
      return Bit.replaced quoted (String.ofList left)
    | .unknown => r.fail "Bad substitution"

end

/-- How deep words may be nested. -/
def nesting : Nat := 1000

/-- The fields that a word comes to. -/
def Runner.fields (r : Runner) (w : Word) : Act (List String) := do
  let bits ← r.bits nesting (atHome (← state) w)
  return fieldsOf (← state).separators bits

/-- The text that a word comes to when it is not divided. -/
def Runner.text (r : Runner) (w : Word) : Act String := do
  return Bit.text (← r.bits nesting (atHome (← state) w))

/-- A word in an assignment: a tilde counts behind a colon as well. -/
def withTildes (home : Option String) : Word → Word
  | [] => []
  | .plain cs :: rest =>
    let parts := (String.ofList cs).splitOn ":~"
    let atEnd (last : Bool) (part : String) : Bool :=
      part.startsWith "/" || (part.isEmpty && last && rest.isEmpty)
    let expanded := parts.zipIdx.map fun (part, i) =>
      if i = 0 then part
      else
        match home with
        | some h => if atEnd (i + 1 = parts.length) part then ":" ++ h ++ part else ":~" ++ part
        | none => ":~" ++ part
    .plain (String.join expanded).toList :: withTildes home rest
  | p :: rest => p :: withTildes home rest

/-- The text that a word in an assignment comes to. -/
def Runner.assignedText (r : Runner) (w : Word) : Act String := do
  let s ← state
  return Bit.text (← r.bits nesting (withTildes (s.value? "HOME") (atHome s w)))

/-- The pattern that a word comes to. -/
def Runner.pattern (r : Runner) (w : Word) : Act Pattern := do
  return Bit.marks (← r.bits nesting w)

end DebugAdapter.Bench.Shell
