import DebugAdapter.Bench.Shell.Command
/-!
# Carrying scripts out

What the parts of scripts do. A shell that is left in the middle passes the rest of its script over;
one that has set the option for it ends with the first command whose failure nobody looks at.
-/

namespace DebugAdapter.Bench.Shell

open Act (change state)

namespace Runner

/-- A command has come to its end: the shell ends too if it must not fail and has failed. -/
def settle (r : Runner) (tested : Bool) (status : Nat) : Act Nat := do
  change fun s => { s with status }
  r.tend
  if !tested && status ≠ 0 && (← state).has 'e' then r.stop status
  return status

/-- Whether a loop is left after a part of it; the loops that are passed over are counted. -/
def leavesLoop : Act Bool := do
  match (← state).skip with
  | none => return false
  | some .returning => return true
  | some (.leaving n) =>
    change fun s => { s with skip := if n ≤ 1 then none else some (.leaving (n - 1)) }
    return true
  | some (.again n) =>
    change fun s => { s with skip := if n ≤ 1 then none else some (.again (n - 1)) }
    return 1 < n

/-- A part of a loop is carried out. -/
def inLoop {α : Type} (act : Act α) : Act α := do
  change fun s => { s with loops := s.loops + 1 }
  let a ← act
  change fun s => { s with loops := s.loops - 1 }
  return a

/-- How often a loop is gone through at most. -/
def loopBound : Nat := 1000000

/-- A loop with a condition, with the status of its body so far. -/
def whileLoop (r : Runner) (tested untilSuccess : Bool) (condition body : Script) :
    Nat → Nat → Act Nat
  | 0, status => pure status
  | fuel + 1, status => do
    let met ← r.run true false condition
    let begun := (← state).skip.isSome
    let returning := (← state).skip == some .returning
    if ← leavesLoop then return if returning then met else status
    if begun then r.whileLoop tested untilSuccess condition body fuel status
    else if (met == 0) == untilSuccess then return status
    else
      let status ← r.run tested false body
      if ← leavesLoop then return status
      r.whileLoop tested untilSuccess condition body fuel status

/-- A loop over words. -/
def forLoop (r : Runner) (tested : Bool) (name : String) (body : Script) :
    List String → Nat → Act Nat
  | [], status => pure status
  | w :: ws, _ => do
    r.assign name w
    let status ← r.run tested false body
    if ← leavesLoop then return status
    r.forLoop tested name body ws status

/-- The first case whose patterns match. -/
def firstCase (r : Runner) (text : String) :
    List (List Word × Script) → Act (Option Script)
  | [] => pure none
  | (patterns, body) :: rest => do
    if ← matchesAny patterns then return some body
    r.firstCase text rest
where
  matchesAny : List Word → Act Bool
    | [] => pure false
    | w :: ws => do
      if (← r.pattern w).holds text.toList then return true
      matchesAny ws

/-! ## Simple commands -/

/-- Assignments are made, one after the other. -/
def assigned (r : Runner) : List (String × Word) → Act (List (String × String))
  | [] => pure []
  | (name, w) :: rest => do
    let v ← r.assignedText w
    r.assign name v
    let others ← r.assigned rest
    return (name, v) :: others

/-- Parameters get their values from before back. -/
def putBack (before : List (String × String)) (values : List (String × String)) : Act Unit :=
  change fun s =>
    values.foldl (fun (s : State) (name, _) =>
      match before.lookup name with
      | some v => { s with values := (name, v) :: s.values.filter (·.1 ≠ name) }
      | none => s.unassign name) s

/-- The commands whose words may be assignments. -/
def markers : List String := ["export", "readonly", "local"]

/-- The fields that the words of a command come to. -/
def wordsOf (r : Runner) (words : List Word) : Act (List String) := do
  let isMarker := ((words.head?.bind Word.literal?).map markers.contains) == some true
  let fields ← words.mapM fun w => do
    match if isMarker then w.assignment? else none with
    | some (name, value) => return [name ++ "=" ++ (← r.assignedText value)]
    | none => r.fields w
  return fields.flatten

/-- A command is shown before it is carried out, if that is wanted. -/
def trace (values : List (String × String)) (words : List String) : Act Unit := do
  if (← state).has 'x' then
    let texts := values.map (fun (n, v) => n ++ "=" ++ v) ++ words
    Act.mutter ("+ " ++ " ".intercalate texts)

/-- A shell of its own, as a program that is called under a name. -/
def shellProgram (r : Runner) (name : String) (words : List String) : Act Nat := do
  let number ← Act.self
  fun s _ =>
  let fresh : State :=
    { name, number, values := s.environment.reverse, exported := s.environment.map (·.1)
      streams := s.streams, directory := s.directory }
  let runWith (fresh : State) (text : Act String) : Process :=
    (do r.runText true (← text) : Act Nat) fresh fun status s => r.leave status s
  let rec start (fresh : State) : List String → Process
    | "-c" :: text :: words =>
      runWith { fresh with name := words.headD name, arguments := words.drop 1 } (pure text)
    | w :: rest =>
      if w.startsWith "-" then
        match w.toList.drop 1 with
        | letters =>
          let options := letters.filter (namedOptions.map (·.2)).contains
          let fresh := { fresh with options := options ++ fresh.options }
          if letters.contains 'c' then
            match rest with
            | text :: words =>
              runWith { fresh with name := words.headD name, arguments := words.drop 1 } (pure text)
            | [] => (do
              Act.mutter (name ++ ": 0: -c requires an argument")
              Act.ending 2 : Act Nat) fresh fun status _ => .ended status
          else start fresh rest
      else
        (do
          match ← Act.load w with
          | some bs => r.runText false (textOf bs)
          | none =>
            Act.mutter (name ++ ": 0: cannot open " ++ w ++ ": No such file")
            Act.ending 2 : Act Nat)
          { fresh with name := w, arguments := rest } fun status s => r.leave status s
    | [] => runWith fresh do return textOf (← Program.wholeInput)
  start fresh words

mutual

/-- A program is carried out in the place of this process. A program may call another one; `fuel` is
a bound on that. -/
def become (r : Runner) : Nat → String → List String → Act Nat
  | 0, _, _ => pure 126
  | fuel + 1, name, words => do
    match (← state).lookUp name with
    | .found "env" => r.withEnvironment fuel words
    | .found base =>
      if shells.contains base then r.shellProgram name words
      else
        match Program.find? base with
        | some act => act words
        | none => return 127
    | .missing =>
      Act.complain (name ++ ": not found")
      return 127
    | .forbidden =>
      Act.complain (name ++ ": Permission denied")
      return 126
    | .hidden =>
      Act.complain (name ++ ": Permission denied")
      return 127

/-- A program is carried out with other values of parameters. -/
def withEnvironment (r : Runner) : Nat → List String → Act Nat
  | 0, _ => pure 126
  | fuel + 1, words => do
    match words with
    | [] =>
      let s ← state
      Program.say (String.join (s.environment.map fun (n, v) => n ++ "=" ++ v ++ "\n"))
      return 0
    | "-i" :: rest =>
      change fun s => { s with exported := [] }
      r.withEnvironment fuel rest
    | w :: rest =>
      match splitAssignment? w.toList with
      | some (name, value) =>
        change fun s =>
          { s.assign name (String.ofList value) with exported := name :: s.exported }
        r.withEnvironment fuel rest
      | none =>
        match (← state).lookUp w with
        | .found _ => r.become fuel w rest
        | .missing =>
          Act.mutter ("env: '" ++ w ++ "': No such file or directory")
          return 127
        | .forbidden | .hidden =>
          Act.mutter ("env: '" ++ w ++ "': Permission denied")
          return 126

end

/-- How deep programs call each other. -/
def callBound : Nat := 100

/-- A program is called in a process of its own, unless it is the last thing to do. -/
def callProgram (r : Runner) (last : Bool) (values : List (String × String)) (name : String)
    (words : List String) : Act Nat := do
  let s ← state
  match s.lookUp name with
  | .missing =>
    Act.complain (name ++ ": not found")
    return 127
  | .forbidden =>
    Act.complain (name ++ ": Permission denied")
    return 126
  | .hidden =>
    Act.complain (name ++ ": Permission denied")
    return 127
  | .found _ =>
    let child := values.foldl (fun (s : State) (n, v) =>
      { s.assign n v with exported := n :: s.exported }) s.forked
    if last && s.traps.isEmpty then
      change fun _ => child
      Act.hold
      Act.ending (← r.become callBound name words)
    else
      let number ← Act.start
        (fun _ => r.become callBound name words child fun status _ => .ended status) child.held
      finish number

/-- A function is called. -/
def callFunction (r : Runner) (tested : Bool) (body : Script) (words : List String) : Act Nat := do
  let s ← state
  change fun s =>
    { s with arguments := words, calls := s.calls + 1, loops := 0, hidden := [] :: s.hidden }
  let status ← r.run tested false body
  change fun now =>
    let restored := (now.hidden.headD []).foldl (fun (t : State) (name, value) =>
      match value with
      | some v => { t with values := (name, v) :: t.values.filter (·.1 ≠ name) }
      | none => t.unassign name) now
    { restored with
      arguments := s.arguments, calls := s.calls, loops := s.loops, hidden := s.hidden
      skip := if now.skip = some .returning then none else now.skip }
  return status

/-- A command of the shell itself is called; its complaint ends a shell that depends on it. -/
def callOwn (r : Runner) (special : Bool) (name : String) (words : List String) : Act Nat := do
  let outcome ← Act.under (some name) do
    match ← r.ownCommand name words with
    | .ok status => return Except.ok status
    | .error text =>
      Act.complain text
      return Except.error ()
  match outcome with
  | .ok status => return status
  | .error () => if special then r.stop 2 else return 2

/-- A command is called by its name, with values of its own for some parameters; `plain` says that
functions do not count. -/
def call (r : Runner) (tested last plain : Bool) (before values : List (String × String)) :
    List String → Act Nat
  | [] => pure 0
  | name :: words => do
    let s ← state
    if specialCommands.contains name && !plain then r.callOwn true name words
    else
      let status ←
        match if plain then none else s.functions.lookup name with
        | some body => r.callFunction tested body words
        | none =>
          if isOwn name then r.callOwn false name words
          else r.callProgram last values name words
      putBack before values
      return status

/-- A command behind `command`, which passes functions over. -/
def callPlain (r : Runner) (tested last : Bool) (before values : List (String × String))
    (words : List String) : Act Nat := do
  match words with
  | "-v" :: names =>
    match ← describeAll true names with
    | .ok status => return status
    | .error _ => return 127
  | "-V" :: names =>
    match ← describeAll false names with
    | .ok status => return status
    | .error _ => return 127
  | "-p" :: rest => r.call tested last true before values rest
  | rest => r.call tested last true before values rest

/-- A program takes the place of the shell; without one only the redirections stay. -/
def replace (r : Runner) (redirections : List Redirection) (words : List String) : Act Nat := do
  match ← r.redirect redirections with
  | some flaw => r.fail flaw
  | none =>
    match words with
    | [] =>
      Act.hold
      return 0
    | name :: words =>
      change fun s => { s with saved := [], command := some "exec" }
      Act.hold
      match (← state).lookUp name with
      | .found _ => Act.ending (← r.become callBound name words)
      | .missing =>
        Act.complain (name ++ ": not found")
        r.stop 127
      | .forbidden =>
        Act.complain (name ++ ": Permission denied")
        r.stop 126
      | .hidden =>
        Act.complain (name ++ ": Permission denied")
        r.stop 127

/-- A simple command is carried out. -/
def simple (r : Runner) (tested last : Bool) (assignments : List (String × Word))
    (words : List Word) (redirections : List Redirection) : Act Nat := do
  change fun s => { s with outputStatus := none }
  let fields ← r.wordsOf words
  let before := (← state).values
  match fields with
  | "exec" :: rest =>
    let values ← r.assigned assignments
    trace values fields
    r.replace redirections rest
  | _ =>
    r.redirected redirections fun flaw => do
      let isSpecial := (fields.head?.map specialCommands.contains) == some true
      match flaw with
      | some text =>
        Act.complain text
        if isSpecial then r.stop 2 else return 2
      | none =>
        let values ← r.assigned assignments
        trace values fields
        match fields with
        | [] => return (← state).outputStatus.getD 0
        | "command" :: rest => r.callPlain tested last before values rest
        | _ => r.call tested (last && redirections.isEmpty) false before values fields

/-! ## Scripts -/

/-- The stages of a pipeline are started; the first reads what `source` says. -/
def startStages (r : Runner) (source : Option Nat) : List Script → Act (List Nat)
  | [] => pure []
  | [only] => do
    let s ← state
    let child := s.forked.withStream 0 ((source.map Opened.reading).or (s.stream? 0))
    return [← r.fork child only]
  | part :: rest => do
    let s ← state
    let pipe ← Act.pipe []
    let child := (s.forked.withStream 0 ((source.map Opened.reading).or (s.stream? 0))).withStream 1
      (some (.writing pipe))
    let number ← Act.holding [.reading pipe] do
      let number ← r.fork child part
      let others ← r.startStages (some pipe) rest
      return number :: others
    return number

/-- A script is carried out. -/
def step (r : Runner) (tested last : Bool) (script : Script) : Act Nat := do
  if (← state).has 'n' then return (← state).status
  match script with
  | .nothing => do return (← state).status
  | .simple line assignments words redirections => do
    change fun s => { s with line }
    r.settle tested (← r.simple tested last assignments words redirections)
  | .pipeline parts => do
    let numbers ← r.startStages none parts
    let statuses ← numbers.mapM finish
    r.settle tested (statuses.getLastD 0)
  | .sequence first next => do
    let status ← r.run tested false first
    if (← state).skip.isSome then return status
    r.run tested last next
  | .both first next => do
    let status ← r.run true false first
    if status ≠ 0 || (← state).skip.isSome then return status
    r.run tested last next
  | .either first next => do
    let status ← r.run true false first
    if status = 0 || (← state).skip.isSome then return status
    r.run tested last next
  | .negated body => do
    let status ← r.run true false body
    if (← state).skip.isSome then return status
    let status := if status = 0 then 1 else 0
    change fun s => { s with status }
    return status
  | .background body => do
    let s ← state
    let child := s.forked.withStream 0 (some .nothing)
    let number ← Act.start
      (fun _ => .handle 2 .ignored fun _ => .handle 3 .ignored fun _ =>
        r.run false true body child fun status s => r.leave status s)
      child.held
    change fun s => { s with beside := some number, jobs := s.jobs ++ [number] }
    r.settle true 0
  | .group line true body redirections => do
    change fun s => { s with line }
    let s ← state
    if last && s.traps.isEmpty then
      change fun s => s.forked
      match ← r.redirect redirections with
      | some flaw => r.fail flaw
      | none =>
        Act.hold
        let status ← r.run tested true body
        r.stop status
    else
      let child := s.forked
      let number ← Act.start
        (fun _ => (do
          match ← r.redirect redirections with
          | some flaw => r.fail flaw
          | none =>
            Act.hold
            r.run tested true body : Act Nat) child fun status s => r.leave status s)
        child.held
      r.settle tested (← finish number)
  | .group line false body redirections => do
    change fun s => { s with line }
    r.redirected redirections fun flaw => do
      match flaw with
      | some text =>
        Act.complain text
        r.settle tested 2
      | none => r.run tested false body
  | .each line name words body => do
    change fun s => { s with line }
    let fields ←
      match words with
      | some words => do
        let fields ← words.mapM r.fields
        pure fields.flatten
      | none => do pure (← state).arguments
    let status ← inLoop (r.forLoop tested name body fields 0)
    change fun s => { s with status }
    return status
  | .choice condition yes no => do
    let met ← r.run true false condition
    if (← state).skip.isSome then return met
    if met = 0 then r.run tested last yes
    else
      match no with
      | .nothing =>
        change fun s => { s with status := 0 }
        return 0
      | no => r.run tested last no
  | .loop untilSuccess condition body => do
    let status ← inLoop (r.whileLoop tested untilSuccess condition body loopBound 0)
    change fun s => { s with status }
    return status
  | .select line word cases => do
    change fun s => { s with line }
    let text ← r.text word
    match ← r.firstCase text cases with
    | some .nothing | none =>
      change fun s => { s with status := 0 }
      return 0
    | some body => r.run tested last body
  | .function _ name body => do
    change fun s =>
      { s with functions := (name, body) :: s.functions.filter (·.1 ≠ name), status := 0 }
    return 0

/-- The shell ends, after what has been laid down for its end. -/
def endWith (r : Runner) (status : Nat) (s : State) : Process :=
  match s.traps.lookup 0 with
  | none => .ended status
  | some text =>
    let s := { s with traps := s.traps.filter (·.1 ≠ 0), skip := none, status, command := none }
    r.runText false text s fun _ _ => .ended status

end Runner

mutual

/-- A script is carried out; scripts are nested at most `fuel` deep. -/
def runWith : Nat → Bool → Bool → Script → Act Nat
  | 0, _, _, _ => Act.ending 2
  | fuel + 1, tested, last, script =>
    Runner.step { run := runWith fuel, leave := leaveWith fuel } tested last script

/-- A shell ends. -/
def leaveWith : Nat → Nat → State → Process
  | 0, status, _ => .ended status
  | fuel + 1, status, s =>
    Runner.endWith { run := runWith fuel, leave := leaveWith fuel } status s

end

/-- How deep scripts may be nested. -/
def depth : Nat := 100000

/-- The shell. -/
def Runner.standard : Runner := { run := runWith depth, leave := leaveWith depth }

end DebugAdapter.Bench.Shell
