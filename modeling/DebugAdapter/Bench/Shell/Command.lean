import DebugAdapter.Bench.Shell.Expansion
import DebugAdapter.Bench.Shell.Program
import DebugAdapter.Bench.Shell.Signal
/-!
# Commands of the shell

The commands that a shell carries out itself. A command comes to a status, or to a complaint; then
its status is two, and if the shell depends on it, the shell ends.
-/

namespace DebugAdapter.Bench.Shell

open Act (change state)

/-- What a command comes to: a status, or what is complained about. -/
abbrev Outcome := Except String Nat

/-! ## Scripts in texts -/

/-- The lines of a text are carried out, with the status so far. Each round uses a line up, so
`fuel` need only exceed their number. -/
def Runner.lines (r : Runner) (last : Bool) : Nat → Reading → Nat → Act Nat
  | 0, _, status => pure status
  | fuel + 1, reading, status => do
    let s ← state
    match Reader.line.run { reading with nextDocument := s.nextDocument, documents := [] } with
    | .error f =>
      Act.complainAt f.line f.text
      r.stop 2
    | .ok (none, _) => return status
    | .ok (some script, reading) =>
      change fun s =>
        { s with
          documents := reading.documents ++ s.documents, nextDocument := reading.nextDocument }
      let atEnd :=
        match reading.pushed with
        | some .finish => true
        | _ => false
      let status ← r.run false (last && atEnd) script
      if (← state).skip.isSome then return status
      r.lines last fuel reading status

/-- A text is carried out. -/
def Runner.runText (r : Runner) (last : Bool) (text : String) : Act Nat :=
  r.lines last (text.length + 2) { rest := text.toList } 0

/-- What has been laid down about the signals that have come in is done. -/
def Runner.tend (r : Runner) : Act Unit := do
  let signals ← Act.kept
  signals.forM fun n => do
    match (← state).traps.lookup n with
    | some text => do
      let before := (← state).status
      let _ ← r.runText false text
      change fun s => { s with status := before }
    | none => pure ()

/-! ## Redirections -/

/-- Whether a file can be made. -/
def canCreate (file : String) : Bool :=
  !file.isEmpty && Program.directories.contains (Program.directoryName file)

/-- The stream that a file stands for. -/
def streamNamed? (file : String) : Option Nat :=
  if file = "/dev/stdin" then some 0
  else if file = "/dev/stdout" then some 1
  else if file = "/dev/stderr" then some 2
  else if file.startsWith "/dev/fd/" then (String.ofList (file.toList.drop 8)).toNat?
  else none

/-- One redirection; a flaw is what is complained about. -/
def Runner.redirectOne (r : Runner) : Redirection → Act (Option String)
  | .mk n target => do
    let lead (o : Opened) : Act (Option String) := do
      change fun s => s.withStream n (some o)
      return none
    match target with
    | .document number =>
      let w := ((← state).documents.lookup number).getD []
      let text := Bit.text (← r.bits nesting w)
      lead (.reading (← Act.pipe (octetsOf text)))
    | .read file =>
      let file ← r.text file
      match streamNamed? file with
      | some m => lead (((← state).stream? m).getD .nothing)
      | none =>
        if file = "/dev/null" then lead .nothing
        else
          match ← Act.load file with
          | some bs => lead (.reading (← Act.pipe bs))
          | none => return some ("cannot open " ++ file ++ ": No such file")
    | .write append file =>
      let file ← r.text file
      match streamNamed? file with
      | some m => lead (((← state).stream? m).getD .nothing)
      | none =>
        if file = "/dev/null" then lead .nothing
        else if Program.directories.contains file then
          return some ("cannot create " ++ file ++ ": Is a directory")
        else if !canCreate file then
          return some ("cannot create " ++ file ++ ": Directory nonexistent")
        else
          let before ← if append then Act.load file else pure none
          Act.store file (some (before.getD []))
          lead (.file (String.ofList (Act.fileKey file.toList)))
    | .stream w =>
      let text ← r.text w
      if text = "-" then
        change fun s => s.withStream n none
        return none
      match text.toNat? with
      | some m =>
        if 9 < m then r.fail "Syntax error: Bad fd number"
        match (← state).stream? m with
        | some o => lead o
        | none => return some (toString m ++ ": Bad file descriptor")
      | none => r.fail "Syntax error: Bad fd number"

/-- Redirections up to the first flaw. -/
def Runner.redirect (r : Runner) : List Redirection → Act (Option String)
  | [] => pure none
  | d :: rest => do
    match ← r.redirectOne d with
    | some flaw => return some flaw
    | none => r.redirect rest

/-- Something is done while redirections hold; it is told the flaw of a redirection. -/
def Runner.redirected {α : Type} (r : Runner) (redirections : List Redirection)
    (act : Option String → Act α) : Act α := do
  if redirections.isEmpty then act none
  else
    let s ← state
    change fun s => { s with saved := s.streams :: s.saved }
    let flaw ← r.redirect redirections
    Act.hold
    let a ← act flaw
    change fun now => { now with streams := s.streams, saved := s.saved }
    Act.hold
    return a

/-! ## Processes -/

/-- What a shell in a process of its own begins with. -/
def State.forked (s : State) : State :=
  { s with saved := [], jobs := [], traps := s.traps.filter (·.2.isEmpty) }

/-- A process of the shell in which a script is carried out. -/
def Runner.fork (r : Runner) (child : State) (script : Script) : Act Nat :=
  Act.start (fun _ => r.run false true script child fun status s => r.leave status s) child.held

/-- The end of a process is awaited; if a signal has ended it, that is remarked. -/
def Runner.finish (number : Nat) : Act Nat := do
  match ← Act.await number false with
  | some fate =>
    match fate with
    | .signalled n =>
      match Signal.remark? n with
      | some text => Act.mutter text
      | none => pure ()
    | .exited _ => pure ()
    return fate.status
  | none => return 127

/-! ## Commands -/

/-- The greatest number that a command takes. -/
def greatestNumeral : Int := 2147483647

/-- The number that a word stands for, which must not be negative. -/
def numeral (s : String) : Except String Nat :=
  match Arithmetic.decimal? s with
  | some n => if 0 ≤ n && n ≤ greatestNumeral then .ok n.toNat else .error ("Illegal number: " ++ s)
  | none => .error ("Illegal number: " ++ s)

/-- A text is written to the output; if that cannot be done, the command fails. -/
def printing (name text : String) (status : Nat) : Act Outcome := do
  match ← Act.write 1 (octetsOf text) with
  | .written => return .ok status
  | _ =>
    Act.complain (name ++ ": I/O error")
    return .ok 1

/-- The loops are left or begun anew, as many as the word says. -/
def leaveLoops (again : Bool) (words : List String) : Act Outcome := do
  match words with
  | w :: _ =>
    match numeral w with
    | .error e => return .error e
    | .ok n => if n = 0 then return .error ("Illegal number: " ++ w) else skip n
  | [] => skip 1
where
  skip (n : Nat) : Act Outcome := do
    let s ← state
    if 0 < s.loops then
      let n := min n s.loops
      change fun s => { s with skip := some (if again then .again n else .leaving n) }
    return .ok 0

/-- The shell ends. -/
def Runner.exit (r : Runner) (words : List String) : Act Outcome := do
  match words with
  | [] => r.stop (← state).status
  | w :: _ =>
    match numeral w with
    | .ok n => r.stop (n % 256)
    | .error e => return .error e

/-- A function or a script is left. -/
def leaveFunction (words : List String) : Act Outcome := do
  let status ←
    match words with
    | [] => do pure (Except.ok (← state).status)
    | w :: _ => pure (numeral w)
  match status with
  | .error e => return .error e
  | .ok n =>
    change fun s => { s with skip := some .returning }
    return .ok (n % 256)

/-- Another directory. -/
def changeDirectory (words : List String) : Act Outcome := do
  let s ← state
  let others := words.filter fun w => w ≠ "--" && w ≠ "-P" && w ≠ "-L"
  let target := others.headD ((s.value? "HOME").getD "")
  if target.isEmpty then return .ok 0
  if Program.directories.contains target then
    change fun s => { s with directory := target }
    return .ok 0
  return .error ("can't cd to " ++ target)

/-- Parameters are marked as exported or read-only, perhaps with a value. -/
def Runner.markAll (r : Runner) (mark : String → State → State) : List String → Act Outcome
  | [] => pure (.ok 0)
  | w :: rest => do
    match splitAssignment? w.toList with
    | some (name, value) =>
      r.assign name (String.ofList value)
      change (mark name)
    | none =>
      if w ≠ "-p" then
        if !isName w.toList then return .error (w ++ ": bad variable name")
        change (mark w)
    r.markAll mark rest

/-- Parameters get a value of their own in a function. -/
def Runner.hide (r : Runner) : List String → Act Outcome
  | [] => pure (.ok 0)
  | w :: rest => do
    let s ← state
    if s.calls = 0 then return .error "not in a function"
    let (name, value) :=
      match splitAssignment? w.toList with
      | some (name, value) => (name, some (String.ofList value))
      | none => (w, none)
    if !isName name.toList then return .error (name ++ ": bad variable name")
    change fun s =>
      match s.hidden with
      | frame :: frames => { s with hidden := ((name, s.value? name) :: frame) :: frames }
      | [] => s
    match value with
    | some v => r.assign name v
    | none => pure ()
    r.hide rest

/-- A line of input, with what a backslash took the meaning from marked; and whether it was
complete. Each round reads an octet, and there are at most `fuel` of them. -/
def readLine (source : Opened) (raw : Bool) : Nat → List Mark → Act (List Mark × Bool)
  | 0, seen => pure (seen.reverse, false)
  | fuel + 1, seen => do
    let bs ← Act.read source 1
    match (textOf bs).toList with
    | [] => return (seen.reverse, false)
    | '\n' :: _ => return (seen.reverse, true)
    | c :: _ =>
      if c = '\\' && !raw then
        let bs ← Act.read source 1
        match (textOf bs).toList with
        | [] => return (seen.reverse, false)
        | '\n' :: _ => readLine source raw fuel seen
        | d :: _ => readLine source raw fuel (⟨d, true⟩ :: seen)
      else if c = '\x00' then readLine source raw fuel seen
      else readLine source raw fuel (⟨c, false⟩ :: seen)

/-- A line divided among so many names; the last one gets what is left. -/
def shareOut (separators : List Char) : Nat → List Mark → List String
  | 0, _ => []
  | n + 1, ms =>
    let isSeparator (m : Mark) : Bool := !m.quoted && separators.contains m.char
    let isBlank (m : Mark) : Bool := isSeparator m && (m.char == ' ' || m.char == '\t')
    let ms := ms.dropWhile isBlank
    if n = 0 then
      [String.ofList ((ms.reverse.dropWhile isBlank).reverse.map (·.char))]
    else
      let field := ms.takeWhile fun m => !isSeparator m
      let rest := (ms.drop field.length).dropWhile isBlank
      let rest :=
        match ms.drop field.length, rest with
        | _, m :: more => if isSeparator m then more else rest
        | _, [] => []
      String.ofList (field.map (·.char)) :: shareOut separators n rest

/-- A line of input is read into parameters. -/
def Runner.readWords (r : Runner) (words : List String) : Act Outcome := do
  let raw := words.contains "-r"
  let names :=
    match words.filter (· ≠ "-r") with
    | "-p" :: _ :: names => names
    | names => names
  if names.isEmpty then return .error "arg count"
  let s ← state
  match s.stream? 0 with
  | none => return .ok 1
  | some source =>
    let (line, complete) ← readLine source raw 1000000 []
    let values := shareOut s.separators names.length line
    (names.zip values).forM fun (name, v) => r.assign name v
    return .ok (if complete then 0 else 1)

/-- The letters of the options that have names. -/
def namedOptions : List (String × Char) :=
  [("errexit", 'e'), ("noglob", 'f'), ("nounset", 'u'), ("xtrace", 'x'), ("allexport", 'a'),
    ("noexec", 'n'), ("noclobber", 'C'), ("verbose", 'v'), ("monitor", 'm'), ("ignoreeof", 'I'),
    ("notify", 'b')]

/-- An option is set, or with a plus sign unset. -/
def setOption (sign o : Char) : Act Unit :=
  change fun s =>
    { s with options := (if sign = '-' then [o] else []) ++ s.options.filter (· ≠ o) }

/-- An option is set by its name. -/
def setNamedOption (sign : Char) (name : String) : Act Outcome := do
  match namedOptions.lookup name with
  | some o =>
    setOption sign o
    return .ok 0
  | none => return .error ("Illegal option " ++ sign.toString ++ "o " ++ name)

/-- The options that a word sets, if it sets any: its sign and its letters. -/
def optionLetters? (w : String) : Option (Char × List Char) :=
  match w.toList with
  | sign :: letters =>
    if (sign = '-' || sign = '+') && !letters.isEmpty then some (sign, letters) else none
  | [] => none

/-- Options and arguments of the shell. -/
def setOptions : List String → Act Outcome
  | [] => pure (.ok 0)
  | "--" :: rest => do
    change fun s => { s with arguments := rest }
    return .ok 0
  | "-o" :: name :: rest => do
    match ← setNamedOption '-' name with
    | .ok _ => setOptions rest
    | .error e => return .error e
  | "+o" :: name :: rest => do
    match ← setNamedOption '+' name with
    | .ok _ => setOptions rest
    | .error e => return .error e
  | w :: rest => do
    match optionLetters? w with
    | some (sign, letters) =>
      match letters.find? fun o => !(namedOptions.map (·.2)).contains o with
      | some o => return .error ("Illegal option " ++ String.ofList [sign, o])
      | none =>
        letters.forM (setOption sign)
        setOptions rest
    | none =>
      change fun s => { s with arguments := w :: rest }
      return .ok 0

/-- Arguments are dropped from the front. -/
def shiftArguments (words : List String) : Act Outcome := do
  let s ← state
  match numeral (words.headD "1") with
  | .error e => return .error e
  | .ok n =>
    if s.arguments.length < n then return .error "can't shift that many"
    change fun s => { s with arguments := s.arguments.drop n }
    return .ok 0

/-- A text between single quotes. -/
def singleQuoted (s : String) : String :=
  "'" ++ String.intercalate "'\"'\"'" (s.splitOn "'") ++ "'"

/-- It is laid down what is done about signals and at the end of the shell. -/
def trap (words : List String) : Act Outcome := do
  match words.filter (· ≠ "--") with
  | [] =>
    let s ← state
    let lines := (s.traps.mergeSort (·.1 ≤ ·.1)).map fun (n, text) =>
      "trap -- " ++ singleQuoted text ++ " " ++ (if n = 0 then "EXIT" else Signal.name n) ++ "\n"
    printing "trap" (String.join lines) 0
  | first :: rest =>
    let (action, signals) : Option String × List String :=
      if rest.isEmpty || first.toNat?.isSome then (none, first :: rest)
      else (if first = "-" then none else some first, rest)
    match signals.find? fun w => (Signal.number? w).isNone with
    | some w =>
      Act.complain (w ++ ": bad trap")
      return .ok 1
    | none =>
      signals.forM fun w => do
        let n := (Signal.number? w).getD 0
        change fun s =>
          { s with
            traps := (action.map fun a => (n, a)).toList ++ s.traps.filter (·.1 ≠ n) }
        if n ≠ 0 then
          Act.handle n <|
            match action with
            | none => .usual
            | some a => if a.isEmpty then .ignored else .kept
      return .ok 0

/-- Parameters or functions are dropped. -/
def unsetAll (functions : Bool) : List String → Act Outcome
  | [] => pure (.ok 0)
  | "-f" :: rest => unsetAll true rest
  | "-v" :: rest => unsetAll false rest
  | w :: rest => do
    if functions then
      change fun s => { s with functions := s.functions.filter (·.1 ≠ w) }
    else
      if (← state).readOnly.contains w then return .error (w ++ ": is read only")
      change fun s => s.unassign w
    unsetAll functions rest

/-- Processes beside the shell are awaited. -/
def Runner.waitFor (r : Runner) : List String → Nat → Act Outcome
  | [], status => pure (.ok status)
  | w :: rest, _ => do
    let s ← state
    let number : Option Nat :=
      if w.startsWith "%" then
        s.jobs[((String.ofList (w.toList.drop 1)).toNat?.getD s.jobs.length) - 1]?
      else w.toNat?
    match number with
    | none => return .error ("Illegal number: " ++ w)
    | some n =>
      if s.jobs.contains n then
        match ← Act.await n true with
        | some fate =>
          match fate with
          | .signalled n =>
            match Signal.remark? n with
            | some text => Act.mutter text
            | none => pure ()
          | .exited _ => pure ()
          r.waitFor rest fate.status
        | none => return .ok 143
      else r.waitFor rest 127

/-- All processes beside the shell are awaited; a signal that is kept ends the wait. -/
def waitForAll : List Nat → Act Outcome
  | [] => pure (.ok 0)
  | n :: rest => do
    match ← Act.await n true with
    | some _ => waitForAll rest
    | none => return .ok 143

/-- Signals are sent. -/
def sendSignal (signal : Nat) : List String → Nat → Act Outcome
  | [], status => pure (.ok status)
  | w :: rest, status => do
    let s ← state
    let number : Option Nat :=
      if w.startsWith "%" then
        s.jobs[((String.ofList (w.toList.drop 1)).toNat?.getD s.jobs.length) - 1]?
      else w.toNat?
    match number with
    | none => return .error ("Illegal number: " ++ w)
    | some n =>
      if ← Act.signal n signal then sendSignal signal rest status
      else
        Act.complain "No such process\n"
        sendSignal signal rest 1

/-- Signals are sent, or their names written. -/
def kill (words : List String) : Act Outcome := do
  let usage := "Usage: kill [-s sigspec | -signum | -sigspec] [pid | job]... or\n"
    ++ "kill -l [exitstatus]"
  match words with
  | [] => return .error usage
  | "-l" :: w :: _ =>
    match numeral w with
    | .ok n => printing "kill" (Signal.name (if 128 < n then n - 128 else n) ++ "\n") 0
    | .error _ => return .error ("invalid signal number or exit status: " ++ w)
  | ["-l"] => printing "kill" (String.join (Signal.allNames.map (· ++ "\n"))) 0
  | "-s" :: name :: targets =>
    match Signal.number? name with
    | some n => sendSignal n targets 0
    | none => return .error ("invalid signal number or name: " ++ name)
  | first :: targets =>
    if first = "--" then sendSignal 15 targets 0
    else if first.startsWith "-" then
      let name := String.ofList (first.toList.drop 1)
      match Signal.number? name with
      | some n => if targets.isEmpty then return .error usage else sendSignal n targets 0
      | none => return .error ("Illegal option -" ++ String.ofList (name.toList.take 1))
    else sendSignal 15 words 0

/-- The commands that a shell carries out itself, apart from those that it depends on. -/
def ordinaryCommands : List String :=
  ["alias", "bg", "cd", "command", "echo", "false", "fg", "getopts", "hash", "jobs", "kill",
    "local", "printf", "pwd", "read", "test", "[", "true", "type", "ulimit", "umask", "unalias",
    "wait"]

/-- Whether a shell carries a command out itself. -/
def isOwn (name : String) : Bool := specialCommands.contains name || ordinaryCommands.contains name

/-- Where programs are. -/
def programDirectories : List String := ["/usr/bin", "/bin"]

/-- The programs apart from those that are acts of their own. -/
def shells : List String := ["sh", "dash", "env"]

/-- Whether there is a program with a name. -/
def isProgram (name : String) : Bool := shells.contains name || (Program.find? name).isSome

/-- How programs are looked up. -/
inductive Lookup where
  | found (name : String)
  | missing
  | forbidden
  /-- There is something with the name where programs are, but it is none. -/
  | hidden
deriving DecidableEq, Repr

/-- What a name of a program or a path leads to. -/
def State.lookUp (s : State) (name : String) : Lookup :=
  if name.toList.contains '/' then
    let base := Program.baseName name ""
    if programDirectories.any (fun d => name = d ++ "/" ++ base) && isProgram base then .found base
    else if Program.directories.contains name || Program.plainFiles.contains name then .forbidden
    else .missing
  else
    let path := ((s.value? "PATH").getD "").splitOn ":"
    if name.isEmpty || name = ".." then .hidden
    else if isProgram name && programDirectories.any path.contains then .found name else .missing

/-- What a name stands for. -/
def describe (s : State) (short : Bool) (name : String) : Option String :=
  if Token.keywords.contains name then some (if short then name else name ++ " is a shell keyword")
  else if (s.functions.lookup name).isSome then
    some (if short then name else name ++ " is a shell function")
  else if specialCommands.contains name then
    some (if short then name else name ++ " is a special shell builtin")
  else if isOwn name then some (if short then name else name ++ " is a shell builtin")
  else
    match s.lookUp name with
    | .found base =>
      let path := if name.startsWith "/" then name else "/usr/bin/" ++ base
      some (if short then path else name ++ " is " ++ path)
    | _ => none

/-- What names stand for; one that stands for nothing makes the command fail. -/
def describeAll (short : Bool) (words : List String) : Act Outcome := do
  let s ← state
  let texts := words.map fun w =>
    match describe s short w with
    | some t => t ++ "\n"
    | none => if short then "" else w ++ ": not found\n"
  let ok := words.all fun w => (describe s short w).isSome
  printing "type" (String.join texts) (if ok then 0 else 127)

/-- The next option among the arguments is put into parameters: its letter into one, its value, if
it takes one, into another, and where to go on into a third. -/
def Runner.nextOption (r : Runner) (words : List String) : Act Outcome := do
  match words with
  | letters :: name :: given =>
    let s ← state
    let arguments := if given.isEmpty then s.arguments else given
    let index := (((s.value? "OPTIND").bind String.toNat?).getD 1)
    let word := ((arguments[index - 1]?).getD "").toList
    let place := if s.optionPlace = 0 then 1 else s.optionPlace
    let finish (next : Nat) : Act Outcome := do
      r.assign "OPTIND" (toString next)
      r.assign name "?"
      change fun s => { s with optionPlace := 0 }
      return .ok 1
    match word with
    | ['-'] => finish index
    | ['-', '-'] => finish (index + 1)
    | '-' :: _ =>
      let c := (word[place]?).getD '-'
      let atEnd := word.length ≤ place + 1
      let spec := letters.toList.dropWhile (· = ':')
      let silent := letters.startsWith ":"
      if !spec.contains c || c = ':' then
        change fun s => { s with optionPlace := if atEnd then 0 else place + 1 }
        if atEnd then r.assign "OPTIND" (toString (index + 1))
        r.assign name "?"
        if silent then r.assign "OPTARG" c.toString
        else
          Act.mutter ("Illegal option -" ++ c.toString)
          change fun s => s.unassign "OPTARG"
        return .ok 0
      else if ((spec.dropWhile (· ≠ c)).drop 1).head? = some ':' then
        change fun s => { s with optionPlace := 0 }
        if !atEnd then
          r.assign "OPTARG" (String.ofList (word.drop (place + 1)))
          r.assign "OPTIND" (toString (index + 1))
          r.assign name c.toString
          return .ok 0
        match arguments[index]? with
        | some v =>
          r.assign "OPTARG" v
          r.assign "OPTIND" (toString (index + 2))
          r.assign name c.toString
          return .ok 0
        | none =>
          r.assign "OPTIND" (toString (index + 1))
          if silent then
            r.assign "OPTARG" c.toString
            r.assign name ":"
          else
            Act.mutter ("No arg for -" ++ c.toString ++ " option")
            change fun s => s.unassign "OPTARG"
            r.assign name "?"
          return .ok 0
      else
        change fun s => { s with optionPlace := if atEnd then 0 else place + 1 }
        if atEnd then r.assign "OPTIND" (toString (index + 1))
        change fun s => s.unassign "OPTARG"
        r.assign name c.toString
        return .ok 0
    | _ => finish index
  | _ => return .error "Usage: getopts optstring var [arg]"

/-- The letters of the options that a command takes, if it looks for any. -/
def optionsOf? : String → Option String
  | "printf" => some ""
  | "read" => some "prsu"
  | "unset" => some "fv"
  | "export" | "readonly" => some "p"
  | "cd" | "pwd" => some "LP"
  | "wait" | "trap" => some ""
  | _ => none

/-- The option of a command that it does not take. -/
def badOption? (name : String) (words : List String) : Option Char := do
  let letters ← optionsOf? name
  match (words.headD "").toList with
  | '-' :: c :: _ => if c = '-' || letters.toList.contains c then none else some c
  | _ => none

/-- The names with a mark, and their values, as commands that would mark them. -/
def marked (s : State) (command : String) (names : List String) : String :=
  let lines := (names.eraseDups.mergeSort (· ≤ ·)).map fun n =>
    command ++ " " ++ n ++
      match s.value? n with
      | some v => "=" ++ singleQuoted v
      | none => ""
  String.join (lines.map (· ++ "\n"))

/-- A command of the shell itself is carried out. -/
def Runner.ownCommand (r : Runner) (name : String) (words : List String) : Act Outcome := do
  match badOption? name words with
  | some c => return .error ("Illegal option -" ++ c.toString)
  | none =>
  match name with
  | "echo" => printing name (echoed words) 0
  | "printf" =>
    match if words.head? = some "--" then words.drop 1 else words with
    | [] => return .error "usage: printf format [arg ...]"
    | format :: words =>
      let f := formatted format words
      let result ← printing name f.text (if f.complaints.isEmpty then 0 else 1)
      f.complaints.forM Act.complain
      return if f.broken then .ok 2 else result
  | "false" => return .ok 1
  | "break" => leaveLoops false words
  | "continue" => leaveLoops true words
  | "exit" => r.exit words
  | "return" => leaveFunction words
  | "cd" => changeDirectory words
  | "pwd" => printing name ((← state).directory ++ "\n") 0
  | "eval" =>
    if words.isEmpty then return .ok 0
    return .ok (← r.runText false (" ".intercalate words))
  | "." =>
    match words with
    | [] => return .ok 0
    | "/dev/null" :: _ => return .ok 0
    | file :: _ =>
      match ← Act.load file with
      | some bs =>
        let status ← r.runText false (textOf bs)
        change fun s => { s with skip := if s.skip = some .returning then none else s.skip }
        return .ok status
      | none =>
        if file.toList.contains '/' then return .error ("cannot open " ++ file ++ ": No such file")
        return .error (file ++ ": not found")
  | "export" =>
    let s ← state
    if words.isEmpty || words = ["-p"] then printing name (marked s name s.exported) 0
    else r.markAll (fun n s => { s with exported := n :: s.exported.filter (· ≠ n) }) words
  | "readonly" =>
    let s ← state
    if words.isEmpty || words = ["-p"] then printing name (marked s name s.readOnly) 0
    else r.markAll (fun n s => { s with readOnly := n :: s.readOnly }) words
  | "local" => r.hide words
  | "read" => r.readWords words
  | "getopts" => r.nextOption words
  | "set" => setOptions words
  | "shift" => shiftArguments words
  | "test" | "[" =>
    match if name = "[" then Program.unbracketed words else some words with
    | none => return .error "missing ]"
    | some words =>
      match ← Program.condition words with
      | .ok true => return .ok 0
      | .ok false => return .ok 1
      | .error e => return .error e
  | "trap" => trap words
  | "unset" => unsetAll false words
  | "wait" => if words.isEmpty then waitForAll (← state).jobs else r.waitFor words 0
  | "kill" => kill words
  | "type" => describeAll false words
  | "umask" =>
    match words with
    | [] => printing name ((← state).mask ++ "\n") 0
    | w :: _ =>
      if w.toList.all isOctal then
        change fun s => { s with mask := String.ofList (("0000" ++ w).toList.drop w.length) }
        return .ok 0
      return .ok 0
  | "ulimit" => if words.length ≤ 1 then printing name "unlimited\n" 0 else return .ok 0
  | _ => return .ok 0

end DebugAdapter.Bench.Shell
