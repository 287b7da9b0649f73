import DebugAdapter.Bench.Shell.Script
/-!
# Reading shell scripts

Scripts are read from the left, one line at a time: what stands on earlier lines has been carried
out by then, so a flaw stops a script only where it is met. The readers take `fuel` as a bound on
their depth; each of them uses a character or a token up before it calls itself.
-/

namespace DebugAdapter.Bench.Shell

/-- Why a text is no script, and the line where that was found. -/
structure Flaw where
  line : Nat
  text : String
deriving DecidableEq, Repr, Inhabited

/-- What the sign of a redirection asks for. -/
inductive Redirecting where
  | read
  | write (append : Bool)
  | duplicate
  /-- The text on the following lines; tabs at the beginnings of lines may be left out. -/
  | document (stripTabs : Bool)
deriving DecidableEq, Repr, Inhabited

/-- A token. -/
inductive Token where
  | finish
  | newline
  | semicolon
  | background
  | both
  | either
  | pipe
  | parenOpen
  | parenClose
  | caseEnd
  | redirect (stream : Option Nat) (kind : Redirecting)
  | word (w : Word)
  | keyword (s : String)

instance : Inhabited Token := ⟨.finish⟩

namespace Token

/-- How a token is called in a complaint. -/
def describe : Token → String
  | finish => "end of file"
  | newline => "newline"
  | semicolon => "\";\""
  | background => "\"&\""
  | both => "\"&&\""
  | either => "\"||\""
  | pipe => "\"|\""
  | parenOpen => "\"(\""
  | parenClose => "\")\""
  | caseEnd => "\";;\""
  | redirect .. => "redirection"
  | word _ => "word"
  | keyword s => "\"" ++ s ++ "\""

/-- The words that have a meaning of their own where a command may begin. -/
def keywords : List String :=
  ["!", "case", "do", "done", "elif", "else", "esac", "fi", "for", "if", "in", "then", "until",
    "while", "\x7b", "\x7d"]

/-- The keywords that no command begins with. -/
def closers : List String := ["do", "done", "elif", "else", "esac", "fi", "then", "\x7d"]

/-- Whether a list of commands ends before a token. -/
def isEnd : Token → Bool
  | finish | parenClose | caseEnd => true
  | keyword s => closers.contains s
  | _ => false

/-- A word as a keyword, if it is one. -/
def recognised : Token → Token
  | word w =>
    match w.literal? with
    | some s => if keywords.contains s then keyword s else word w
    | none => word w
  | t => t

end Token

/-- A text that a redirection asks for and that begins on the next line. -/
structure Promised where
  number : Nat
  /-- The line that ends the text. -/
  mark : String
  /-- Whether anything is replaced in the text. -/
  verbatim : Bool
  stripTabs : Bool
deriving DecidableEq, Repr, Inhabited

/-- Where a reader is. -/
structure Reading where
  rest : List Char
  line : Nat := 1
  /-- The token that has been looked at and not used. -/
  pushed : Option Token := none
  promised : List Promised := []
  /-- The texts for redirections, by their numbers. -/
  documents : List (Nat × Word) := []
  nextDocument : Nat := 0
deriving Inhabited

/-- A reader of a part of a script. -/
abbrev Reader := StateT Reading (Except Flaw)

namespace Reader

/-- A flaw is found here. -/
def flaw {α : Type} (text : String) : Reader α := do
  throw { line := (← get).line, text := "Syntax error: " ++ text }

/-- A token is not what may stand here; perhaps there is only one that may. -/
def unexpected {α : Type} (t : Token) (expected : Option Token) : Reader α :=
  flaw (t.describe ++ " unexpected" ++
    match expected with
    | some e => " (expecting " ++ e.describe ++ ")"
    | none => "")

/-- A token is put back. -/
def push (t : Token) : Reader Unit := modify fun r => { r with pushed := some t }

/-- The reader goes on with another text. -/
def goOn (rest : List Char) : Reader Unit := modify fun r => { r with rest }

/-- A line has ended. -/
def countLine : Reader Unit := modify fun r => { r with line := r.line + 1 }

/-- The characters that end a word. -/
def wordEnds : List Char := [' ', '\t', '\n', ';', '&', '|', '(', ')', '<', '>']

/-- The names of the parameters that are no names otherwise. -/
def specialParameters : List Char := ['!', '#', '$', '*', '-', '?', '@']

/-- Where the parts of a word stand. -/
inductive Place where
  | word
  /-- The word that ends a text for a redirection. -/
  | mark
  | double
  | document
  | arithmetic (depth : Nat)
  /-- Between braces, perhaps inside double quotes. -/
  | braces (double : Bool)
deriving DecidableEq, Repr

/-- Whether the characters at a place count as quoted. -/
def Place.isQuoted : Place → Bool
  | .word | .mark | .braces false => false
  | .double | .document | .arithmetic _ | .braces true => true

/-- Whether a backslash takes the meaning from a character. -/
def Place.escapes (p : Place) (c : Char) : Bool :=
  if p.isQuoted then
    ['$', '\\', '\x60', '\n'].contains c || (c == '"' && (p == .double || p == .braces true))
      || (c == '\x7d' && p == .braces true)
  else true

/-- What the end of the text means at a place. -/
def Place.atEnd (p : Place) (w : Word) : Reader Word :=
  match p with
  | .word | .mark | .document => pure w
  | .double | .braces true => flaw "Unterminated quoted string"
  | .braces false => flaw "Missing '\x7d'"
  | .arithmetic _ => flaw "Missing '))'"

/-- Without blanks and comments in front. -/
def skipBlanks : Nat → Reader Unit
  | 0 => pure ()
  | fuel + 1 => do
    match (← get).rest with
    | ' ' :: rest | '\t' :: rest => goOn rest; skipBlanks fuel
    | '\\' :: '\n' :: rest => goOn rest; countLine; skipBlanks fuel
    | '#' :: rest => goOn (rest.dropWhile (· ≠ '\n'))
    | _ => pure ()

/-- The text inside backquotes, and whether it is closed; some backslashes are dropped. -/
def backquoted (double : Bool) : List Char → List Char → Option (List Char × List Char)
  | _, [] => none
  | seen, '\x60' :: rest => some (seen.reverse, rest)
  | seen, '\\' :: c :: rest =>
    if c = '\n' then backquoted double seen rest
    else if ['$', '\\', '\x60'].contains c || (double && c == '"') then
      backquoted double (c :: seen) rest
    else backquoted double (c :: '\\' :: seen) rest
  | seen, c :: rest => backquoted double (c :: seen) rest

/-- The operation between the name of a parameter and the word for it, and whether the word is a
pattern. -/
def operation (cs : List Char) : (Word → Use) × Bool × List Char :=
  let choose (onEmpty : Bool) (cs : List Char) : Option ((Word → Use) × List Char) :=
    match cs with
    | '-' :: rest => some (.orElse onEmpty, rest)
    | '=' :: rest => some (.orAssign onEmpty, rest)
    | '?' :: rest => some (.orFail onEmpty, rest)
    | '+' :: rest => some (.instead onEmpty, rest)
    | _ => none
  match cs with
  | '\x7d' :: _ => (fun _ => .value, false, cs)
  | '%' :: '%' :: rest => (.withoutEnd true, true, rest)
  | '%' :: rest => (.withoutEnd false, true, rest)
  | '#' :: '#' :: rest => (.withoutStart true, true, rest)
  | '#' :: rest => (.withoutStart false, true, rest)
  | ':' :: '\x7d' :: rest => (fun _ => .value, false, rest)
  | ':' :: rest =>
    match choose true rest with
    | some (use, rest) => (use, false, rest)
    | none => (fun _ => .unknown, false, rest)
  | _ =>
    match choose false cs with
    | some (use, rest) => (use, false, rest)
    | none => (fun _ => .unknown, false, cs)

/-- The name of a parameter between braces, and what follows it. -/
def parameterName? : List Char → Option (String × List Char)
  | [] => none
  | c :: rest =>
    if isNameStart c then
      some (String.ofList ((c :: rest).takeWhile isNameChar), (c :: rest).dropWhile isNameChar)
    else if c.isDigit then
      some (String.ofList ((c :: rest).takeWhile (·.isDigit)), (c :: rest).dropWhile (·.isDigit))
    else if specialParameters.contains c then some (c.toString, rest)
    else none

/-- Of which parameter the length is asked, and what follows. -/
def lengthOf? : List Char → Option (String × List Char)
  | '#' :: c :: rest =>
    if isNameChar c then parameterName? (c :: rest)
    else if specialParameters.contains c && rest.head? == some '\x7d' then some (c.toString, rest)
    else none
  | _ => none

/-- The lines of a text up to its mark, and what follows. -/
def documentLines (p : Promised) : Nat → List Char → List (List Char) × List Char
  | 0, cs => ([], cs)
  | _ + 1, [] => ([], [])
  | fuel + 1, cs =>
    let line := cs.takeWhile (· ≠ '\n')
    let rest := cs.dropWhile (· ≠ '\n')
    let shown := if p.stripTabs then line.dropWhile (· = '\t') else line
    if String.ofList shown = p.mark then ([], rest.drop 1)
    else
      let (lines, after) := documentLines p fuel (rest.drop 1)
      ((if rest.isEmpty then shown else shown ++ ['\n']) :: lines, after)

/-- How a list of commands ends. -/
inductive Extent where
  /-- At the end of the line. -/
  | line
  /-- At a closing token, after at least one command. -/
  | inner
  /-- At a closing token. -/
  | optional
deriving DecidableEq, Repr

/-- One script after another. -/
def followed (first : Option Script) (next : Script) : Script :=
  match first with
  | some s => .sequence s next
  | none => next

mutual

/-- The parts of a word up to its end. -/
def pieces : Nat → Place → Word → Reader Word
  | 0, _, w => pure w
  | fuel + 1, p, w => do
    match (← get).rest with
    | [] => p.atEnd w
    | c :: rest =>
      if (p == .word || p == .mark) && wordEnds.contains c then return w
      goOn rest
      if c = '\n' then countLine
      if p == .double && c == '"' then return w
      match p, c, rest with
      | .braces _, '\x7d', _ => return w
      | .arithmetic depth, '(', _ => pieces fuel (.arithmetic (depth + 1)) (w.add true c)
      | .arithmetic (depth + 1), ')', _ => pieces fuel (.arithmetic depth) (w.add true c)
      | .arithmetic 0, ')', ')' :: rest =>
        goOn rest
        return w
      | _, '\\', [] => pieces fuel p (w.add true c)
      | _, '\\', d :: more =>
        if p.escapes d then
          goOn more
          if d = '\n' then
            countLine
            pieces fuel p w
          else pieces fuel p (w.add true d)
        else pieces fuel p (w.add true c)
      | _, '\'', _ =>
        if p.isQuoted then pieces fuel p (w.add true c)
        else
          let body := rest.takeWhile (· ≠ '\'')
          match rest.dropWhile (· ≠ '\'') with
          | _ :: more =>
            goOn more
            modify fun r => { r with line := r.line + body.count '\n' }
            pieces fuel p (w ++ [.quoted body])
          | [] =>
            modify fun r => { r with line := r.line + body.count '\n' }
            flaw "Unterminated quoted string"
      | _, '"', _ =>
        if p == .document || (p.isQuoted && p != .braces true) then
          pieces fuel p (w.add true c)
        else
          let inner ← pieces fuel .double []
          pieces fuel p (w ++ if inner.isEmpty then [.quoted []] else inner)
      | .mark, _, _ => pieces fuel p (w.add false c)
      | _, '$', _ =>
        match ← dollar fuel p.isQuoted with
        | some piece => pieces fuel p (w ++ [piece])
        | none => pieces fuel p (w.add p.isQuoted c)
      | _, '\x60', _ =>
        match backquoted p.isQuoted [] rest with
        | none => flaw "EOF in backquote substitution"
        | some (text, rest) =>
          let line := (← get).line
          modify fun r => { r with rest := text, pushed := none }
          let script ← list fuel .optional none
          modify fun r => { r with rest, pushed := none, line := line + text.count '\n' }
          pieces fuel p (w ++ [.output p.isQuoted (script.getD .nothing)])
      | _, _, _ => pieces fuel p (w.add p.isQuoted c)

/-- What a dollar sign stands for, unless it stands for itself. -/
def dollar : Nat → Bool → Reader (Option Piece)
  | 0, _ => pure none
  | fuel + 1, quoted => do
    match (← get).rest with
    | '(' :: '(' :: rest =>
      goOn rest
      return some (.arithmetic quoted (← pieces fuel (.arithmetic 0) []))
    | '(' :: rest =>
      modify fun r => { r with rest, pushed := none }
      let script ← list fuel .optional none
      let t ← next fuel false false
      match t with
      | .parenClose => return some (.output quoted (script.getD .nothing))
      | t => unexpected t (some .parenClose)
    | '\x7b' :: rest =>
      goOn rest
      return some (← braced fuel quoted)
    | c :: rest =>
      if isNameStart c then
        let name := (c :: rest).takeWhile isNameChar
        goOn ((c :: rest).dropWhile isNameChar)
        return some (.parameter quoted (String.ofList name) .value)
      else if c.isDigit || specialParameters.contains c then
        goOn rest
        return some (.parameter quoted c.toString .value)
      else return none
    | [] => return none

/-- A parameter between braces. -/
def braced : Nat → Bool → Reader Piece
  | 0, quoted => pure (.parameter quoted "" .unknown)
  | fuel + 1, quoted => do
    let cs := (← get).rest
    match lengthOf? cs, parameterName? cs with
    | some (name, rest), _ =>
      goOn rest
      let w ← pieces fuel (.braces quoted) []
      return .parameter quoted name (if w.isEmpty then .length else .unknown)
    | none, some (name, rest) =>
      let (use, isPattern, rest) := operation rest
      goOn rest
      let w ← pieces fuel (.braces (quoted && !isPattern)) []
      return .parameter quoted name (use w)
    | none, none =>
      let _ ← pieces fuel (.braces quoted) []
      return .parameter quoted "" .unknown

/-- The next token of the text. -/
def fresh : Nat → Reader Token
  | 0 => pure .finish
  | fuel + 1 => do
    skipBlanks ((← get).rest.length + 1)
    match (← get).rest with
    | [] => return .finish
    | '\n' :: rest => goOn rest; countLine; return .newline
    | '&' :: '&' :: rest => goOn rest; return .both
    | '&' :: rest => goOn rest; return .background
    | '|' :: '|' :: rest => goOn rest; return .either
    | '|' :: rest => goOn rest; return .pipe
    | ';' :: ';' :: rest => goOn rest; return .caseEnd
    | ';' :: rest => goOn rest; return .semicolon
    | '(' :: rest => goOn rest; return .parenOpen
    | ')' :: rest => goOn rest; return .parenClose
    | _ =>
      let w ← pieces fuel .word []
      let stream : Option (Option Nat) :=
        match w with
        | [] => some none
        | [.plain [d]] => if d.isDigit then some (some (d.toNat - '0'.toNat)) else none
        | _ => none
      match (← get).rest, stream with
      | '<' :: '<' :: '-' :: rest, some n => goOn rest; return .redirect n (.document true)
      | '<' :: '<' :: rest, some n => goOn rest; return .redirect n (.document false)
      | '<' :: '&' :: rest, some n => goOn rest; return .redirect (n.or (some 0)) .duplicate
      | '<' :: '>' :: rest, some n => goOn rest; return .redirect (n.or (some 0)) .read
      | '<' :: rest, some n => goOn rest; return .redirect n .read
      | '>' :: '>' :: rest, some n => goOn rest; return .redirect n (.write true)
      | '>' :: '&' :: rest, some n => goOn rest; return .redirect (n.or (some 1)) .duplicate
      | '>' :: '|' :: rest, some n => goOn rest; return .redirect n (.write false)
      | '>' :: rest, some n => goOn rest; return .redirect n (.write false)
      | _, _ => return .word w

/-- The texts that have been promised on the lines before. -/
def fulfil : Nat → Reader Unit
  | 0 => pure ()
  | fuel + 1 => do
    let r ← get
    match r.promised with
    | [] => pure ()
    | p :: promised =>
      let (lines, rest) := documentLines p (r.rest.length + 1) r.rest
      let text := lines.flatten
      let line := r.line + (r.rest.take (r.rest.length - rest.length)).count '\n'
      set { r with promised }
      let body ←
        if p.verbatim then pure [.quoted text]
        else
          goOn text
          pieces fuel .document []
      modify fun r => { r with rest, line, documents := (p.number, body) :: r.documents }
      fulfil fuel

/-- The next token; ends of lines may be skipped, and keywords recognised. -/
def next : Nat → Bool → Bool → Reader Token
  | 0, _, _ => pure .finish
  | fuel + 1, skipLines, withKeywords => do
    let t ←
      match (← get).pushed with
      | some t => do
        modify fun r => { r with pushed := none }
        pure t
      | none => fresh fuel
    match skipLines, t with
    | true, .newline =>
      fulfil fuel
      next fuel skipLines withKeywords
    | _, t => return if withKeywords then t.recognised else t

/-- A list of commands behind those that have been read. -/
def list : Nat → Extent → Option Script → Reader (Option Script)
  | 0, _, first => pure first
  | fuel + 1, extent, first => do
    let t ← next fuel (extent != .line) true
    match t with
    | .newline =>
      fulfil fuel
      return first
    | .finish =>
      fulfil fuel
      push .finish
      return first
    | t =>
      push t
      if t.isEnd && (extent == .optional || (extent == .inner && first.isSome)) then return first
      let command ← chain fuel
      let t ← next fuel false false
      match t with
      | .background => list fuel extent (some (followed first (.background command)))
      | .semicolon => list fuel extent (some (followed first command))
      | .newline =>
        push t
        list fuel extent (some (followed first command))
      | .finish =>
        fulfil fuel
        push t
        return some (followed first command)
      | t =>
        if extent == .line then unexpected t none
        push t
        return some (followed first command)

/-- Commands joined by conditions. -/
def chain : Nat → Reader Script
  | 0 => pure .nothing
  | fuel + 1 => do moreChain fuel (← pipeline fuel false)

/-- What follows a command under a condition on it. -/
def moreChain : Nat → Script → Reader Script
  | 0, first => pure first
  | fuel + 1, first => do
    let t ← next fuel false false
    match t with
    | .both => moreChain fuel (.both first (← pipeline fuel true))
    | .either => moreChain fuel (.either first (← pipeline fuel true))
    | t =>
      push t
      return first

/-- A pipeline, perhaps with its success turned round. -/
def pipeline : Nat → Bool → Reader Script
  | 0, _ => pure .nothing
  | fuel + 1, skipLines => do
    let t ← next fuel skipLines true
    match t with
    | .keyword "!" => return .negated (← stages fuel [← command fuel false true])
    | t =>
      push t
      stages fuel [← command fuel false false]

/-- The stages of a pipeline behind those that have been read, the last one first. -/
def stages : Nat → List Script → Reader Script
  | 0, _ => pure .nothing
  | fuel + 1, before => do
    let t ← next fuel false false
    match t, before with
    | .pipe, _ => do
      let stage ← command fuel true true
      stages fuel (stage :: before)
    | t, [only] =>
      push t
      return only
    | t, _ =>
      push t
      return .pipeline before.reverse

/-- A command. -/
def command : Nat → Bool → Bool → Reader Script
  | 0, _, _ => pure .nothing
  | fuel + 1, skipLines, withKeywords => do
    let t ← next fuel skipLines withKeywords
    let line := (← get).line
    match t with
    | .keyword "if" => do behind fuel line (← choice fuel)
    | .keyword "while" => do behind fuel line (← loop fuel false)
    | .keyword "until" => do behind fuel line (← loop fuel true)
    | .keyword "for" => do behind fuel line (← each fuel line)
    | .keyword "case" => do behind fuel line (← select fuel line)
    | .parenOpen =>
      let body ← inner fuel
      let t ← next fuel false true
      match t with
      | .parenClose =>
        let redirections ← redirectionsBehind fuel
        return .group line true body redirections
      | t => unexpected t (some .parenClose)
    | .keyword "\x7b" =>
      let body ← inner fuel
      expectKeyword fuel "\x7d"
      behind fuel line body
    | .word _ | .redirect .. =>
      push t
      simple fuel line true [] [] []
    | t => unexpected t none

/-- At least one command up to a closing token. -/
def inner : Nat → Reader Script
  | 0 => pure .nothing
  | fuel + 1 => do return (← list fuel .inner none).getD .nothing

/-- A keyword that has to come next. -/
def expectKeyword : Nat → String → Reader Unit
  | 0, _ => pure ()
  | fuel + 1, s => do
    let t ← next fuel false true
    match t with
    | .keyword k => if k = s then pure () else unexpected t (some (.keyword s))
    | t => unexpected t (some (.keyword s))

/-- A compound command with the redirections behind it. -/
def behind : Nat → Nat → Script → Reader Script
  | 0, _, body => pure body
  | fuel + 1, line, body => do
    let redirections ← redirectionsBehind fuel
    return if redirections.isEmpty then body else .group line false body redirections

/-- The redirections behind a compound command. -/
def redirectionsBehind : Nat → Reader (List Redirection)
  | 0 => pure []
  | fuel + 1 => do
    let t ← next fuel false true
    match t with
    | .redirect stream kind =>
      return (← redirection fuel stream kind) :: (← redirectionsBehind fuel)
    | t =>
      push t
      return []

/-- What a redirection leads to. -/
def redirection : Nat → Option Nat → Redirecting → Reader Redirection
  | 0, _, _ => pure default
  | fuel + 1, stream, kind => do
    match kind with
    | .document stripTabs =>
      skipBlanks ((← get).rest.length + 1)
      let w ← pieces fuel .mark []
      if w.isEmpty then unexpected (← next fuel false false) none
      let number := (← get).nextDocument
      let promised : Promised :=
        { number, mark := w.bareText, verbatim := !w.isUnquoted, stripTabs }
      modify fun r =>
        { r with promised := r.promised ++ [promised], nextDocument := number + 1 }
      return .mk (stream.getD 0) (.document number)
    | kind =>
      let t ← next fuel false false
      match t, kind with
      | .word w, .read => return .mk (stream.getD 0) (.read w)
      | .word w, .write append => return .mk (stream.getD 1) (.write append w)
      | .word w, _ => return .mk (stream.getD 1) (.stream w)
      | t, _ => unexpected t none

/-- A simple command behind the parts of it that have been read. -/
def simple : Nat → Nat → Bool → List (String × Word) → List Word → List Redirection → Reader Script
  | 0, _, _, _, _, _ => pure .nothing
  | fuel + 1, line, assigning, assignments, words, redirections => do
    let t ← next fuel false false
    match t with
    | .word w =>
      match if assigning then w.assignment? else none with
      | some a => simple fuel line true (assignments ++ [a]) words redirections
      | none => simple fuel line false assignments (words ++ [w]) redirections
    | .redirect stream kind =>
      let r ← redirection fuel stream kind
      simple fuel line assigning assignments words (redirections ++ [r])
    | .parenOpen =>
      match words, assignments, redirections with
      | [w], [], [] =>
        let t ← next fuel false false
        match t with
        | .parenClose =>
          let name := w.bareText
          if w.literal? != some name || !isName name.toList || specialCommands.contains name then
            flaw "Bad function name"
          return .function line name (← command fuel true true)
        | t => unexpected t (some .parenClose)
      | _, _, _ =>
        push t
        return .simple line assignments words redirections
    | t =>
      push t
      return .simple line assignments words redirections

/-- A condition behind its keyword, with what depends on it. -/
def choice : Nat → Reader Script
  | 0 => pure .nothing
  | fuel + 1 => do
    let condition ← inner fuel
    expectKeyword fuel "then"
    let yes ← inner fuel
    let t ← next fuel false true
    match t with
    | .keyword "elif" => return .choice condition yes (← choice fuel)
    | .keyword "else" =>
      let no ← inner fuel
      expectKeyword fuel "fi"
      return .choice condition yes no
    | t =>
      push t
      expectKeyword fuel "fi"
      return .choice condition yes .nothing

/-- A loop behind its keyword. -/
def loop : Nat → Bool → Reader Script
  | 0, _ => pure .nothing
  | fuel + 1, untilSuccess => do
    let condition ← inner fuel
    expectKeyword fuel "do"
    let body ← inner fuel
    expectKeyword fuel "done"
    return .loop untilSuccess condition body

/-- A loop over words behind its keyword. -/
def each : Nat → Nat → Reader Script
  | 0, _ => pure .nothing
  | fuel + 1, line => do
    let t ← next fuel false false
    let name :=
      match t with
      | .word w => w.literal?.getD ""
      | _ => ""
    if !isName name.toList then flaw "Bad for loop variable"
    let t ← next fuel true true
    let words ←
      match t with
      | .keyword "in" => do
        let words ← wordsUntilEnd fuel
        pure (some words)
      | .semicolon => pure none
      | t => do
        push t
        pure none
    let t ← next fuel true true
    push t
    expectKeyword fuel "do"
    let body ← inner fuel
    expectKeyword fuel "done"
    return .each line name words body

/-- Words up to the end of a command. -/
def wordsUntilEnd : Nat → Reader (List Word)
  | 0 => pure []
  | fuel + 1 => do
    let t ← next fuel false false
    match t with
    | .word w => return w :: (← wordsUntilEnd fuel)
    | .newline =>
      fulfil fuel
      return []
    | .semicolon => return []
    | t => unexpected t none

/-- A selection behind its keyword. -/
def select : Nat → Nat → Reader Script
  | 0, _ => pure .nothing
  | fuel + 1, line => do
    let t ← next fuel false false
    match t with
    | .word w =>
      let t ← next fuel true true
      match t with
      | .keyword "in" => return .select line w (← cases fuel)
      | t => unexpected t (some (.keyword "in"))
    | t => unexpected t (some (.word []))

/-- The cases of a selection. -/
def cases : Nat → Reader (List (List Word × Script))
  | 0 => pure []
  | fuel + 1 => do
    let t ← next fuel true true
    match t with
    | .keyword "esac" => return []
    | t =>
      let t ←
        match t with
        | .parenOpen => next fuel false false
        | t => pure t
      let patterns ← patterns fuel t
      let body ← list fuel .optional none
      let t ← next fuel true true
      match t with
      | .keyword "esac" => return [(patterns, body.getD .nothing)]
      | .caseEnd => return (patterns, body.getD .nothing) :: (← cases fuel)
      | t => unexpected t (some .caseEnd)

/-- The patterns of a case, of which the first has been read. -/
def patterns : Nat → Token → Reader (List Word)
  | 0, _ => pure []
  | fuel + 1, t => do
    let w : Word :=
      match t with
      | .word w => w
      | .keyword s => [.plain s.toList]
      | _ => []
    let t ← next fuel false false
    match t with
    | .pipe => return w :: (← patterns fuel (← next fuel false false))
    | .parenClose => return [w]
    | t => unexpected t (some .parenClose)

end

/-- The bound on the depth of reading a text. -/
def bound (cs : List Char) : Nat := 16 * cs.length + 64

/-- The script on the next line; there is none behind the end. -/
def line : Reader (Option Script) := do
  let r ← get
  let script ← list (bound r.rest) .line none
  match script, (← get).pushed with
  | none, some .finish => return none
  | script, _ => return some (script.getD .nothing)

end Reader

end DebugAdapter.Bench.Shell
