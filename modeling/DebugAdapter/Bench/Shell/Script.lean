import DebugAdapter.Text.Utf8
/-!
# Shell scripts

The shell language in which child processes are written down for a bench. Words keep track of what
was quoted in them. The texts of the shell hold one character per octet, so that every octet can be
a part of one.
-/

namespace DebugAdapter.Bench.Shell

/-! ## Texts of octets -/

/-- Octets as a text with one character per octet. -/
def textOf (bs : Bytes) : String := String.ofList (bs.map fun b => Char.ofNat b.toNat)

/-- The octets of a text with one character per octet. -/
def octetsOf (s : String) : Bytes := s.toList.map fun c => c.toNat.toUInt8

/-- A text with one character per octet of its encoding. -/
def narrow (s : String) : String := textOf (Utf8.encode s)

/-! ## Scripts -/

mutual

/-- A part of a word. -/
inductive Piece where
  | plain (s : List Char)
  | quoted (s : List Char)
  /-- What a parameter stands for. -/
  | parameter (quoted : Bool) (name : String) (use : Use)
  /-- What a script prints. -/
  | output (quoted : Bool) (script : Script)
  /-- The value of an expression. -/
  | arithmetic (quoted : Bool) (expression : List Piece)

/-- How a parameter is used. -/
inductive Use where
  | value
  | length
  /-- The value, or something else without one; `onEmpty` says whether an empty one counts as
  none. -/
  | orElse (onEmpty : Bool) (word : List Piece)
  /-- The same, and the parameter gets the other value. -/
  | orAssign (onEmpty : Bool) (word : List Piece)
  /-- The value, or a complaint without one. -/
  | orFail (onEmpty : Bool) (word : List Piece)
  /-- Something else, if there is a value. -/
  | instead (onEmpty : Bool) (word : List Piece)
  /-- The value without its end, or its start, that matches a pattern. -/
  | withoutEnd (longest : Bool) (pattern : List Piece)
  | withoutStart (longest : Bool) (pattern : List Piece)
  /-- Nothing that is known. -/
  | unknown

/-- What a stream is redirected to. -/
inductive Target where
  | read (file : List Piece)
  | write (append : Bool) (file : List Piece)
  /-- Where another stream leads, by its number; a hyphen stands for nowhere. -/
  | stream (number : List Piece)
  /-- A text in the script, by its number. -/
  | document (number : Nat)

/-- A redirection of the stream with a number. -/
inductive Redirection where
  | mk (stream : Nat) (target : Target)

/-- A script. The numbers of lines are those that complaints are made with. -/
inductive Script where
  | nothing
  | simple (line : Nat) (assignments : List (String × List Piece)) (words : List (List Piece))
      (redirections : List Redirection)
  /-- Side by side, each reading what the one before it prints. -/
  | pipeline (parts : List Script)
  /-- One after the other. -/
  | sequence (first next : Script)
  /-- The second only if the first succeeds. -/
  | both (first next : Script)
  /-- The second only if the first fails. -/
  | either (first next : Script)
  /-- Success becomes failure, and failure success. -/
  | negated (body : Script)
  /-- Beside what follows. -/
  | background (body : Script)
  /-- In the shell itself, or in a process of its own. -/
  | group (line : Nat) (own : Bool) (body : Script) (redirections : List Redirection)
  /-- Once for each word; without words, for each argument. -/
  | each (line : Nat) (name : String) (words : Option (List (List Piece))) (body : Script)
  /-- One of two, as the condition succeeds or fails. -/
  | choice (condition yes no : Script)
  /-- As long as the condition succeeds, or fails. -/
  | loop (untilSuccess : Bool) (condition body : Script)
  /-- The first whose patterns match. -/
  | select (line : Nat) (word : List Piece) (cases : List (List (List Piece) × Script))
  | function (line : Nat) (name : String) (body : Script)

end

instance : Inhabited Piece := ⟨.plain []⟩

instance : Inhabited Use := ⟨.value⟩

instance : Inhabited Target := ⟨.document 0⟩

instance : Inhabited Redirection := ⟨.mk 0 default⟩

instance : Inhabited Script := ⟨.nothing⟩

/-- A word. -/
abbrev Word := List Piece

namespace Word

/-- The text of a word in which nothing is quoted or replaced. -/
def literal? : Word → Option String
  | [.plain s] => some (String.ofList s)
  | _ => none

/-- A word with one more character. -/
def add (quoted : Bool) (c : Char) (w : Word) : Word :=
  match quoted, w.getLast? with
  | false, some (.plain s) => w.dropLast ++ [.plain (s ++ [c])]
  | true, some (.quoted s) => w.dropLast ++ [.quoted (s ++ [c])]
  | false, _ => w ++ [.plain [c]]
  | true, _ => w ++ [.quoted [c]]

/-- The characters of a word, apart from what is replaced in it. -/
def bareText (w : Word) : String :=
  String.ofList (w.flatMap fun p =>
    match p with
    | .plain s | .quoted s => s
    | _ => [])

/-- Whether nothing in a word is quoted. -/
def isUnquoted (w : Word) : Bool :=
  w.all fun p =>
    match p with
    | .quoted _ => false
    | _ => true

end Word

/-! ## Names -/

/-- Whether a character may begin a name. -/
def isNameStart (c : Char) : Bool := c.isAlpha || c == '_'

/-- Whether a character may stand in a name. -/
def isNameChar (c : Char) : Bool := c.isAlphanum || c == '_'

/-- Whether a text is a name. -/
def isName (cs : List Char) : Bool :=
  match cs with
  | c :: rest => isNameStart c && rest.all isNameChar
  | [] => false

/-- A name and what follows the equals sign behind it. -/
def splitAssignment? (cs : List Char) : Option (String × List Char) :=
  match cs.dropWhile isNameChar with
  | '=' :: value =>
    let name := cs.takeWhile isNameChar
    if isName name then some (String.ofList name, value) else none
  | _ => none

/-- The assignment that a word is, if it is one. -/
def Word.assignment? : Word → Option (String × Word)
  | .plain s :: rest =>
    (splitAssignment? s).map fun (name, value) =>
      (name, if value.isEmpty then rest else .plain value :: rest)
  | _ => none

/-- The commands that the shell itself depends on; no function has such a name. -/
def specialCommands : List String :=
  [".", ":", "break", "continue", "eval", "exec", "exit", "export", "readonly", "return", "set",
    "shift", "times", "trap", "unset"]

end DebugAdapter.Bench.Shell
