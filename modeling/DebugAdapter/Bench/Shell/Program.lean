import DebugAdapter.Bench.Shell.Act
import DebugAdapter.Bench.Shell.Condition
import DebugAdapter.Bench.Shell.Printed
/-!
# Programs

Programs that scripts call, as far as benches use them. Each is an act in a process of its own, of
which only the streams count, and comes to a status.
-/

namespace DebugAdapter.Bench.Shell.Program

open Act (change load mutter state store write)

/-- How many rounds a program takes at most. -/
def rounds : Nat := 100000

/-- A text is written to the output. -/
def say (s : String) : Act Unit := do
  let _ ← write 1 (octetsOf s)

/-- A complaint; the program fails. -/
def refuse (text : String) (status : Nat) : Act Nat := do
  mutter text
  return status

/-- Octets from the input. -/
def input (most : Nat) : Act Bytes := do
  match (← state).stream? 0 with
  | some o => Act.read o most
  | none => return []

/-- All that is left of the input. -/
def wholeInput : Act Bytes := do
  match (← state).stream? 0 with
  | some o => Act.readAll o rounds []
  | none => return []

/-- Directories that are always there. -/
def directories : List String :=
  ["/", ".", "..", "/bin", "/usr", "/usr/bin", "/etc", "/dev", "/tmp", "/home", "/proc", "/var",
    "/root"]

/-- Files that are always there. -/
def plainFiles : List String := ["/dev/null", "/dev/zero", "/etc/passwd", "/etc/hosts"]

/-- The contents of a file, or why there are none. -/
def contents (file : String) : Act (Except String Bytes) := do
  if file = "-" || file = "/dev/stdin" then return .ok (← wholeInput)
  if file = "/dev/null" then return .ok []
  if directories.contains file then return .error "Is a directory"
  match ← load file with
  | some bs => return .ok bs
  | none => return .error "No such file or directory"

/-- The input is copied: so many octets, or all of it. -/
def copyInput : Nat → Option Nat → Act Unit
  | 0, _ => pure ()
  | fuel + 1, left => do
    if left == some 0 then return
    let bs ← input (left.getD 65536)
    if bs.isEmpty then return
    let _ ← write 1 bs
    copyInput fuel (left.map (· - bs.length))

/-- Each of some files is looked at; the program fails if one is not there. -/
def eachFile (name : String) (files : List String) (act : Bytes → Act Unit) : Act Nat := do
  let results ← files.mapM fun file => do
    match ← contents file with
    | .ok bs => do
      act bs
      return 0
    | .error e => refuse (name ++ ": " ++ file ++ ": " ++ e) 1
  return results.foldl max 0

/-- Files, or the input, are copied to the output. -/
def cat (words : List String) : Act Nat := do
  let files := words.filter fun w => w = "-" || !w.startsWith "-"
  let files := if files.isEmpty then ["-"] else files
  let results ← files.mapM fun file => do
    if file = "-" then
      if ((← state).stream? 0).isNone then
        let what := "Bad file descriptor"
        mutter ("cat: -: " ++ what ++ "\ncat: closing standard input: " ++ what)
        return 1
      copyInput rounds none
      return 0
    else eachFile "cat" [file] fun bs => do
      let _ ← write 1 bs
  return results.foldl max 0

/-- The lines of a text, each with its end. -/
def linesOf (cs : List Char) : List (List Char) :=
  let (lines, last) := cs.foldr
    (fun c (lines, line) => if c = '\n' then ((if line.isEmpty then lines else line :: lines), [c])
      else (lines, c :: line))
    (([] : List (List Char)), ([] : List Char))
  if last.isEmpty then lines else last :: lines

/-- An option of one letter with a value, in the next word or in the same one; and the other
words. -/
def optionWith (letter : Char) : List String → Option String × List String
  | [] => (none, [])
  | w :: rest =>
    match w.toList with
    | ['-', c] =>
      if c = letter then (rest.head?, rest.drop 1)
      else
        let (v, rest) := optionWith letter rest
        (v, w :: rest)
    | '-' :: c :: value =>
      if c = letter then (some (String.ofList value), rest)
      else
        let (v, rest) := optionWith letter rest
        (v, w :: rest)
    | _ =>
      let (v, rest) := optionWith letter rest
      (v, w :: rest)

/-- A count with a letter for a multiple. -/
def count? (s : String) : Option Nat :=
  match s.toNat?, s.toList.reverse with
  | some n, _ => some n
  | none, 'k' :: ds | none, 'K' :: ds => (String.ofList ds.reverse).toNat?.map (· * 1024)
  | none, 'M' :: ds => (String.ofList ds.reverse).toNat?.map (· * 1048576)
  | none, _ => none

/-- The first lines of the input are copied; what has been read behind them is gone. -/
def copyLines : Nat → Nat → Act Unit
  | 0, _ => pure ()
  | fuel + 1, left => do
    if left = 0 then return
    let bs ← input 8192
    if bs.isEmpty then return
    let lines := linesOf (textOf bs).toList
    let complete := (lines.filter (·.getLast? == some '\n')).length
    say (String.ofList (lines.take left).flatten)
    copyLines fuel (left - complete)

/-- The start of files, or of the input. -/
def head (words : List String) : Act Nat := do
  let (octets, words) := optionWith 'c' words
  let (lines, words) := optionWith 'n' words
  let (bare, files) := words.partition fun w => w.startsWith "-" && w ≠ "-"
  let lines := lines.or (bare.head?.map fun w => String.ofList (w.toList.drop 1))
  match octets, lines with
  | some s, _ =>
    match count? s with
    | none => refuse ("head: invalid number of bytes: '" ++ s ++ "'") 1
    | some n =>
      if files.isEmpty then
        copyInput rounds (some n)
        return 0
      else if files = ["/dev/zero"] then
        let _ ← write 1 (List.replicate n 0)
        return 0
      else eachFile "head" files fun bs => do
        let _ ← write 1 (bs.take n)
  | none, lines =>
    match count? (lines.getD "10") with
    | none => refuse ("head: invalid number of lines: '" ++ lines.getD "" ++ "'") 1
    | some n =>
      if files.isEmpty then
        copyLines rounds n
        return 0
      else eachFile "head" files fun bs =>
        say (String.ofList ((linesOf (textOf bs).toList).take n).flatten)

/-- The end of files, or of the input. -/
def tail (words : List String) : Act Nat := do
  let (octets, words) := optionWith 'c' words
  let (lines, words) := optionWith 'n' words
  let (bare, files) := words.partition fun w => w.startsWith "-" && w ≠ "-"
  let lines := (lines.or (bare.head?.map fun w => String.ofList (w.toList.drop 1))).getD "10"
  let part {α : Type} (s : String) (xs : List α) : List α :=
    match s.toList with
    | '+' :: ds => xs.drop ((Arithmetic.numberOf 10 ds) - 1)
    | '-' :: ds | ds => xs.drop (xs.length - Arithmetic.numberOf 10 ds)
  eachFile "tail" (if files.isEmpty then ["-"] else files) fun bs => do
    let _ ← write 1 <|
      match octets with
      | some s => part s bs
      | none => octetsOf (String.ofList (part lines (linesOf (textOf bs).toList)).flatten)

/-- The time that a word stands for, in seconds with a fraction, or in a unit. -/
def timeOf? (s : String) : Option Millis := do
  let whole := s.toList.takeWhile Char.isDigit
  let fraction := ((s.toList.dropWhile Char.isDigit).drop 1).takeWhile Char.isDigit
  let rest := (s.toList.dropWhile Char.isDigit).dropWhile fun c => c == '.' || c.isDigit
  let digits := whole ++ (fraction ++ ['0', '0', '0']).take 3
  if whole.isEmpty && fraction.isEmpty then none
  let n ← (String.ofList digits).toNat?
  match rest with
  | [] | ['s'] => some n
  | ['m'] => some (60 * n)
  | ['h'] => some (3600 * n)
  | ['d'] => some (86400 * n)
  | _ => none

/-- Some time passes. -/
def sleep (words : List String) : Act Nat := do
  let hint := "\nTry 'sleep --help' for more information."
  match words with
  | [] => refuse ("sleep: missing operand" ++ hint) 1
  | _ =>
    match words.find? fun w => w ≠ "infinity" && (timeOf? w).isNone with
    | some w =>
      if w.startsWith "-" && w.length > 1 then
        let letter := String.ofList ((w.toList.drop 1).take 1)
        refuse ("sleep: invalid option -- '" ++ letter ++ "'" ++ hint) 1
      else refuse ("sleep: invalid time interval '" ++ w ++ "'" ++ hint) 1
    | none =>
      let span := words.foldl (fun n w => n + (timeOf? w).getD 1000000000) 0
      fun s next => .sleep span fun _ => next 0 s

/-- Numbers from one to another. -/
def sequence (words : List String) : Act Nat := do
  let (separator, words) := optionWith 's' words
  let wide := words.contains "-w"
  let words := words.filter (· ≠ "-w")
  let numbers := words.map String.toInt?
  let between := separator.getD "\n"
  let list (first step last : Int) : Act Nat := do
    let n := if step = 0 then 0 else (Int.fdiv (last - first) step + 1).toNat
    let texts := (List.range n).map fun i => toString (first + step * (i : Nat))
    let width := texts.foldl (fun w t => max w t.length) 0
    let texts :=
      if wide then texts.map fun t => String.ofList (List.replicate (width - t.length) '0') ++ t
      else texts
    if !texts.isEmpty then say (between.intercalate texts ++ "\n")
    return 0
  match numbers with
  | [some last] => list 1 1 last
  | [some first, some last] => list first 1 last
  | [some first, some step, some last] => list first step last
  | [] => refuse "seq: missing operand\nTry 'seq --help' for more information." 1
  | _ =>
    let bad := ((words.zip numbers).find? (·.2.isNone)).map (·.1)
    refuse ("seq: invalid floating point argument: '" ++ bad.getD "" ++
      "'\nTry 'seq --help' for more information.") 1

/-- A number at the end of a field. -/
def rightAligned (width n : Nat) : String :=
  let ds := toString n
  String.ofList (List.replicate (width - ds.length) ' ') ++ ds

/-- How many lines, words and octets there are. -/
def wordCount (words : List String) : Act Nat := do
  let (options, files) := words.partition fun w => w.startsWith "-" && w ≠ "-"
  let letters := options.flatMap fun w => w.toList.drop 1
  let wanted (c : Char) : Bool := letters.isEmpty || letters.contains c
  eachFile "wc" (if files.isEmpty then ["-"] else files) fun bs => do
    let cs := (textOf bs).toList
    let words := (cs.splitBy fun a b => !a.isWhitespace && !b.isWhitespace).filter fun w =>
      w.all (!·.isWhitespace)
    let counts : List Nat :=
      (if wanted 'l' then [cs.count '\n'] else [])
        ++ (if wanted 'w' then [words.length] else [])
        ++ (if wanted 'c' || letters.contains 'm' then [cs.length] else [])
    let name := if files.isEmpty then "" else " " ++ files.headD ""
    let width := if files.isEmpty && counts.length > 1 then 7 else 1
    say (" ".intercalate (counts.map (rightAligned width)) ++ name ++ "\n")

/-- The characters of a set, with escapes and ranges. -/
def characterSet (s : String) : List Char :=
  let rec plain : Nat → List Char → List Char
    | 0, cs => cs
    | fuel + 1, cs =>
      match cs with
      | '\\' :: rest =>
        let (c, rest) := escape rest
        if c = '\\' && rest.head? != some '\\' && !rest.isEmpty then
          rest.headD c :: plain fuel (rest.drop 1)
        else c :: plain fuel rest
      | c :: rest => c :: plain fuel rest
      | [] => []
  let rec ranges : Nat → List Char → List Char
    | 0, cs => cs
    | fuel + 1, cs =>
      match cs with
      | a :: '-' :: b :: rest =>
        ((List.range (b.toNat + 1 - a.toNat)).map fun i => Char.ofNat (a.toNat + i))
          ++ ranges fuel rest
      | c :: rest => c :: ranges fuel rest
      | [] => []
  match s with
  | "[:upper:]" => (List.range 26).map fun i => Char.ofNat ('A'.toNat + i)
  | "[:lower:]" => (List.range 26).map fun i => Char.ofNat ('a'.toNat + i)
  | "[:digit:]" => (List.range 10).map fun i => Char.ofNat ('0'.toNat + i)
  | "[:space:]" => [' ', '\t', '\n', '\x0B', '\x0C', '\r']
  | s => ranges (s.length + 1) (plain (s.length + 1) s.toList)

/-- Characters are replaced or dropped. -/
def translate (words : List String) : Act Nat := do
  let (options, sets) := words.partition fun w => w.startsWith "-" && w.length > 1
  let letters := options.flatMap fun w => w.toList.drop 1
  let complement := letters.contains 'c' || letters.contains 'C'
  match sets with
  | [] => refuse "tr: missing operand\nTry 'tr --help' for more information." 1
  | first :: others =>
    let set := characterSet first
    let inSet (c : Char) : Bool := set.contains c != complement
    let images := characterSet (others.headD "")
    let image (c : Char) : Char :=
      if complement then images.getLastD c
      else (images[set.idxOf c]?).getD (images.getLastD c)
    let cs := (textOf (← wholeInput)).toList
    let cs :=
      if letters.contains 'd' then cs.filter (!inSet ·)
      else if others.isEmpty then cs
      else cs.map fun c => if inSet c then image c else c
    let squeezed := if others.isEmpty then inSet else images.contains
    let cs :=
      if letters.contains 's' then
        (cs.splitBy fun a b => a == b && squeezed a).flatMap fun run =>
          if (run.head?.map squeezed) == some true then run.take 1 else run
      else cs
    say (String.ofList cs)
    return 0

/-- The input is copied to the output and to files. -/
def tee (words : List String) : Act Nat := do
  let appending := words.contains "-a"
  let files := words.filter fun w => !w.startsWith "-"
  let bs ← wholeInput
  let _ ← write 1 bs
  files.forM fun file => do
    if file = "/dev/stderr" then
      let _ ← write 2 bs
    else if file = "/dev/stdout" then
      let _ ← write 1 bs
    else if !file.startsWith "/dev/" then
      let before ← if appending then load file else pure none
      store file (some (before.getD [] ++ bs))
  return 0

/-- The numbers that a list of them and of ranges names. -/
def listed (s : String) (n : Nat) : Bool :=
  (s.splitOn ",").any fun part =>
    match part.splitOn "-" with
    | [a] => a.toNat? == some n
    | [a, b] => (a.toNat?).getD 1 ≤ n && n ≤ (b.toNat?).getD n
    | _ => false

/-- Some columns or fields of each line. -/
def cut (words : List String) : Act Nat := do
  let (fields, words) := optionWith 'f' words
  let (delimiter, words) := optionWith 'd' words
  let (characters, words) := optionWith 'c' words
  let (octets, files) := optionWith 'b' words
  let files := files.filter fun w => !w.startsWith "-" || w = "-"
  eachFile "cut" (if files.isEmpty then ["-"] else files) fun bs =>
    (linesOf (textOf bs).toList).forM fun line => do
      let cs := line.filter (· ≠ '\n')
      let kept :=
        match fields, characters.or octets with
        | some list, _ =>
          let between := delimiter.getD "\t"
          let parts := (String.ofList cs).splitOn between
          if parts.length ≤ 1 then String.ofList cs
          else
            between.intercalate ((parts.zipIdx.filter fun (_, i) => listed list (i + 1)).map (·.1))
        | none, some list =>
          String.ofList ((cs.zipIdx.filter fun (_, i) => listed list (i + 1)).map (·.1))
        | none, none => String.ofList cs
      say (kept ++ "\n")

/-- The lines in order. -/
def sort (words : List String) : Act Nat := do
  let (options, files) := words.partition fun w => w.startsWith "-" && w ≠ "-"
  let letters := options.flatMap fun w => w.toList.drop 1
  let files := if files.isEmpty then ["-"] else files
  let texts ← files.mapM fun file => do
    match ← contents file with
    | .ok bs => pure bs
    | .error _ => pure []
  let lines := (linesOf (textOf texts.flatten).toList).map fun l =>
    String.ofList (l.filter (· ≠ '\n'))
  let key (s : String) : Int := ((Arithmetic.integer? s.toList).map (·.1)).getD 0
  let before (a b : String) : Bool :=
    if letters.contains 'n' then key a < key b || (key a == key b && a ≤ b) else a ≤ b
  let sorted := lines.mergeSort before
  let sorted := if letters.contains 'r' then sorted.reverse else sorted
  let sorted := if letters.contains 'u' then sorted.eraseReps else sorted
  say (String.join (sorted.map (· ++ "\n")))
  return 0

/-- Lines without those that repeat the line before. -/
def unique (words : List String) : Act Nat := do
  let bs ← wholeInput
  let lines := (linesOf (textOf bs).toList).map fun l => String.ofList (l.filter (· ≠ '\n'))
  let runs := lines.splitBy (· == ·)
  let shown := runs.filterMap fun run =>
    run.head?.map fun line =>
      if words.contains "-c" then rightAligned 7 run.length ++ " " ++ line else line
  say (String.join (shown.map (· ++ "\n")))
  return 0

/-- Lines with their characters in reverse. -/
def reverseLines : Act Nat := do
  let bs ← wholeInput
  (linesOf (textOf bs).toList).forM fun line =>
    say (String.ofList ((line.filter (· ≠ '\n')).reverse ++ line.filter (· = '\n')))
  return 0

/-- Blocks of octets are copied. -/
def copyBlocks (words : List String) : Act Nat := do
  let operand (name : String) : Option String :=
    (words.find? (·.startsWith (name ++ "="))).map fun w =>
      String.ofList (w.toList.drop (name.length + 1))
  let size := ((operand "bs").orElse fun _ => operand "ibs").bind count? |>.getD 512
  let blocks := (operand "count").bind count?
  let silent := operand "status" == some "none"
  let rec blockwise : Nat → Option Nat → Nat × Nat → Act (Nat × Nat)
    | 0, _, seen => pure seen
    | fuel + 1, left, (whole, parts) => do
      if left == some 0 then return (whole, parts)
      let bs ← input size
      if bs.isEmpty then return (whole, parts)
      if operand "of" != some "/dev/null" then
        let _ ← write 1 bs
      blockwise fuel (left.map (· - 1))
        (if bs.length = size then (whole + 1, parts) else (whole, parts + 1))
  let file := (operand "if").filter fun f => f ≠ "/dev/stdin"
  let (whole, parts) ←
    match file with
    | none => blockwise rounds blocks (0, 0)
    | some "/dev/zero" => do
      let n := blocks.getD 0
      let _ ← write 1 (List.replicate (n * size) 0)
      pure (n, 0)
    | some name => do
      let bs :=
        match ← contents name with
        | .ok bs => bs
        | .error _ => []
      let part := (blocks.map fun n => bs.take (n * size)).getD bs
      let _ ← write 1 part
      pure (part.length / size, if part.length % size = 0 then 0 else 1)
  if !silent then
    let records := toString whole ++ "+" ++ toString parts ++ " records "
    mutter (records ++ "in")
    mutter (records ++ "out")
  return 0

/-- One line again and again. -/
def yes (words : List String) : Act Nat := do
  let line := (if words.isEmpty then "y" else " ".intercalate words) ++ "\n"
  let block := octetsOf (String.join (List.replicate (8192 / line.length + 1) line))
  let rec again : Nat → Act Unit
    | 0 => pure ()
    | fuel + 1 => do
      let _ ← write 1 block
      again fuel
  again rounds
  return 1

/-- The last part of a path. -/
def baseName (path ending : String) : String :=
  let cs := (path.toList.reverse.dropWhile (· = '/')).reverse
  if cs.isEmpty then if path.isEmpty then "" else "/"
  else
    let last := (cs.reverse.takeWhile (· ≠ '/')).reverse
    if ending.toList.isSuffixOf last && last.length > ending.length then
      String.ofList (last.take (last.length - ending.length))
    else String.ofList last

/-- A path without its last part. -/
def directoryName (path : String) : String :=
  let cs := path.toList.reverse.dropWhile (· = '/')
  if cs.isEmpty then if path.isEmpty then "." else "/"
  else
    let rest := cs.dropWhile (· ≠ '/')
    if rest.isEmpty then "."
    else
      let rest := rest.dropWhile (· = '/')
      if rest.isEmpty then "/" else String.ofList rest.reverse

/-- What conditions on files are asked of. -/
def world (files : List (String × Bytes)) : Condition.World :=
  { kindOf? := fun f =>
      if f = "/dev/null" || f = "/dev/zero" then some .device
      else if directories.contains f then some .directory
      else (files.lookup f).map fun bs => .regular bs.length }

/-- Whether a condition on words holds; the files among the words are looked at. -/
def condition (words : List String) : Act (Except String Bool) := do
  let files ← words.mapM fun w => do
    let bs ← if w.isEmpty || w.startsWith "-" then pure none else load w
    return bs.map fun bs => (w, bs)
  return Condition.holds (world (files.filterMap id)) words

/-- The words of a command in brackets without the closing one. -/
def unbracketed (words : List String) : Option (List String) :=
  if words.getLast? = some "]" then some words.dropLast else none

/-- A condition as a program. -/
def test (name : String) (words : List String) : Act Nat := do
  match if name = "[" then unbracketed words else some words with
  | none => refuse "[: missing ']'" 2
  | some words =>
    match ← condition words with
    | .ok true => return 0
    | .ok false => return 1
    | .error e => refuse (name ++ ": " ++ e) 2

/-- Files are removed. -/
def remove (words : List String) : Act Nat := do
  let (options, files) := words.partition (·.startsWith "-")
  let forced := options.any (·.toList.contains 'f')
  let results ← files.mapM fun file => do
    match ← load file with
    | some _ => do
      store file none
      return 0
    | none =>
      if forced then return 0
      else refuse ("rm: cannot remove '" ++ file ++ "': No such file or directory") 1
  return results.foldl max 0

/-- Files are made, unless they are there. -/
def touch (words : List String) : Act Nat := do
  words.forM fun file => do
    match ← load file with
    | some _ => pure ()
    | none => store file (some [])
  return 0

/-- Files are listed. -/
def list (words : List String) : Act Nat := do
  let files := words.filter fun w => !w.startsWith "-"
  let results ← files.mapM fun file => do
    match ← load file, directories.contains file || file.startsWith "/dev/" with
    | none, false => refuse ("ls: cannot access '" ++ file ++ "': No such file or directory") 2
    | _, _ => do
      say (file ++ "
")
      return 0
  return results.foldl max 0

/-- The words that `printf` and `echo` are called with. -/
def printWords (words : List String) : Act Nat := do
  match words with
  | [] => refuse "printf: missing operand\nTry 'printf --help' for more information." 1
  | format :: words =>
    let f := formatted format words
    say f.text
    f.complaints.forM fun c => mutter ("printf: " ++ c)
    return if f.complaints.isEmpty then 0 else 1

/-- The words, with escapes only if they are asked for. -/
def echoWords (words : List String) : Act Nat := do
  let (options, rest) :=
    (words.takeWhile fun w => ["-n", "-e", "-E", "-ne", "-en"].contains w,
      words.dropWhile fun w => ["-n", "-e", "-E", "-ne", "-en"].contains w)
  let bare := options.any (·.toList.contains 'n')
  let text := " ".intercalate rest
  if options.any (·.toList.contains 'e') then
    let p := unescape text
    say (String.ofList (if p.stopped || bare then p.text else p.text ++ ['\n']))
  else say (if bare then text else text ++ "\n")
  return 0

/-- The program with a name. -/
def find? (name : String) : Option (List String → Act Nat) :=
  match name with
  | "true" => some fun _ => pure 0
  | "false" => some fun _ => pure 1
  | "cat" => some cat
  | "head" => some head
  | "tail" => some tail
  | "sleep" => some sleep
  | "seq" => some sequence
  | "wc" => some wordCount
  | "tr" => some translate
  | "tee" => some tee
  | "cut" => some cut
  | "sort" => some sort
  | "uniq" => some unique
  | "rev" => some fun _ => reverseLines
  | "dd" => some copyBlocks
  | "yes" => some yes
  | "basename" => some fun ws => do
    say (baseName (ws.headD "") ((ws[1]?).getD "") ++ "\n")
    return 0
  | "dirname" => some fun ws => do
    say (directoryName (ws.headD "") ++ "\n")
    return 0
  | "test" | "[" => some (test name)
  | "echo" => some echoWords
  | "printf" => some printWords
  | "ls" => some list
  | "rm" => some remove
  | "touch" => some touch
  | "mkdir" | "rmdir" | "chmod" | "sync" => some fun _ => pure 0
  | _ => none

end DebugAdapter.Bench.Shell.Program
