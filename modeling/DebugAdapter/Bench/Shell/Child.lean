import DebugAdapter.Bench.Shell.Run
import DebugAdapter.Bench.Shell.System
import DebugAdapter.Channel.Spawn
/-!
# Child processes

What runs when a script or an executable is started.
-/

namespace DebugAdapter.Bench.Shell.Child

open Channel (SpawnFailure)

/-- What a child process is told about its surroundings. -/
def environment : List (String × String) :=
  [("HOME", "/home/oracle"),
    ("PATH", "/usr/local/sbin:/usr/local/bin:/usr/sbin:/usr/bin:/sbin:/bin")]

/-- A shell that has just been started. -/
def shell (name : String) : State :=
  { name, number := System.firstNumber, values := environment, exported := environment.map (·.1) }

/-- Processes that begin with an act of a shell. -/
def ofAct (name : String) (act : Act Nat) (leave : Nat → State → Process) : System :=
  .ofProcess (act (shell name) leave)

/-- What the shell complains about a script that looks like options, which leaves it without one. -/
def optionComplaint? (text : String) : Option String :=
  match text.toList with
  | sign :: letters =>
    if sign = '-' || sign = '+' then
      match letters.find? fun c => !(c = '-' || c = 'c' || c = 's' || c = 'i' || c = 'l'
          || (namedOptions.map (·.2)).contains c) with
      | some c => some ("Illegal option " ++ String.ofList [sign, c])
      | none => some "-c requires an argument"
    else none
  | [] => none

/-- A shell that carries a script out. -/
def ofScript (text : String) : System :=
  let r := Runner.standard
  let name := "/bin/sh"
  match optionComplaint? text with
  | some complaint =>
    ofAct name (do
      Act.complainAt 0 complaint
      r.stop 2) r.leave
  | none => ofAct name (r.runText true (narrow text)) r.leave

/-- Things that are there and cannot be started. -/
def unstartable : List String :=
  Program.directories ++ Program.plainFiles ++ ["./", "../", "/etc/hostname"]

/-- Files, which have nothing below them. -/
def files : List String :=
  Program.plainFiles ++ ["/bin/sh", "/bin/true"]

/-- The longest name of a file, in octets. -/
def longestName : Nat := 255

/-- An executable without arguments. -/
def ofExecutable (name : String) : Except SpawnFailure System :=
  let parts := (name.splitOn "/").map Utf8.encode
  let r := Runner.standard
  if name.toList.contains '\x00' then .error .zeroOctet
  else if parts.any (longestName < ·.length) then .error .nameTooLong
  else if unstartable.contains name then .error .notPermitted
  else if files.any fun f => name.startsWith (f ++ "/") then .error .notDirectory
  else
    match (shell name).lookUp name with
    | .found _ => .ok (ofAct name (r.become Runner.callBound name []) fun status _ => .ended status)
    | .missing => .error .notFound
    | .forbidden | .hidden => .error .notPermitted

end DebugAdapter.Bench.Shell.Child
