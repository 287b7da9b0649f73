import DebugAdapter.Session.Serve
import DebugAdapter.Settings
/-!
# The command line

A session on standard input and output. No programs are started from here: every launch is refused,
with a hint at the settings that would name the interpreter.
-/

namespace DebugAdapter.Main

/-- What the command line asks for. -/
structure Options where
  settings : Option String := none
deriving DecidableEq, Repr, Inhabited

/-- The options in some arguments; of two settings files the last one counts. -/
def Options.ofArguments? (options : Options) : List String → Option Options
  | [] => some options
  | flag :: path :: rest =>
    if flag = "--settings" || flag = "-s" then
      ofArguments? { options with settings := some path } rest
    else none
  | [_] => none

/-- A session whose launches are refused. -/
def refusingSession (env : Environment) (options : Options) : Session :=
  let settings := Settings.path env options.settings
  { handler := { control :=
      { config := {}, home := env.home, refusal := some (.unconfigured settings) } } }

/-- What has come from the editor and not been looked at. -/
structure Arrived where
  octets : ByteArray := .empty
  /-- Whether the editor has gone. -/
  gone : Bool := false

/-- The session with what has come from the editor. -/
def receive (s : Session) (a : Arrived) : Session :=
  let incoming := (s.incoming.write? a.octets.toList).getD s.incoming
  { s with incoming := { incoming with writerGone := incoming.writerGone || a.gone } }

/-- At most so many activities are carried out before the editor is looked at again. -/
def patience : Nat := 10000

/-- The pause between two looks at the editor, in milliseconds. -/
def pause : UInt32 := 5

/-- The environment that the program runs in. -/
def environment : IO Environment := do
  return {
    home := (← IO.getEnv "HOME").getD ""
    configHome := ← IO.getEnv "XDG_CONFIG_HOME"
    settingsFile := ← IO.getEnv "INTERPRETER_DAP_SETTINGS" }

/-- Everything from the editor is collected, octet by octet, until the editor has gone. -/
partial def collect (input : IO.FS.Stream) (arrived : IO.Ref Arrived) : IO Unit := do
  let bytes ← input.read 1
  if bytes.isEmpty then arrived.modify ({ · with gone := true })
  else
    arrived.modify fun a => { a with octets := a.octets ++ bytes }
    collect input arrived

/-- The session is carried on until it has ended. -/
partial def run (output : IO.FS.Stream) (arrived : IO.Ref Arrived) (s : Session) : IO Unit := do
  let s := (receive s (← arrived.modifyGet fun a => (a, { a with octets := .empty }))).serve
    (← IO.monoMsNow) patience
  output.write ⟨s.outgoing.octets.toArray⟩
  output.flush
  if s.ending.isSome then return
  IO.sleep pause
  run output arrived { s with outgoing := { s.outgoing with octets := [] } }

end DebugAdapter.Main

/-- The program. -/
def main (arguments : List String) : IO UInt32 := do
  match DebugAdapter.Main.Options.ofArguments? {} arguments with
  | none =>
    (← IO.getStderr).putStrLn "usage: debug-adapter [--settings FILE]"
    return 2
  | some options =>
    let session := DebugAdapter.Main.refusingSession (← DebugAdapter.Main.environment) options
    let arrived ← IO.mkRef {}
    let _ ← IO.asTask (DebugAdapter.Main.collect (← IO.getStdin) arrived) .dedicated
    DebugAdapter.Main.run (← IO.getStdout) arrived session
    return 0
