import DebugAdapter.Text.Duration
import DebugAdapter.Text.Utf8
/-!
# Processes

A process is what it does next and how it goes on, whatever the system answers: every request to the
system carries the rest of the process as a function of the answer. Nothing of a process is worked
out before the system has answered.
-/

namespace DebugAdapter.Bench.Shell

/-- Where an open stream leads. -/
inductive Opened where
  | reading (pipe : Nat)
  | writing (pipe : Nat)
  /-- Writing to the end of a file. -/
  | file (name : String)
  | nothing
deriving DecidableEq, Repr, Inhabited

namespace Opened

/-- The pipes that a process is started with: its input, its output and its complaints. -/
def input : Opened := .reading 0

def output : Opened := .writing 1

def errors : Opened := .writing 2

end Opened

/-- How a process ends. -/
inductive Fate where
  | exited (status : Nat)
  | signalled (number : Nat)
deriving DecidableEq, Repr, Inhabited

namespace Fate

/-- The code of an end; a signal leaves none. -/
def code : Fate → Option Int
  | exited status => some status
  | signalled _ => none

/-- The status that a shell makes of an end. -/
def status : Fate → Nat
  | exited status => status
  | signalled number => 128 + number

end Fate

/-- What a process does about a signal. -/
inductive Handling where
  | usual
  | ignored
  /-- It is kept until the process asks for it. -/
  | kept
deriving DecidableEq, Repr, Inhabited

/-- What became of octets that were to be written. -/
inductive Delivery where
  | written
  /-- The stream is not open for writing. -/
  | refused
  /-- Nobody can read them any more. -/
  | unread
deriving DecidableEq, Repr, Inhabited

/-- A process. -/
inductive Process where
  | ended (status : Nat)
  | write (sink : Opened) (octets : Bytes) (next : Delivery → Process)
  /-- At least one octet is read, unless the stream has ended. -/
  | read (source : Opened) (most : Nat) (next : Bytes → Process)
  | sleep (span : Millis) (next : Unit → Process)
  /-- Another process is started that holds some streams; it is known by a number. -/
  | start (child : Unit → Process) (held : List Opened) (next : Nat → Process)
  /-- A pipe is made with some octets in it. -/
  | pipe (octets : Bytes) (next : Nat → Process)
  /-- From now on the process holds these streams. -/
  | hold (held : List Opened) (next : Unit → Process)
  /-- The end of another process is awaited; a signal may end the wait. -/
  | await (child : Nat) (interruptible : Bool) (next : Option Fate → Process)
  /-- A signal is sent, if the process with a number runs. -/
  | signal (target : Nat) (number : Nat) (next : Bool → Process)
  | handle (number : Nat) (how : Handling) (next : Unit → Process)
  /-- The signals that have been kept. -/
  | kept (next : List Nat → Process)
  /-- The number by which the process is known. -/
  | self (next : Nat → Process)
  /-- What a file holds, if it is there. -/
  | load (file : String) (next : Option Bytes → Process)
  /-- A file gets new contents, or is removed. -/
  | store (file : String) (contents : Option Bytes) (next : Unit → Process)

instance : Inhabited Process := ⟨.ended 0⟩

end DebugAdapter.Bench.Shell
