import DebugAdapter.Text.Utf8
/-!
# Starting child processes

Why an executable could not be started, and what is said about it.
-/

namespace DebugAdapter.Channel

/-- Why an executable could not be started. -/
inductive SpawnFailure where
  | notFound
  | notPermitted
  | notDirectory
  | nameTooLong
  /-- A name with a zero octet in it, which no system call accepts. -/
  | zeroOctet
deriving DecidableEq, Repr, Inhabited

namespace SpawnFailure

/-- The system's word for the failure. -/
def reason : SpawnFailure → String
  | .notFound => "No such file or directory (os error 2)"
  | .notPermitted => "Permission denied (os error 13)"
  | .notDirectory => "Not a directory (os error 20)"
  | .nameTooLong => "File name too long (os error 36)"
  | .zeroOctet => "nul byte found in provided data"

/-- What is said about an executable that could not be started. -/
def message (executable : String) (e : SpawnFailure) : String :=
  "spawning interpreter " ++ executable ++ ": " ++ e.reason

end SpawnFailure

end DebugAdapter.Channel
