import DebugAdapter.Text.Duration
/-!
# Pending requests

The requests of a channel that wait for a reply, in the order in which they were sent. A request is
known by the number of the message that carried it; some have a deadline.
-/

namespace DebugAdapter.Channel

/-- Why a request got no reply. -/
inductive RequestError where
  | timeout (id : String) (after : Millis)
  | closed
deriving DecidableEq, Repr

/-- How an error is reported. -/
def RequestError.message : RequestError → String
  | .timeout id after => "no reply to message " ++ id ++ " after " ++ Text.durationText after
  | .closed => "channel closed"

/-- When a request expires, and how long that is after it was made. -/
structure Deadline where
  due : Millis
  after : Millis
deriving DecidableEq, Repr, Inhabited

/-- A request that waits; `asker` is who gets the reply. -/
structure Pending (ρ : Type) where
  id : String
  asker : ρ
  deadline : Option Deadline
deriving Repr, Inhabited

namespace Pending

/-- Whether a request has a deadline that has passed. -/
def isOverdue {ρ : Type} (now : Millis) (p : Pending ρ) : Bool :=
  match p.deadline with
  | some d => d.due ≤ now
  | none => false

/-- The error of a request that expires. -/
def expiry {ρ : Type} (p : Pending ρ) : RequestError :=
  .timeout p.id ((p.deadline.map (·.after)).getD 0)

end Pending

/-- The requests of a channel that wait. -/
structure Requests (ρ : Type) where
  pending : List (Pending ρ) := []
deriving Repr, Inhabited

namespace Requests

variable {ρ : Type}

/-- The numbers of the requests. -/
def ids (rs : Requests ρ) : List String := rs.pending.map (·.id)

/-- One more request. -/
def insert (rs : Requests ρ) (now : Millis) (id : String) (asker : ρ) (timeout : Option Millis) :
    Requests ρ :=
  { pending := rs.pending ++
      [{ id, asker, deadline := timeout.map fun t => { due := now + t, after := t } }] }

/-- The request with a number. -/
def find? (rs : Requests ρ) (id : String) : Option (Pending ρ) := rs.pending.find? (·.id == id)

/-- Without the request with a number. -/
def erase (rs : Requests ρ) (id : String) : Requests ρ :=
  { pending := rs.pending.filter (·.id != id) }

/-- The earliest deadline. -/
def nextDeadline? (rs : Requests ρ) : Option Millis :=
  (rs.pending.filterMap fun p => p.deadline.map (·.due)).min?

/-- The requests whose deadline has passed. -/
def overdue (rs : Requests ρ) (now : Millis) : List (Pending ρ) :=
  rs.pending.filter (·.isOverdue now)

/-- Without the requests whose deadline has passed. -/
def expire (rs : Requests ρ) (now : Millis) : Requests ρ :=
  { pending := rs.pending.filter (!·.isOverdue now) }

end Requests

end DebugAdapter.Channel
