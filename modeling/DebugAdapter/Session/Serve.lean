import DebugAdapter.Session.Basic
/-!
# Serving a session

The order in which a session is carried on when nobody else decides it: what has come from the
editor first, the tasks of execution control last. Interpreters are not among what is served; a
session whose launches are refused has none.
-/

namespace DebugAdapter.Session

/-- The activities that concern a put-off launch. -/
def launchActivities (s : Session) : List Activity :=
  (List.range s.handler.launches.length).flatMap fun i => [.resume i, .complete i]

/-- The activities in the order in which they are tried. -/
def activities (s : Session) : List Activity :=
  [.notice, .read, .write] ++ s.launchActivities
    ++ [.control (.ask 0), .control .grant, .control .advance, .control .hear, .discard]

/-- The session after its next activity, if one is possible. -/
def next? (s : Session) (now : Millis) : Option Session := s.activities.findSome? (s.perform? now)

/-- The session after at most `fuel` activities. -/
def serve (now : Millis) : Nat → Session → Session
  | 0, s => s
  | fuel + 1, s =>
    match s.next? now with
    | some s => serve now fuel s
    | none => s

end DebugAdapter.Session
