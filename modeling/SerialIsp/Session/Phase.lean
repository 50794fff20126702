/-!
# Phases of a session

How far the synchronization handshake has come.
-/

namespace SerialIsp.Session

/-- The phase a session is in. -/
inductive Phase where
  /-- Nothing was exchanged yet. -/
  | unsynced
  /-- The question mark was sent. -/
  | syncSent
  /-- The device's answer was sent back to it. -/
  | syncAcked
  /-- The device accepted the crystal frequency. -/
  | crystalAcked
  /-- The device was told to stop echoing. -/
  | echoOff
  /-- Commands can be sent. -/
  | ready
  /-- The last handshake failed. -/
  | syncFailed
  deriving DecidableEq, Repr, Inhabited

/-- The phase's name in messages. -/
def Phase.name : Phase → String
  | .unsynced => "unsynced"
  | .syncSent => "sync-sent"
  | .syncAcked => "sync-acked"
  | .crystalAcked => "crystal-acked"
  | .echoOff => "echo-off"
  | .ready => "ready"
  | .syncFailed => "sync-failed"

end SerialIsp.Session
