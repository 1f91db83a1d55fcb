import MailSync.Gate

/-!
# A scripted provisioning desk

The side of a server that hands out policy keys, with the outcomes of its handshakes laid down in
advance. When they are used up, every handshake succeeds with a key named for its number.
-/

namespace MailSync

namespace Scenario

/-- A device's policy key, and the desk that renews it. -/
structure Desk where
  /-- The policy key that the device holds. -/
  policyKey : Option String
  /-- The outcomes of the next handshakes. -/
  outcomes : List (Except Failure String)
  /-- How many handshakes there have been. -/
  handshakes : Nat

namespace Desk

/-- The outcome of the next handshake. -/
def nextOutcome (d : Desk) : Except Failure String :=
  d.outcomes.headD (.ok s!"policy-{d.handshakes + 1}")

/-- The desk after one more handshake. The device's key is as it was. -/
def afterHandshake (d : Desk) : Desk :=
  { d with outcomes := d.outcomes.tail, handshakes := d.handshakes + 1 }

/-- The desk when the device holds another key, or none. -/
def holding (d : Desk) (key : Option String) : Desk :=
  { d with policyKey := key }

end Desk

end Scenario

end MailSync
