import MailSync.Failure

/-!
# The provisioning gate

A server answers a device only while it accepts the device's policy key. The gate runs an action on
behalf of a device: it provisions the device first if there is no key, and once more if the action
fails with a demand for provisioning, and runs the action at most twice. The gate works over any
effects `m` that offer the device's policy key and a provisioning handshake.
-/

namespace MailSync

/-- A device as the gate sees it. -/
structure Device (m : Type → Type) where
  /-- The policy key that the device holds. -/
  policyKey : m (Option String)
  /-- Sets or drops the policy key. -/
  setPolicyKey : Option String → m Unit
  /-- Asks the server for a new policy key. -/
  handshake : m (Except Failure String)

namespace Device

variable {m : Type → Type} [Monad m] {α : Type}

/-- Drops the policy key. -/
def invalidate (d : Device m) : m Unit :=
  d.setPolicyKey none

/-- Provisions the device: asks for a policy key and holds it. A failed handshake changes nothing.
-/
def provision (d : Device m) : m (Except Failure Unit) := do
  match ← d.handshake with
  | .error e => return .error (e.within "Device provisioning failed")
  | .ok key =>
    d.setPolicyKey (some key)
    return .ok ()

/-- Provisions the device, and runs the action if that succeeds. -/
def provisionThen (d : Device m) (action : m (Except Failure α)) : m (Except Failure α) := do
  match ← d.provision with
  | .error e => return .error e
  | .ok () => action

/-- Runs the action behind the gate. -/
def ensureProvisioned (d : Device m) (action : m (Except Failure α)) : m (Except Failure α) := do
  match ← d.policyKey with
  | none => d.provisionThen action
  | some _ =>
    match ← action with
    | .ok a => return .ok a
    | .error e =>
      if e.demandsProvisioning then
        d.invalidate
        d.provisionThen action
      else return .error e

end Device

end MailSync
