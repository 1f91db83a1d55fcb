import MailSync.Scenario.Desk

/-!
# Scripts for the provisioning gate

Runs scripted actions behind the gate of one device, and records every action and every handshake.
-/

namespace MailSync

namespace Scenario

/-- What an action does when it is run. -/
structure ScriptedAction (α : Type) where
  /-- The action drops the policy key. -/
  invalidates : Bool
  /-- How the action ends. -/
  outcome : Except Failure α

/-- A step of a gate script. -/
inductive GateStep (α : Type) where
  /-- Runs an action behind the gate, where the list says what its runs do, the last of them again
  and again. -/
  | ensure (first : ScriptedAction α) (others : List (ScriptedAction α))
  /-- Provisions the device. -/
  | provision
  /-- Drops the policy key. -/
  | invalidate
  /-- Does nothing. -/
  | pause

/-- What happens in a gate script. -/
inductive GateEvent where
  /-- An action is run for the given time in its step, while the device holds a key. -/
  | action (run : Nat) (policyKey : Option String)
  /-- There is a handshake of the given number, while the device holds a key. -/
  | handshake (number : Nat) (policyKey : Option String)
  deriving DecidableEq, Repr

/-- The state of a gate script. -/
structure GateRun where
  /-- The device and its desk. -/
  desk : Desk
  /-- How often the step's action has been run. -/
  runs : Nat
  /-- What has happened in the step, last first. -/
  log : List GateEvent

/-- The answer to a step of a gate script. -/
structure GateAnswer (α : Type) where
  /-- How the step ended, with a value if it ran an action. -/
  result : Except Failure (Option α)
  /-- What happened in the step. -/
  log : List GateEvent
  /-- The device and its desk after the step. -/
  desk : Desk

namespace GateRun

/-- The device of a gate script. -/
def device : Device (StateM GateRun) where
  policyKey := do return (← get).desk.policyKey
  setPolicyKey key := modify fun r => { r with desk := r.desk.holding key }
  handshake := do
    let r ← get
    let desk := r.desk
    let event := GateEvent.handshake (desk.handshakes + 1) desk.policyKey
    set { r with desk := desk.afterHandshake, log := event :: r.log }
    return desk.nextOutcome

variable {α : Type}

/-- Runs a scripted action. -/
def runAction (first : ScriptedAction α) (others : List (ScriptedAction α)) :
    StateM GateRun (Except Failure α) := do
  let r ← get
  let event := GateEvent.action (r.runs + 1) r.desk.policyKey
  let action := ((first :: others)[r.runs]?).getD (others.getLastD first)
  set { r with runs := r.runs + 1, log := event :: r.log }
  if action.invalidates then device.invalidate
  return action.outcome

/-- Runs a step. -/
def runStep : GateStep α → StateM GateRun (Except Failure (Option α))
  | .ensure first others => do
    return (← device.ensureProvisioned (runAction first others)).map some
  | .provision => do return (← device.provision).map fun () => none
  | .invalidate => do
    device.invalidate
    return .ok none
  | .pause => return .ok none

end GateRun

/-- Runs a gate script on a device. -/
def runGateScript {α : Type} (desk : Desk) : List (GateStep α) → List (GateAnswer α)
  | [] => []
  | step :: rest =>
    let (result, r) := (GateRun.runStep step).run ⟨desk, 0, []⟩
    ⟨result, r.log.reverse, r.desk⟩ :: runGateScript r.desk rest

end Scenario

end MailSync
