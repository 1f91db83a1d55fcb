import MailSync.Account
import MailSync.Scenario.Desk
import MailSync.Scenario.StoreScript

/-!
# Scripted surroundings

The surroundings in which an account's operations are run by a script: a server with its replies
laid down in advance, a store whose calls may be made to fail, a listener, and a record of what
happens. While the server answers a request, it may have further steps run first.
-/

namespace MailSync

namespace Scenario

/-! ### Scripts -/

/-- When a sync that can be cancelled is cancelled, replies apart. -/
inductive CancelPlan where
  /-- Before it starts. -/
  | beforehand
  /-- Never. -/
  | never
  /-- By the listener, at every new message from the given number on. -/
  | fromMessage (n : Nat)
  deriving DecidableEq, Repr

/-- What a listener records. -/
inductive Listener where
  /-- Every notice. -/
  | recording
  /-- New messages alone. -/
  | newOnly
  /-- Nothing. -/
  | silent
  deriving DecidableEq, Repr

/-- A step of a script. -/
inductive Step where
  /-- Syncs a folder. Without a plan for it, the sync cannot be cancelled. -/
  | sync (folder : String) (config : SyncConfig) (cancel : Option CancelPlan) (listener : Listener)
  /-- Fetches a message, and saves it if wanted. -/
  | fetch (folder id : String) (save : Bool)
  /-- Asks whether a folder is in work. -/
  | busy (folder : String)
  /-- Provisions the device. -/
  | provision
  /-- Drops the policy key. -/
  | invalidate
  /-- Shows the policy key. -/
  | policy
  /-- Uses the store directly. -/
  | store (s : StoreStep)
  deriving DecidableEq, Repr

/-- A reply of the server. -/
structure Reply where
  /-- The innermost sync in progress is cancelled first. -/
  cancels : Bool
  /-- Steps that are run next. -/
  steps : List Step
  /-- The response, or the failure to deliver one. -/
  outcome : Except Failure Wire.Sync

/-- A kind of call to the store. -/
inductive Call where
  | readExtra
  | writeExtra
  | savePartial
  | saveComplete
  deriving DecidableEq, Repr

/-- A call to the store that fails, given by its number among the calls of its kind. -/
structure Fault where
  call : Call
  number : Nat
  failure : Failure

/-! ### Records -/

/-- What a folder and the device look like after a step. -/
structure View where
  /-- The sync key that is stored for the folder. -/
  syncKey : Option String
  /-- The number of the folder's messages. -/
  count : Nat
  /-- The folder is in work. -/
  busy : Bool
  /-- The policy key that the device holds. -/
  policyKey : Option String
  /-- The number of handshakes so far. -/
  handshakes : Nat
  deriving DecidableEq, Repr

/-- How a step ended. -/
inductive Result where
  | synced (stats : SyncStats)
  | fetched (m : Message)
  | failed (e : Failure)
  | busy (value : Bool)
  | done
  | policy (key : Option String)
  | store (a : StoreAnswer)
  deriving DecidableEq, Repr

/-- What happens in a step. -/
inductive Event where
  /-- A request is sent while the device holds a policy key. -/
  | request (d : Wire.Sync) (policyKey : Option String)
  /-- There is a handshake of the given number, while the device holds a key. -/
  | handshake (number : Nat) (policyKey : Option String)
  /-- An operation reads an extra text. -/
  | readExtra (folder name : String)
  /-- An operation writes an extra text. -/
  | writeExtra (folder name value : String)
  /-- An operation saves a message. -/
  | save (m : Message) (complete : Bool)
  /-- The listener hears a notice. -/
  | notice (n : Notice)
  /-- A listener for new messages alone hears of one. -/
  | newId (id : String)
  /-- A step is run while a request is being answered. -/
  | nested (result : Result) (log : List Event) (after : Option View)
  deriving Repr

/-- The answer to a step. -/
structure StepAnswer where
  /-- How the step ended. -/
  result : Result
  /-- What happened in the step itself. -/
  log : List Event
  /-- What the step's folder looks like afterwards, if it synced or fetched. -/
  after : Option View
  deriving Repr

/-- A sync in progress. -/
structure SyncFrame where
  /-- The listener. -/
  listener : Listener
  /-- The message from which on the listener cancels. -/
  cancelFrom : Option Nat
  /-- How many messages the listener has heard of. -/
  heard : Nat
  /-- The sync has been cancelled. -/
  raised : Bool
  deriving DecidableEq, Repr

/-- The state of a script. -/
structure World where
  /-- The device and its desk. -/
  desk : Desk
  /-- The store. -/
  store : Store
  /-- The folders in work. -/
  locks : FolderLocks
  /-- The replies to the next requests. -/
  replies : List Reply
  /-- The calls to the store that fail. -/
  faults : List Fault
  /-- How many calls of each kind operations have made to the store. -/
  calls : Call → Nat
  /-- The syncs in progress, innermost first. -/
  frames : List SyncFrame
  /-- What has happened in the step in progress, last first. -/
  log : List Event

namespace World

/-- Records an event. -/
def record (w : World) (e : Event) : World :=
  { w with log := e :: w.log }

/-- Changes the innermost sync in progress. -/
def modifyFrame (w : World) (f : SyncFrame → SyncFrame) : World :=
  { w with frames := w.frames.modifyHead f }

/-- Cancels the innermost sync in progress. -/
def cancel (w : World) : World :=
  w.modifyFrame fun f => { f with raised := true }

/-- What a folder and the device look like. -/
def view (w : World) (folder : String) : View :=
  ⟨w.store.syncKey? folder, w.store.count folder, w.locks.isActive folder, w.desk.policyKey,
    w.desk.handshakes⟩

/-- Makes a call to the store, which is recorded and counted, and fails if the script says so. -/
def callStore {α : Type} (w : World) (call : Call) (e : Event) (effect : Store → α × Store) :
    Except Failure α × World :=
  let number := w.calls call + 1
  let w := { w.record e with calls := fun c => if c = call then number else w.calls c }
  match w.faults.find? fun f => f.call = call ∧ f.number = number with
  | some fault => (.error fault.failure, w)
  | none => (.ok (effect w.store).1, { w with store := (effect w.store).2 })

/-- A sync in progress whose listener has heard of one more message. -/
def heardOne (f : SyncFrame) : SyncFrame :=
  { f with heard := f.heard + 1, raised := f.raised || f.cancelFrom.any (· ≤ f.heard + 1) }

/-- Lets the listener of the innermost sync in progress hear a notice. -/
def hear (w : World) (n : Notice) : World :=
  match w.frames with
  | [] => w
  | frame :: _ =>
    match frame.listener, n with
    | .silent, _ => w
    | .newOnly, .newMessage _ id _ => (w.record (.newId id)).modifyFrame heardOne
    | .newOnly, _ => w
    | .recording, .newMessage _ _ _ => (w.record (.notice n)).modifyFrame heardOne
    | .recording, _ => w.record (.notice n)

/-- Answers a question of an operation. -/
def answer : (q : Query) → World → q.Answer × World
  | .policyKey, w => (w.desk.policyKey, w)
  | .setPolicyKey key, w => ((), { w with desk := w.desk.holding key })
  | .handshake, w =>
    let w' := w.record (.handshake (w.desk.handshakes + 1) w.desk.policyKey)
    (w.desk.nextOutcome, { w' with desk := w.desk.afterHandshake })
  | .readExtra folder name, w =>
    w.callStore .readExtra (.readExtra folder name) fun s => (s.extra? folder name, s)
  | .writeExtra folder name value, w =>
    w.callStore .writeExtra (.writeExtra folder name value) fun s =>
      ((), s.setExtra folder name value)
  | .save m complete, w =>
    w.callStore (if complete then .saveComplete else .savePartial) (.save m complete) fun s =>
      ((), s.save m complete)
  | .cancelled, w => ((w.frames.head?).any (·.raised), w)
  | .notify n, w => ((), w.hear n)
  | .acquire folder, w =>
    match w.locks.acquire folder with
    | .error e => (.error e, w)
    | .ok (guard, locks) => (.ok guard, { w with locks := locks })
  | .release guard, w => ((), { w with locks := w.locks.release guard })

end World

end Scenario

end MailSync
