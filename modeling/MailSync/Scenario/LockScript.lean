import MailSync.Locks

/-!
# Scripts for folder locks

Runs a history of acquisitions and releases, with the guards kept in named slots between them.
-/

namespace MailSync

namespace Scenario

/-- A step of a lock script. -/
inductive LockStep where
  /-- Acquires a folder, and keeps the guard in a slot. -/
  | acquire (slot folder : String)
  /-- Gives back the guard in a slot. -/
  | release (slot : String)
  /-- Asks whether a folder is in work. -/
  | isActive (folder : String)
  deriving DecidableEq, Repr

/-- The answer to a step of a lock script. -/
inductive LockAnswer where
  /-- The guard's folder. -/
  | acquired (folder : String)
  /-- Why there is no guard. -/
  | refused (e : Failure)
  /-- Whether there was a guard in the slot. -/
  | released (held : Bool)
  /-- Whether the folder is in work. -/
  | active (value : Bool)
  deriving DecidableEq, Repr

/-- The state of a lock script. -/
structure LockRun where
  /-- The locks. -/
  locks : FolderLocks
  /-- The guards that are live, by slot. -/
  guards : List (String × FolderGuard)
  deriving DecidableEq, Repr

namespace LockRun

/-- The state before the first step. -/
def start : LockRun :=
  ⟨.empty, []⟩

/-- Runs a step. -/
def step (r : LockRun) : LockStep → LockAnswer × LockRun
  | .acquire slot folder =>
    match r.locks.acquire folder with
    | .error e => (.refused e, r)
    | .ok (guard, locks) => (.acquired guard.folder, ⟨locks, (slot, guard) :: r.guards⟩)
  | .release slot =>
    match r.guards.find? (·.1 = slot) with
    | none => (.released false, r)
    | some (_, guard) =>
      (.released true, ⟨r.locks.release guard, r.guards.filter (·.1 ≠ slot)⟩)
  | .isActive folder => (.active (r.locks.isActive folder), r)

/-- Runs a script from a state on. -/
def run (r : LockRun) : List LockStep → List LockAnswer × LockRun
  | [] => ([], r)
  | s :: rest =>
    let (answer, r) := r.step s
    let (answers, r) := r.run rest
    (answer :: answers, r)

end LockRun

end Scenario

end MailSync
