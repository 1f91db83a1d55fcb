import MailSync.Scenario.World

/-!
# Running scripts

Runs the steps of a script one after the other. A request takes the next reply, and the steps of the
reply are run before the operation that sent the request goes on. Each reply is taken once, so steps
are nested no deeper than there are replies.
-/

namespace MailSync

namespace Scenario

/-- How requests are served. -/
abbrev Serve : Type :=
  Wire.Sync → World → Except Failure Wire.Sync × World

variable {α : Type}

/-- Runs a plan. -/
def runPlan (serve : Serve) (p : Plan α) (w : World) : α × World :=
  p.run serve World.answer w

/-- The sync in progress that a step starts. -/
def frameOf (cancel : Option CancelPlan) (listener : Listener) : SyncFrame where
  listener := listener
  cancelFrom :=
    match cancel with
    | some (.fromMessage n) => some n
    | _ => none
  heard := 0
  raised := cancel = some .beforehand

/-- Runs a sync, which is in progress meanwhile. -/
def runSync (serve : Serve) (folder : String) (config : SyncConfig) (cancel : Option CancelPlan)
    (listener : Listener) (w : World) : Result × World :=
  let p :=
    if cancel.isSome then Account.syncCancellable folder config else Account.sync folder config
  let (r, w) := runPlan serve p { w with frames := frameOf cancel listener :: w.frames }
  let w := { w with frames := w.frames.tail }
  match r with
  | .ok stats => (.synced stats, w)
  | .error e => (.failed e, w)

/-- Runs a fetch, and saves what it brings if wanted. -/
def runFetch (serve : Serve) (folder id : String) (save : Bool) (w : World) : Result × World :=
  match runPlan serve (Account.fetch folder id) w with
  | (.ok m, w) =>
    (.fetched m, if save then { w with store := w.store.save m true } else w)
  | (.error e, w) => (.failed e, w)

/-- Does what a step says. -/
def perform (serve : Serve) (w : World) : Step → Result × World
  | .sync folder config cancel listener => runSync serve folder config cancel listener w
  | .fetch folder id save => runFetch serve folder id save w
  | .busy folder => (.busy (w.locks.isActive folder), w)
  | .provision =>
    match runPlan serve Plan.device.provision w with
    | (.ok (), w) => (.done, w)
    | (.error e, w) => (.failed e, w)
  | .invalidate => (.done, (runPlan serve Plan.device.invalidate w).2)
  | .policy => (.policy w.desk.policyKey, w)
  | .store s =>
    let (a, store) := s.run w.store
    (.store a, { w with store := store })

/-- The folder that a step works on, if it syncs or fetches. -/
def Step.folder? : Step → Option String
  | .sync folder _ _ _ => some folder
  | .fetch folder _ _ => some folder
  | _ => none

/-- Runs a step, with a log of its own. -/
def runStep (serve : Serve) (w : World) (s : Step) : StepAnswer × World :=
  let (result, w') := perform serve { w with log := [] } s
  (⟨result, w'.log.reverse, s.folder?.map w'.view⟩, { w' with log := w.log })

/-- Runs a step while a request is being answered, and records it. -/
def nest (serve : Serve) (w : World) (s : Step) : World :=
  let (a, w) := runStep serve w s
  w.record (.nested a.result a.log a.after)

/-- Records a request, and takes the next reply if there is one. -/
def takeReply (d : Wire.Sync) (w : World) : Option Reply × World :=
  let w := w.record (.request d w.desk.policyKey)
  match w.replies with
  | [] => (none, w)
  | r :: rest =>
    let w := { w with replies := rest }
    (some r, if r.cancels then w.cancel else w)

/-- The failure of a request that finds no reply. -/
def exhausted : Failure :=
  .ofCause (.other "script exhausted")

/-- Serves a request whose reply's steps may be nested to a depth. -/
def serve : (depth : Nat) → Serve
  | 0, d, w =>
    match takeReply d w with
    | (none, w) => (.error exhausted, w)
    | (some r, w) => (r.outcome, w)
  | depth + 1, d, w =>
    match takeReply d w with
    | (none, w) => (.error exhausted, w)
    | (some r, w) => (r.outcome, r.steps.foldl (nest (serve depth)) w)

/-- Runs the steps of a script. -/
def runSteps (serve : Serve) (w : World) : List Step → List StepAnswer × World
  | [] => ([], w)
  | s :: rest =>
    let (a, w) := runStep serve w s
    let (as, w) := runSteps serve w rest
    (a :: as, w)

/-- A script with its surroundings. -/
structure Script where
  /-- The device and its desk. -/
  desk : Desk
  /-- The store. -/
  store : Store
  /-- The server's replies. -/
  replies : List Reply
  /-- The calls to the store that fail. -/
  faults : List Fault
  /-- The steps. -/
  steps : List Step

/-- The surroundings at the start of a script. -/
def Script.start (s : Script) : World where
  desk := s.desk
  store := s.store
  locks := .empty
  replies := s.replies
  faults := s.faults
  calls := fun _ => 0
  frames := []
  log := []

/-- Runs a script: the answers to its steps, and the surroundings at its end. -/
def Script.run (s : Script) : List StepAnswer × World :=
  runSteps (serve s.replies.length) s.start s.steps

end Scenario

end MailSync
