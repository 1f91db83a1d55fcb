import MailSync.Config.Basic
import MailSync.Sync.Exchange

/-!
# Folder sync

A sync brings the changes of a folder into the store, window by window, until the server has no more
or the budget is used up. The sync key of a window is stored before its messages, so a sync that
fails or is cancelled can be run again. A folder without a sync key is introduced by a handshake,
which brings no messages.
-/

namespace MailSync

namespace FolderSync

open Exchange

/-- Sends a request for changes, and stores the sync key of the response. -/
def advance (folder : String) (request : Wire.Sync) : Job (Wire.Collection × String) := do
  let response ← roundTrip request
  let c ← accepted folder response
  let key ← newKey folder c
  writeKey folder key
  return (c, key)

/-- Stores one added item, and tells the listener. -/
def deliver (folder : String) (item : Wire.Item) : Job Unit := do
  match item.serverId with
  | none => Job.fail (.malformedResponse folder .itemWithoutId)
  | some id =>
    Job.attempt (Plan.query (.save (materialize folder id item) (!item.truncated)))
    Job.query (.notify (.newMessage folder id false))

/-- Stores added items, in order. -/
def deliverAll (folder : String) : List Wire.Item → Job Unit
  | [] => return ()
  | item :: rest => do
    deliver folder item
    deliverAll folder rest

/-- The statistics after one more round trip whose window has been stored. -/
def addWindow (stats : SyncStats) (c : Wire.Collection) : SyncStats :=
  { stats with
    roundTrips := stats.roundTrips + 1
    messages := stats.messages + c.added.length
    partials := stats.partials + c.added.countP (·.truncated)
    completes := stats.completes + c.added.countP (!·.truncated)
    moreAvailable := c.hasMore }

/-- The sync has been cancelled. One that nobody can cancel does not ask. -/
def isCancelled (cancellable : Bool) : Job Bool :=
  if cancellable then Job.query .cancelled else return false

/-- Requests windows from a sync key on, until the budget is used up, the server has no more, or the
sync is cancelled. A window that announces more has to bring something. -/
def windows (folder : String) (config : SyncConfig) (cancellable : Bool) (key : String)
    (stats : SyncStats) : Job SyncStats :=
  if _h : stats.messages < config.visibleLimit.toNat then do
    if ← isCancelled cancellable then
      return { stats with cancelled := true }
    let size := min (config.visibleLimit.toNat - stats.messages) Wire.maxWindow
    let (c, key) ← advance folder (Wire.Sync.window folder key size config.maxDownloadSize)
    deliverAll folder c.added
    if ¬ c.hasMore then
      return addWindow stats c
    else if _hc : c.added = [] then
      Job.fail (.malformedResponse folder .emptyWindow)
    else
      windows folder config cancellable key (addWindow stats c)
  else
    return stats
termination_by config.visibleLimit.toNat - stats.messages
decreasing_by
  have := List.length_pos_iff.2 _hc
  simp only [addWindow]
  omega

/-- Establishes the folder's state if it has none: the sync key to go on from. -/
def establish (folder key : String) : Job (String × SyncStats) := do
  if key = Wire.initialKey then
    let (_, key) ← advance folder (Wire.Sync.handshake folder key)
    return (key, { roundTrips := 1, handshake := true })
  else
    return (key, {})

/-- Brings the changes of a folder into the store. -/
def pull (folder : String) (config : SyncConfig) (cancellable : Bool) : Job SyncStats := do
  let key ← readKey folder
  let (key, stats) ← establish folder key
  windows folder config cancellable key stats

/-- Brings the changes of a folder into the store, and tells the listener how it went. -/
def sync (folder : String) (config : SyncConfig) (cancellable : Bool) :
    Plan (Except Failure SyncStats) := do
  Plan.query (.notify (.started folder))
  match ← (pull folder config cancellable).run with
  | .ok stats =>
    Plan.query (.notify (.finished folder stats))
    return .ok stats
  | .error e =>
    Plan.query (.notify (.failed folder e.message))
    return .error e

end FolderSync

end MailSync
