import MailSync.Sync.Fetch
import MailSync.Sync.Folder

/-!
# Operations of an account

Syncing a folder and fetching a message, each with its folder taken into work first. An operation on
a folder that is in work fails at once and does nothing else.
-/

namespace MailSync

namespace Account

variable {α : Type}

/-- A plan that has its folder to itself. -/
def exclusively (folder : String) (p : Plan (Except Failure α)) :
    Plan (Except Failure α) := do
  match ← Plan.query (.acquire folder) with
  | .error e => return .error e
  | .ok guard =>
    let result ← p
    Plan.query (.release guard)
    return result

/-- Brings the changes of a folder into the store. -/
def sync (folder : String) (config : SyncConfig) : Plan (Except Failure SyncStats) :=
  exclusively folder (FolderSync.sync folder config false)

/-- Brings the changes of a folder into the store, unless cancelled between two windows. -/
def syncCancellable (folder : String) (config : SyncConfig) : Plan (Except Failure SyncStats) :=
  exclusively folder (FolderSync.sync folder config true)

/-- Fetches one message of a folder. -/
def fetch (folder id : String) : Plan (Except Failure Message) :=
  exclusively folder (MessageFetch.fetch folder id)

end Account

end MailSync
