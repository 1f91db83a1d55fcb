import MailSync.Sync.Exchange

/-!
# Fetching one message

A fetch asks the server for one message with its whole body. It moves the folder's sync key on, and
stores nothing else: the message goes to the caller.
-/

namespace MailSync

namespace MessageFetch

open Exchange

/-- The collection of a response to a fetch that the server has marked as successful. -/
def accepted (id : String) (response : Wire.Sync) : Except Failure Wire.Collection :=
  match response.collection? with
  | none => .error (.ofCause (.fetchFailed id response.status))
  | some c =>
    if c.status = some Wire.statusOk then .ok c
    else .error (.ofCause (.fetchFailed id (c.status.or response.status)))

/-- An item answers the request for an id: it names no other, and reports no failure. -/
def answers (id : String) (item : Wire.Item) : Bool :=
  item.serverId.all (· = id) && item.status.all (· = Wire.statusOk)

/-- Fetches one message of a folder. -/
def fetchJob (folder id : String) : Job Message := do
  let key ← readKey folder
  let response ← roundTrip (Wire.Sync.fetch folder key id)
  let c ← accepted id response
  let key ← newKey folder c
  writeKey folder key
  match c.fetched.find? (answers id) with
  | none => Job.fail (.messageNotFound id)
  | some item => return materialize folder id item

/-- Fetches one message of a folder. -/
def fetch (folder id : String) : Plan (Except Failure Message) :=
  (fetchJob folder id).run

end MessageFetch

end MailSync
