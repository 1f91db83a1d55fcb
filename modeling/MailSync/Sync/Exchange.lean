import MailSync.Plan
import MailSync.Store.Basic
import MailSync.Text.Utf8
import MailSync.Wire.Request

/-!
# Exchanges with a server

The steps that syncing a folder and fetching a message share: the folder's sync key is read and
written, a request is sent behind the provisioning gate, and an item becomes a message.
-/

namespace MailSync

namespace Job

variable {α : Type}

/-- The job that fails. -/
def fail (cause : Cause) : Job α :=
  throw (.ofCause cause)

/-- The job that asks a question which may be answered with a failure. -/
def attempt (p : Plan (Except Failure α)) : Job α :=
  ExceptT.mk p

/-- The job that asks a question which cannot fail. -/
def query (q : Query) : Job q.Answer :=
  ExceptT.lift (Plan.query q)

/-- A job whose failures get one more context. -/
def within (context : String) (p : Plan (Except Failure α)) : Job α :=
  ExceptT.mk ((·.mapError (Failure.within context)) <$> p)

end Job

namespace Exchange

/-- Reads the sync key of a folder, which is the initial one if none is stored. -/
def readKey (folder : String) : Job String := do
  let key? ← Job.within s!"Failed to read sync key for folder {folder}"
    (Plan.query (.readExtra folder Store.syncKeyName))
  return key?.getD Wire.initialKey

/-- Stores the sync key of a folder. -/
def writeKey (folder key : String) : Job Unit :=
  Job.within s!"Failed to persist sync key for folder {folder}"
    (Plan.query (.writeExtra folder Store.syncKeyName key))

/-- Sends a request, and takes a response that demands provisioning for a failure. -/
def exchange (d : Wire.Sync) : Job Wire.Sync := do
  let response ← Job.within "Sync request failed" (Plan.request d)
  match response.provisioningDemand? with
  | some status => Job.fail (.provisionRequired status)
  | none => return response

/-- Sends a request behind the provisioning gate. -/
def roundTrip (d : Wire.Sync) : Job Wire.Sync :=
  Job.attempt (Plan.device.ensureProvisioned (exchange d).run)

/-- The collection of a response that the server has marked as successful. -/
def accepted (folder : String) (response : Wire.Sync) : Except Failure Wire.Collection :=
  match response.collection? with
  | none => .error (.ofCause (.malformedResponse folder .noCollection))
  | some c =>
    if c.status = some Wire.statusOk then .ok c
    else .error (.ofCause (.syncFailed folder (c.status.getD 0)))

/-- The sync key that a response leads to. -/
def newKey (folder : String) (c : Wire.Collection) : Except Failure String :=
  match c.syncKey with
  | none => .error (.ofCause (.malformedResponse folder .noSyncKey))
  | some key => .ok key

/-- The message that an item makes under an id in a folder. -/
def materialize (folder id : String) (item : Wire.Item) : Message :=
  let m := Message.parse folder id (Utf8.encode item.content)
  if item.read then m.setFlag .seen true else m

end Exchange

end MailSync
