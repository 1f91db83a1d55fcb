/-!
# Failures

A failure has one cause and any number of contexts, added by the operations that it passed through
on its way out. Callers tell causes apart by the cause itself, whatever the contexts are.

* `demandsProvisioning_within` : a context hides no demand for provisioning.
* `message_within` : a context comes first in the message.
-/

namespace MailSync

/-- What is missing from a response that a server has marked as successful. -/
inductive Defect where
  /-- The response carries no collection. -/
  | noCollection
  /-- The collection carries no sync key. -/
  | noSyncKey
  /-- An added item carries no server id. -/
  | itemWithoutId
  /-- More items are announced, and the window brings none. -/
  | emptyWindow
  /-- Another defect, in words. -/
  | described (text : String)
  deriving DecidableEq, Repr

/-- A defect in words. -/
def Defect.text : Defect → String
  | noCollection => "no collection in response"
  | noSyncKey => "no sync key in response"
  | itemWithoutId => "added item without server id"
  | emptyWindow => "more available but window carried no items"
  | described text => text

/-- Why an operation failed. -/
inductive Cause where
  /-- The server wants the device provisioned before it answers. -/
  | provisionRequired (status : UInt32)
  /-- The server refused a folder sync. -/
  | syncFailed (folder : String) (status : UInt32)
  /-- The server refused a fetch. -/
  | fetchFailed (id : String) (status : Option UInt32)
  /-- The server accepted a fetch and returned no result for the message. -/
  | messageNotFound (id : String)
  /-- An operation on the folder is in progress. -/
  | folderBusy (folder : String)
  /-- A successful response lacks what it has to carry. -/
  | malformedResponse (folder : String) (defect : Defect)
  /-- A failure of a collaborator, in its own words. -/
  | other (text : String)
  deriving DecidableEq, Repr

/-- An optional status as a fetch failure shows it. -/
def statusText : Option UInt32 → String
  | none => "None"
  | some status => s!"Some({status.toNat})"

/-- A cause in words. -/
def Cause.text : Cause → String
  | provisionRequired status => s!"Device provisioning required (status {status.toNat})"
  | syncFailed folder status => s!"Sync of folder {folder} failed with status {status.toNat}"
  | fetchFailed id status => s!"Couldn't fetch message {id} (status {statusText status})"
  | messageNotFound id => s!"Message not found: {id}"
  | folderBusy folder => s!"Folder {folder} already has an operation in flight"
  | malformedResponse folder defect =>
    s!"Malformed sync response for folder {folder}: {defect.text}"
  | other text => text

/-- A cause inside contexts, the outermost first. -/
structure Failure where
  /-- What was being done when the failure came, the outermost activity first. -/
  contexts : List String
  /-- The cause. -/
  cause : Cause
  deriving DecidableEq, Repr

namespace Failure

/-- A failure without contexts. -/
def ofCause (cause : Cause) : Failure :=
  ⟨[], cause⟩

/-- A failure inside one more context. -/
def within (context : String) (e : Failure) : Failure :=
  { e with contexts := context :: e.contexts }

/-- The contexts and the cause, the outermost first, as one line. -/
def message (e : Failure) : String :=
  ": ".intercalate (e.contexts ++ [e.cause.text])

/-- The outermost part of the message. -/
def headline (e : Failure) : String :=
  e.contexts.headD e.cause.text

/-- The cause is a demand for provisioning. -/
def demandsProvisioning (e : Failure) : Bool :=
  match e.cause with
  | .provisionRequired _ => true
  | _ => false

@[simp] theorem cause_within (context : String) (e : Failure) :
    (e.within context).cause = e.cause := rfl

@[simp] theorem demandsProvisioning_within (context : String) (e : Failure) :
    (e.within context).demandsProvisioning = e.demandsProvisioning := rfl

@[simp] theorem headline_within (context : String) (e : Failure) :
    (e.within context).headline = context := rfl

theorem message_within (context : String) (e : Failure) :
    (e.within context).message = context ++ ": " ++ e.message := by
  have h : ∃ a r, e.contexts ++ [e.cause.text] = a :: r := by
    cases e.contexts with
    | nil => exact ⟨_, _, rfl⟩
    | cons a r => exact ⟨a, r ++ [e.cause.text], rfl⟩
  obtain ⟨a, r, h⟩ := h
  simp only [message, within, List.cons_append, h, String.intercalate_cons_cons]

end Failure

end MailSync
