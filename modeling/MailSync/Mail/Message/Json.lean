import MailSync.Json.Parser
import MailSync.Json.Printer
import MailSync.Json.Record
import MailSync.Mail.Message
import MailSync.Time.Printer
import MailSync.Time.Reader

/-!
# Messages in JSON

A message as a record: absent parts are null, flags are a list of names, and bytes a list of
numbers. A flag may also be written as an object with its name and null.
-/

namespace MailSync

open Json (Value)
open Json.Value (text nat record orNull fields? required optional text? byte? list?)

/-! ### Writing -/

/-- An address as a record. -/
def Address.toJson (a : Address) : Value :=
  record [("name", orNull text a.name), ("email", text a.email)]

/-- A message as a record. -/
def Message.toJson (m : Message) : Value :=
  record
    [("id", text m.id), ("uid", text m.uid), ("folder_id", text m.folder),
     ("flags", .arr (m.flags.toList.map fun f => text f.tag)),
     ("subject", orNull text m.subject), ("from", orNull Address.toJson m.sender),
     ("sent_at", orNull (fun t => text t.toZuluText) m.sentAt),
     ("raw", .arr (m.raw.map fun b => nat b.toNat))]

/-! ### Reading -/

/-- Reads an address. -/
def Address.ofJson? (v : Value) : Option Address := do
  let [name, email] ← v.fields? ["name", "email"] | none
  return ⟨← optional text? name, ← required text? email⟩

/-- Reads a flag. -/
def Flag.ofJson? : Value → Option Flag
  | .str s => s.bind Flag.ofTag?
  | .obj [(some name, .null)] => Flag.ofTag? name
  | _ => none

/-- Reads an instant. -/
def Instant.ofJson? (v : Value) : Option Instant :=
  v.text?.bind Instant.parseLenient?

/-- Reads a message. -/
def Message.ofJson? (v : Value) : Option Message := do
  let [id, uid, folder, flags, subject, sender, sentAt, raw] ←
    v.fields? ["id", "uid", "folder_id", "flags", "subject", "from", "sent_at", "raw"] | none
  return {
    id := ← required text? id
    uid := ← required text? uid
    folder := ← required text? folder
    flags := .ofList (← required (list? Flag.ofJson?) flags)
    subject := ← optional text? subject
    sender := ← optional Address.ofJson? sender
    sentAt := ← optional Instant.ofJson? sentAt
    raw := ← required (list? byte?) raw }

/-! ### Texts -/

/-- The compact JSON text of a message. -/
def Message.render (m : Message) : String :=
  m.toJson.render

/-- Reads a message from its text. -/
def Message.ofText? (text : String) : Option Message :=
  (Json.parse? text).bind Message.ofJson?

end MailSync
