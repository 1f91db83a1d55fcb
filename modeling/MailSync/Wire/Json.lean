import MailSync.Json.Parser
import MailSync.Json.Printer
import MailSync.Json.Record
import MailSync.Wire.Basic

/-!
# Sync documents in JSON

Each part of a document is a record whose absent fields are not written.
-/

namespace MailSync

namespace Wire

open Json (Value)
open Json.Value (text nat recordOfPresent fields? required optional uint32? uint64? bool? text?
  list?)

/-- A 32-bit number as a value. -/
def ofUInt32 (n : UInt32) : Value :=
  nat n.toNat

/-- A 64-bit number as a value. -/
def ofUInt64 (n : UInt64) : Value :=
  nat n.toNat

/-! ### Writing -/

/-- A body preference as a record. -/
def BodyPreference.toJson (p : BodyPreference) : Value :=
  recordOfPresent
    [("Type", some (ofUInt32 p.type)), ("TruncationSize", p.truncationSize.map ofUInt64)]

/-- Options as a record. -/
def Options.toJson (o : Options) : Value :=
  recordOfPresent
    [("MIMESupport", o.mimeSupport.map ofUInt32),
     ("BodyPreference", o.bodyPreference.map BodyPreference.toJson)]

/-- A body as a record. -/
def Body.toJson (b : Body) : Value :=
  recordOfPresent
    [("Type", b.type.map ofUInt32), ("EstimatedDataSize", b.estimatedDataSize.map ofUInt64),
     ("Truncated", b.truncated.map ofUInt32), ("Data", b.data.map text)]

/-- An item's content as a record. -/
def ItemData.toJson (d : ItemData) : Value :=
  recordOfPresent [("Read", d.read.map ofUInt32), ("Body", d.body.map Body.toJson)]

/-- An item as a record. -/
def Item.toJson (i : Item) : Value :=
  recordOfPresent
    [("ServerId", i.serverId.map text), ("Status", i.status.map ofUInt32),
     ("ApplicationData", i.applicationData.map ItemData.toJson)]

/-- Items as a list. -/
def itemsToJson (items : List Item) : Value :=
  .arr (items.map Item.toJson)

/-- Changes as a record. -/
def Commands.toJson (c : Commands) : Value :=
  recordOfPresent [("Add", c.add.map itemsToJson), ("Fetch", c.fetch.map itemsToJson)]

/-- Answers as a record. -/
def Responses.toJson (r : Responses) : Value :=
  recordOfPresent [("Fetch", r.fetch.map itemsToJson)]

/-- A collection as a record. -/
def Collection.toJson (c : Collection) : Value :=
  recordOfPresent
    [("Class", c.className.map text), ("SyncKey", c.syncKey.map text),
     ("CollectionId", c.collectionId.map text), ("Status", c.status.map ofUInt32),
     ("GetChanges", c.getChanges.map ofUInt32), ("WindowSize", c.windowSize.map ofUInt32),
     ("Options", c.options.map Options.toJson), ("Commands", c.commands.map Commands.toJson),
     ("Responses", c.responses.map Responses.toJson),
     ("MoreAvailable", c.moreAvailable.map Value.bool)]

/-- Collections as a record. -/
def Collections.toJson (c : Collections) : Value :=
  recordOfPresent [("Collection", c.collection.map Collection.toJson)]

/-- A document as a record. -/
def Sync.toJson (d : Sync) : Value :=
  recordOfPresent
    [("Status", d.status.map ofUInt32), ("Collections", d.collections.map Collections.toJson)]

/-! ### Reading -/

/-- Reads a body preference. -/
def BodyPreference.ofJson? (v : Value) : Option BodyPreference := do
  let [type, size] ← v.fields? ["Type", "TruncationSize"] | none
  return ⟨← required uint32? type, ← optional uint64? size⟩

/-- Reads options. -/
def Options.ofJson? (v : Value) : Option Options := do
  let [mime, preference] ← v.fields? ["MIMESupport", "BodyPreference"] | none
  return ⟨← optional uint32? mime, ← optional BodyPreference.ofJson? preference⟩

/-- Reads a body. -/
def Body.ofJson? (v : Value) : Option Body := do
  let [type, size, truncated, data] ←
    v.fields? ["Type", "EstimatedDataSize", "Truncated", "Data"] | none
  return ⟨← optional uint32? type, ← optional uint64? size, ← optional uint32? truncated,
    ← optional text? data⟩

/-- Reads an item's content. -/
def ItemData.ofJson? (v : Value) : Option ItemData := do
  let [read, body] ← v.fields? ["Read", "Body"] | none
  return ⟨← optional uint32? read, ← optional Body.ofJson? body⟩

/-- Reads an item. -/
def Item.ofJson? (v : Value) : Option Item := do
  let [id, status, data] ← v.fields? ["ServerId", "Status", "ApplicationData"] | none
  return ⟨← optional text? id, ← optional uint32? status, ← optional ItemData.ofJson? data⟩

/-- Reads a list of items. -/
def items? (v : Value) : Option (List Item) :=
  list? Item.ofJson? v

/-- Reads changes. -/
def Commands.ofJson? (v : Value) : Option Commands := do
  let [add, fetch] ← v.fields? ["Add", "Fetch"] | none
  return ⟨← optional items? add, ← optional items? fetch⟩

/-- Reads answers. -/
def Responses.ofJson? (v : Value) : Option Responses := do
  let [fetch] ← v.fields? ["Fetch"] | none
  return ⟨← optional items? fetch⟩

/-- The names of a collection's fields, in their order. -/
def Collection.fieldNames : List String :=
  ["Class", "SyncKey", "CollectionId", "Status", "GetChanges", "WindowSize", "Options",
   "Commands", "Responses", "MoreAvailable"]

/-- Reads a collection. -/
def Collection.ofJson? (v : Value) : Option Collection := do
  let [className, key, id, status, changes, size, options, commands, responses, more] ←
    v.fields? Collection.fieldNames | none
  return ⟨← optional text? className, ← optional text? key, ← optional text? id,
    ← optional uint32? status, ← optional uint32? changes, ← optional uint32? size,
    ← optional Options.ofJson? options, ← optional Commands.ofJson? commands,
    ← optional Responses.ofJson? responses, ← optional bool? more⟩

/-- Reads collections. -/
def Collections.ofJson? (v : Value) : Option Collections := do
  let [collection] ← v.fields? ["Collection"] | none
  return ⟨← optional Collection.ofJson? collection⟩

/-- Reads a document. -/
def Sync.ofJson? (v : Value) : Option Sync := do
  let [status, collections] ← v.fields? ["Status", "Collections"] | none
  return ⟨← optional uint32? status, ← optional Collections.ofJson? collections⟩

/-! ### Texts -/

/-- The compact JSON text of a document. -/
def Sync.render (d : Sync) : String :=
  d.toJson.render

/-- Reads a document from its text. -/
def Sync.ofText? (text : String) : Option Sync :=
  (Json.parse? text).bind Sync.ofJson?

end Wire

end MailSync
