/-!
# Sync documents

The one document that a client and a server exchange, as a request and as a response. Every part
may be absent except the type in a body preference. A request or a response carries at most one
collection, which stands for one folder.
-/

namespace MailSync

namespace Wire

/-- Which body a client wants. -/
structure BodyPreference where
  /-- The kind of body. -/
  type : UInt32
  /-- The size above which the server cuts a body off. -/
  truncationSize : Option UInt64 := none
  deriving DecidableEq, Repr

/-- What a client wants from a collection. -/
structure Options where
  /-- How much of the MIME message to deliver. -/
  mimeSupport : Option UInt32 := none
  /-- Which body to deliver. -/
  bodyPreference : Option BodyPreference := none
  deriving DecidableEq, Repr

/-- The body of an item. -/
structure Body where
  /-- The kind of body. -/
  type : Option UInt32 := none
  /-- The size that the server estimates. -/
  estimatedDataSize : Option UInt64 := none
  /-- The data is only the beginning of the message when this is 1. -/
  truncated : Option UInt32 := none
  /-- The message, or its beginning. -/
  data : Option String := none
  deriving DecidableEq, Repr

/-- The content of an item. -/
structure ItemData where
  /-- The message has been read when this is 1. -/
  read : Option UInt32 := none
  /-- The message's body. -/
  body : Option Body := none
  deriving DecidableEq, Repr

/-- A message that a server adds, that a client asks for, or that answers such a request. -/
structure Item where
  /-- The server's id of the message. -/
  serverId : Option String := none
  /-- How the server answered the request for the message. -/
  status : Option UInt32 := none
  /-- The content of the message. -/
  applicationData : Option ItemData := none
  deriving DecidableEq, Repr

/-- Changes: items that the server adds, or that the client asks for. -/
structure Commands where
  /-- The items that the server adds. -/
  add : Option (List Item) := none
  /-- The items that the client asks for. -/
  fetch : Option (List Item) := none
  deriving DecidableEq, Repr

/-- Answers to what a client asked for by id. -/
structure Responses where
  /-- The items that the client asked for. -/
  fetch : Option (List Item) := none
  deriving DecidableEq, Repr

/-- One folder's part of a document. -/
structure Collection where
  /-- The class of the items. -/
  className : Option String := none
  /-- The point in the folder's history that the document starts from or leads to. -/
  syncKey : Option String := none
  /-- The folder. -/
  collectionId : Option String := none
  /-- The server's verdict, 1 for success. -/
  status : Option UInt32 := none
  /-- The client wants changes when this is 1. -/
  getChanges : Option UInt32 := none
  /-- How many items the server may add at most. -/
  windowSize : Option UInt32 := none
  /-- What the client wants. -/
  options : Option Options := none
  /-- Changes. -/
  commands : Option Commands := none
  /-- Answers. -/
  responses : Option Responses := none
  /-- The server has more changes. -/
  moreAvailable : Option Bool := none
  deriving DecidableEq, Repr

/-- The collections of a document. -/
structure Collections where
  /-- The only collection. -/
  collection : Option Collection := none
  deriving DecidableEq, Repr

/-- A request or a response. -/
structure Sync where
  /-- The server's verdict on the whole request. -/
  status : Option UInt32 := none
  /-- The collections. -/
  collections : Option Collections := none
  deriving DecidableEq, Repr

/-- The status of success. -/
def statusOk : UInt32 :=
  1

/-- The statuses by which a server demands provisioning. -/
def provisioningStatuses : List UInt32 :=
  [142, 143, 144]

namespace Item

/-- The item's body. -/
def body? (item : Item) : Option Body :=
  item.applicationData.bind (·.body)

/-- The body is only the beginning of the message. -/
def truncated (item : Item) : Bool :=
  item.body?.bind (·.truncated) = some 1

/-- The message has been read. -/
def read (item : Item) : Bool :=
  item.applicationData.bind (·.read) = some 1

/-- The message, or its beginning, as text. -/
def content (item : Item) : String :=
  (item.body?.bind (·.data)).getD ""

end Item

namespace Collection

/-- The items that the server adds. -/
def added (c : Collection) : List Item :=
  (c.commands.bind (·.add)).getD []

/-- The items that answer requests by id. -/
def fetched (c : Collection) : List Item :=
  (c.responses.bind (·.fetch)).getD []

/-- The server has more changes. -/
def hasMore (c : Collection) : Bool :=
  c.moreAvailable = some true

end Collection

namespace Sync

/-- The collection of a document. -/
def collection? (d : Sync) : Option Collection :=
  d.collections.bind (·.collection)

/-- The document with one collection and nothing else. -/
def ofCollection (c : Collection) : Sync :=
  ⟨none, some ⟨some c⟩⟩

/-- The status by which a response demands provisioning: that of the whole response, or else that
of its collection. -/
def provisioningDemand? (d : Sync) : Option UInt32 :=
  [d.status, d.collection?.bind (·.status)].reduceOption.find? (· ∈ provisioningStatuses)

@[simp] theorem collection?_ofCollection (c : Collection) :
    (ofCollection c).collection? = some c := rfl

end Sync

end Wire

end MailSync
