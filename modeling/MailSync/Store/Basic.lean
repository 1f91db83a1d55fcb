import MailSync.Mail.Message
import MailSync.Store.Column
import MailSync.Text.Quoted

/-!
# Stored messages

What every message store keeps: extra texts by folder and name, and messages by folder and id, each
complete or only a beginning. A complete message is never replaced by a beginning.
-/

namespace MailSync

namespace Store

/-- A message in a store. -/
structure Stored where
  /-- The message. -/
  message : Message
  /-- The message has its whole body. -/
  complete : Bool
  deriving DecidableEq, Repr

/-- The place of an entry: a folder, and an id or a name within it. -/
abbrev Key :=
  String × String

/-- The place of a message. -/
def keyOf (m : Message) : Key :=
  (m.folder, m.id)

/-- The name of the extra text that holds a folder's sync key. -/
def syncKeyName : String :=
  "EXTRA_SYNC_KEY"

end Store

/-- Why a store could not answer. -/
inductive StoreError where
  /-- The store's file cannot be opened. -/
  | cannotOpen (path : String)
  /-- A message's bytes cannot be unpacked. -/
  | cannotUnpack
  /-- A row holds something in a column that the column is not made for. -/
  | alienField (column : Store.Column) (kind : Store.Kind)
  deriving DecidableEq, Repr

/-- The error in words. -/
def StoreError.message : StoreError → String
  | cannotOpen path => "Failed to open database at " ++ Text.quoted path
  | cannotUnpack => "Failed to decompress raw message"
  | alienField column kind =>
    s!"Invalid column type {kind.name} at index: {Store.Column.all.idxOf column}, name: "
      ++ column.name

end MailSync
