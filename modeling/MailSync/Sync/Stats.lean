/-!
# Statistics of a sync

What a sync reports about itself, and what it tells a listener while it runs.
-/

namespace MailSync

/-- What a sync has done. -/
structure SyncStats where
  /-- Round trips, the handshake included. -/
  roundTrips : Nat := 0
  /-- The sync had to establish the folder's state first. -/
  handshake : Bool := false
  /-- Messages delivered. -/
  messages : Nat := 0
  /-- Of these, the ones with only the beginning of their body. -/
  partials : Nat := 0
  /-- Of these, the ones with their whole body. -/
  completes : Nat := 0
  /-- The server had more changes after the last window. -/
  moreAvailable : Bool := false
  /-- The sync stopped because it was cancelled. -/
  cancelled : Bool := false
  deriving DecidableEq, Repr

/-- What a listener hears of a sync. -/
inductive Notice where
  /-- A sync of the folder starts. -/
  | started (folder : String)
  /-- A message has been stored. The engine marks none as old. -/
  | newMessage (folder id : String) (old : Bool)
  /-- The sync of the folder has ended well. -/
  | finished (folder : String) (stats : SyncStats)
  /-- The sync of the folder has failed. -/
  | failed (folder message : String)
  deriving DecidableEq, Repr

end MailSync
