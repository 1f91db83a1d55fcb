import MailSync.Wire.Basic

/-!
# Requests

The three requests of a client: the handshake that establishes a folder's state, the request for
the next window of changes, and the request for one message.

* `windowSize_of_le` : between 1 and 30 the size of a window is taken as it is.
-/

namespace MailSync

namespace Wire

/-- The sync key of a folder whose state has not been established. -/
def initialKey : String :=
  "0"

/-- The class of mail items. -/
def emailClass : String :=
  "Email"

/-- The greatest number of items in one window. -/
def maxWindow : Nat :=
  30

/-- The number of items that a request for `n` asks for: at least 1 and at most `maxWindow`. -/
def windowSize (n : Nat) : UInt32 :=
  UInt32.ofNat (min maxWindow (max 1 n))

/-- The wish for whole MIME messages, cut off at a size if one is given. -/
def mimeOptions (truncationSize : Option UInt64) : Options :=
  { mimeSupport := some 2, bodyPreference := some ⟨4, truncationSize⟩ }

namespace Sync

/-- The request that establishes a folder's state. -/
def handshake (folder key : String) : Sync :=
  ofCollection
    { className := some emailClass, syncKey := some key, collectionId := some folder }

/-- The request for the next changes of a folder, `size` at most. -/
def window (folder key : String) (size : Nat) (maxBody : UInt64) : Sync :=
  ofCollection
    { className := some emailClass, syncKey := some key, collectionId := some folder,
      getChanges := some 1, windowSize := some (windowSize size),
      options := some (mimeOptions (some maxBody)) }

/-- The request for one message with its whole body. -/
def fetch (folder key id : String) : Sync :=
  ofCollection
    { className := some emailClass, syncKey := some key, collectionId := some folder,
      options := some (mimeOptions none),
      commands := some { fetch := some [{ serverId := some id }] } }

end Sync

theorem windowSize_of_le {n : Nat} (h₁ : 1 ≤ n) (h₂ : n ≤ maxWindow) :
    (windowSize n).toNat = n := by
  have hn : min maxWindow (max 1 n) = n := by
    rw [Nat.max_eq_right h₁, Nat.min_eq_right h₂]
  rw [windowSize, hn]
  refine UInt32.toNat_ofNat_of_lt' (Nat.lt_of_le_of_lt h₂ ?_)
  decide

end Wire

end MailSync
