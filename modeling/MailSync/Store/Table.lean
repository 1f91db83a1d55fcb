import MailSync.Store.Basic
import MailSync.Store.Index

/-!
# Messages in memory

The store that keeps messages as they are.

* `get?_save` : a save replaces the message at its place and no other, unless it would replace a
  complete message by a beginning.
-/

namespace MailSync

namespace Store

/-- A store in memory. -/
structure Table where
  /-- Extra texts by folder and name. -/
  extras : Index Key String
  /-- Messages by folder and id. -/
  messages : Index Key Stored

namespace Table

/-- The store that holds nothing. -/
def empty : Table :=
  ⟨.empty, .empty⟩

/-- The extra text of a folder under a name. -/
def extra? (t : Table) (folder name : String) : Option String :=
  t.extras.get? (folder, name)

/-- The store in which a folder has an extra text under a name. -/
def setExtra (t : Table) (folder name value : String) : Table :=
  { t with extras := t.extras.insert (folder, name) value }

/-- The message of a folder under an id. -/
def get? (t : Table) (folder id : String) : Option Stored :=
  t.messages.get? (folder, id)

/-- The store has the whole of a message. -/
def hasComplete (t : Table) (k : Key) : Bool :=
  (t.messages.get? k).any (·.complete)

/-- The store after a message has been saved, whole or in part. -/
def save (t : Table) (m : Message) (complete : Bool) : Table :=
  if complete = false ∧ t.hasComplete (keyOf m) then t
  else { t with messages := t.messages.insert (keyOf m) ⟨m, complete⟩ }

/-- The number of messages in a folder. -/
def count (t : Table) (folder : String) : Nat :=
  t.messages.countKeys (·.1 = folder)

@[simp] theorem extra?_setExtra (t : Table) (folder name value f n : String) :
    (t.setExtra folder name value).extra? f n =
      if (f, n) = (folder, name) then some value else t.extra? f n :=
  t.extras.get?_insert _ _ _

@[simp] theorem get?_setExtra (t : Table) (folder name value f id : String) :
    (t.setExtra folder name value).get? f id = t.get? f id := rfl

theorem get?_save (t : Table) (m : Message) (complete : Bool) (f id : String) :
    (t.save m complete).get? f id =
      if (f, id) = keyOf m ∧ (complete = true ∨ t.hasComplete (keyOf m) = false) then
        some ⟨m, complete⟩
      else t.get? f id := by
  unfold save
  split
  · rename_i h
    simp [h.1, h.2]
  · rename_i h
    have h' : complete = true ∨ t.hasComplete (keyOf m) = false := by
      cases complete <;> simp_all
    simp [get?, h']

@[simp] theorem extra?_save (t : Table) (m : Message) (complete : Bool) (f n : String) :
    (t.save m complete).extra? f n = t.extra? f n := by
  unfold save
  split <;> rfl

end Table

end Store

end MailSync
