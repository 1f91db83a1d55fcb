import MailSync.Store.Rows
import MailSync.Store.Table

/-!
# Message stores

A store of either kind, with the operations that both have.

* `syncKey?_setExtra`, `syncKey?_save` : a folder's sync key changes when it is written, and not when
  a message is saved.
-/

namespace MailSync

/-- A message store: in memory, or in rows. -/
inductive Store where
  | table (t : Store.Table)
  | rows (t : Store.Rows)

namespace Store

/-- The extra text of a folder under a name. -/
def extra? (s : Store) (folder name : String) : Option String :=
  match s with
  | table t => t.extra? folder name
  | rows t => t.extra? folder name

/-- The store in which a folder has an extra text under a name. -/
def setExtra (s : Store) (folder name value : String) : Store :=
  match s with
  | table t => table (t.setExtra folder name value)
  | rows t => rows (t.setExtra folder name value)

/-- The message of a folder under an id. -/
def get (s : Store) (folder id : String) : Except StoreError (Option Stored) :=
  match s with
  | table t => .ok (t.get? folder id)
  | rows t => t.get folder id

/-- The store after a message has been saved, whole or in part. -/
def save (s : Store) (m : Message) (complete : Bool) : Store :=
  match s with
  | table t => table (t.save m complete)
  | rows t => rows (t.save m complete)

/-- The number of messages in a folder. -/
def count (s : Store) (folder : String) : Nat :=
  match s with
  | table t => t.count folder
  | rows t => t.count folder

/-- The texts and the number of a row, where there are rows. -/
def sheet? (s : Store) (folder id : String) : Option Sheet :=
  match s with
  | table _ => none
  | rows t => (t.row? folder id).bind Row.sheet?

/-- The store after a cell has been written into a column of a row from outside, and the number of
rows that have changed. -/
def edit (s : Store) (folder id : String) (column : Column) (cell : Cell) : Nat × Store :=
  match s with
  | table t => (0, table t)
  | rows t => ((t.edit folder id column cell).1, rows (t.edit folder id column cell).2)

/-- The sync key that a store holds for a folder. -/
def syncKey? (s : Store) (folder : String) : Option String :=
  s.extra? folder syncKeyName

@[simp] theorem extra?_setExtra (s : Store) (folder name value f n : String) :
    (s.setExtra folder name value).extra? f n =
      if (f, n) = (folder, name) then some value else s.extra? f n := by
  cases s with
  | table t => exact t.extra?_setExtra folder name value f n
  | rows t => exact t.extra?_setExtra folder name value f n

@[simp] theorem extra?_save (s : Store) (m : Message) (complete : Bool) (f n : String) :
    (s.save m complete).extra? f n = s.extra? f n := by
  cases s with
  | table t => exact t.extra?_save m complete f n
  | rows t => exact t.extra?_save m complete f n

@[simp] theorem syncKey?_setExtra (s : Store) (folder value f : String) :
    (s.setExtra folder syncKeyName value).syncKey? f =
      if f = folder then some value else s.syncKey? f := by
  simp [syncKey?]

@[simp] theorem syncKey?_save (s : Store) (m : Message) (complete : Bool) (f : String) :
    (s.save m complete).syncKey? f = s.syncKey? f :=
  s.extra?_save m complete f syncKeyName

@[simp] theorem syncKey?_edit (s : Store) (folder id : String) (column : Column) (cell : Cell)
    (f : String) : (s.edit folder id column cell).2.syncKey? f = s.syncKey? f := by
  cases s with
  | table t => rfl
  | rows t => exact t.extra?_edit folder id column cell f syncKeyName

end Store

end MailSync
