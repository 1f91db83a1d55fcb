import MailSync.Store

/-!
# Scripts for message stores

Runs a history of reads and writes on a store.
-/

namespace MailSync

namespace Scenario

/-- A step of a store script. -/
inductive StoreStep where
  /-- Reads an extra text. -/
  | readExtra (folder name : String)
  /-- Writes an extra text. -/
  | writeExtra (folder name value : String)
  /-- Saves a message, whole or in part. -/
  | save (m : Message) (complete : Bool)
  /-- Reads a message. -/
  | get (folder id : String)
  /-- Counts the messages of a folder. -/
  | count (folder : String)
  /-- Closes the store and opens it again. -/
  | reopen
  /-- Shows the texts and the number of a message's row. -/
  | sheet (folder id : String)
  /-- Writes a cell into a column of a message's row from outside. -/
  | edit (folder id : String) (column : Store.Column) (cell : Store.Cell)
  deriving DecidableEq, Repr

/-- The answer to a step of a store script. -/
inductive StoreAnswer where
  | extra (value : Option String)
  | done
  | stored (s : Option Store.Stored)
  | failed (e : StoreError)
  | count (n : Nat)
  | sheet (r : Option Store.Sheet)
  | edited (rows : Nat)
  deriving DecidableEq, Repr

/-- Runs a step on a store. -/
def StoreStep.run (s : Store) : StoreStep → StoreAnswer × Store
  | readExtra folder name => (.extra (s.extra? folder name), s)
  | writeExtra folder name value => (.done, s.setExtra folder name value)
  | save m complete => (.done, s.save m complete)
  | get folder id =>
    match s.get folder id with
    | .ok stored => (.stored stored, s)
    | .error e => (.failed e, s)
  | count folder => (.count (s.count folder), s)
  | reopen => (.done, s)
  | sheet folder id => (.sheet (s.sheet? folder id), s)
  | edit folder id column cell =>
    (.edited (s.edit folder id column cell).1, (s.edit folder id column cell).2)

/-- Runs a script on a store. -/
def runStoreScript (s : Store) : List StoreStep → List StoreAnswer
  | [] => []
  | step :: rest => (step.run s).1 :: runStoreScript (step.run s).2 rest

end Scenario

end MailSync
