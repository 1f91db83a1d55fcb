import MailSync.Packed.Frame
import MailSync.Store.Basic
import MailSync.Store.Column
import MailSync.Store.Index
import MailSync.Time.Printer
import MailSync.Time.Reader

/-!
# Messages in rows

The store that keeps a message as a row of columns: flags, sender and time as text, completeness as
a number, and the bytes packed. What is read back is what these texts say, so a sender is the one
that its text writes, and a time is there if its text is one of RFC 3339. A row that has been
written to from outside may hold what its columns are not made for. Then it cannot be read, until a
save replaces it.

* `row?_save` : a save replaces the row at its place and no other, unless it would replace a
  complete message by a beginning.
-/

namespace MailSync

namespace Store

/-- The bytes of a message as a row keeps them. -/
inductive Blob where
  /-- Bytes that have been packed here. -/
  | packed (bytes : List UInt8)
  /-- Bytes from outside, which are packed ones if they are frames. -/
  | foreign (bytes : List UInt8)
  deriving DecidableEq, Repr

/-- The bytes that a blob unpacks to. -/
def Blob.unpack? : Blob → Option (List UInt8)
  | packed bytes => some bytes
  | foreign bytes => Packed.unpack? bytes

/-- The columns of a message. -/
structure Row where
  uid : Field String
  flags : Field String
  subject : Field (Option String)
  sender : Field (Option String)
  sentAt : Field (Option String)
  complete : Field Int
  raw : Field Blob
  /-- The time of the last save. What it is does not matter, if it is a text. -/
  savedAt : Field Unit
  deriving DecidableEq, Repr

/-- The texts of a row, and its number. -/
structure Sheet where
  uid : String
  flags : String
  subject : Option String
  sender : Option String
  sentAt : Option String
  complete : Int
  deriving DecidableEq, Repr

/-- The text of a set of flags: their names, with commas between them. -/
def flagsText (s : FlagSet) : String :=
  ",".intercalate (s.toList.map Flag.name)

/-- The parts of a text between commas. -/
def splitCommas : List Char → List (List Char)
  | [] => [[]]
  | c :: rest =>
    if c = ',' then [] :: splitCommas rest
    else
      match splitCommas rest with
      | [] => [[c]]
      | part :: parts => (c :: part) :: parts

/-- The set of flags that a text names. Parts that name no flag are passed over. -/
def flagsOfText (s : String) : FlagSet :=
  .ofList ((splitCommas s.toList).filterMap fun part => Flag.ofName? (String.ofList part))

/-- The proper contents of a field. Contents of another kind are an error. -/
def Field.read {α : Type} (column : Column) : Field α → Except StoreError α
  | proper a => .ok a
  | alien kind => .error (.alienField column kind)

namespace Row

/-- The row of a message. -/
def ofMessage (m : Message) (complete : Bool) : Row where
  uid := .proper m.uid
  flags := .proper (flagsText m.flags)
  subject := .proper m.subject
  sender := .proper (m.sender.map Address.display)
  sentAt := .proper (m.sentAt.map Instant.toOffsetText)
  complete := .proper (if complete then 1 else 0)
  raw := .proper (.packed m.raw)
  savedAt := .proper ()

/-- The message that a row at a place holds, if every field is proper and the bytes can be
unpacked. -/
def read (key : Key) (r : Row) : Except StoreError Stored := do
  let uid ← r.uid.read .uid
  let flags ← r.flags.read .flags
  let subject ← r.subject.read .subject
  let sender ← r.sender.read .sender
  let sentAt ← r.sentAt.read .sentAt
  let complete ← r.complete.read .complete
  let blob ← r.raw.read .raw
  r.savedAt.read .savedAt
  match blob.unpack? with
  | none => .error .cannotUnpack
  | some raw =>
    .ok
      { message :=
          { id := key.2, uid := uid, folder := key.1, flags := flagsOfText flags,
            subject := subject, sender := sender.map Address.parse,
            sentAt := sentAt.bind Instant.parseStrict?, raw := raw }
        complete := complete ≠ 0 }

/-- The texts of a row and its number, if their fields are proper. -/
def sheet? (r : Row) : Option Sheet := do
  let uid ← r.uid.get?
  let flags ← r.flags.get?
  let subject ← r.subject.get?
  let sender ← r.sender.get?
  let sentAt ← r.sentAt.get?
  let complete ← r.complete.get?
  return ⟨uid, flags, subject, sender, sentAt, complete⟩

/-- The row counts as complete. It does unless its number is zero. -/
def isComplete (r : Row) : Bool :=
  r.complete ≠ .proper 0

@[simp] theorem isComplete_ofMessage (m : Message) (complete : Bool) :
    (ofMessage m complete).isComplete = complete := by
  cases complete <;> rfl

/-- The row after a cell has been written into a column from outside. Folder and id are the place
of a row, and no part of it. -/
def write (r : Row) (column : Column) (cell : Cell) : Row :=
  match column with
  | .folder | .id => r
  | .uid => { r with uid := cell.asText }
  | .flags => { r with flags := cell.asText }
  | .subject => { r with subject := cell.asOptionalText }
  | .sender => { r with sender := cell.asOptionalText }
  | .sentAt => { r with sentAt := cell.asOptionalText }
  | .complete => { r with complete := cell.asNumber }
  | .raw => { r with raw := cell.asBytes.map .foreign }
  | .savedAt => { r with savedAt := cell.asText.map fun _ => () }

end Row

/-- A store in rows. -/
structure Rows where
  /-- Extra texts by folder and name. -/
  extras : Index Key String
  /-- Rows by folder and id. -/
  messages : Index Key Row
  /-- The places of the rows whose folder or id is no text. No read finds them. -/
  strays : List (Cell × Cell)

namespace Rows

/-- The store that holds nothing. -/
def empty : Rows :=
  ⟨.empty, .empty, []⟩

/-- The extra text of a folder under a name. -/
def extra? (t : Rows) (folder name : String) : Option String :=
  t.extras.get? (folder, name)

/-- The store in which a folder has an extra text under a name. -/
def setExtra (t : Rows) (folder name value : String) : Rows :=
  { t with extras := t.extras.insert (folder, name) value }

/-- The row of a folder under an id. -/
def row? (t : Rows) (folder id : String) : Option Row :=
  t.messages.get? (folder, id)

/-- The message of a folder under an id. -/
def get (t : Rows) (folder id : String) : Except StoreError (Option Stored) :=
  match t.row? folder id with
  | none => .ok none
  | some r => (r.read (folder, id)).map some

/-- The store has the whole of a message. -/
def hasComplete (t : Rows) (k : Key) : Bool :=
  (t.messages.get? k).any (·.isComplete)

/-- The store after a message has been saved, whole or in part. -/
def save (t : Rows) (m : Message) (complete : Bool) : Rows :=
  if complete = false ∧ t.hasComplete (keyOf m) then t
  else { t with messages := t.messages.insert (keyOf m) (.ofMessage m complete) }

/-- The number of messages in a folder. -/
def count (t : Rows) (folder : String) : Nat :=
  t.messages.countKeys (·.1 = folder) + t.strays.countP (·.1 = .text folder)

/-- The store in which a row has been moved to another place, unless another row has that one. -/
def move? (t : Rows) (key : Key) (r : Row) (place : Cell × Cell) : Option Rows :=
  let others := t.messages.erase key
  match place with
  | (.text folder, .text id) =>
    if (others.get? (folder, id)).isSome then none
    else some { t with messages := others.insert (folder, id) r }
  | stray =>
    if stray ∈ t.strays then none
    else some { t with messages := others, strays := stray :: t.strays }

/-- The store after a cell has been written into a column of a row from outside, if the column
takes it. -/
def write? (t : Rows) (key : Key) (column : Column) (cell : Cell) : Option Rows :=
  match t.messages.get? key with
  | none => none
  | some r =>
    if cell = .null ∧ column.optional = false then none
    else
      match column with
      | .folder => t.move? key r (cell.inTexts, .text key.2)
      | .id => t.move? key r (.text key.1, cell.inTexts)
      | _ => some { t with messages := t.messages.insert key (r.write column cell) }

/-- The store after a cell has been written into a column of a row from outside, and the number of
rows that have changed. -/
def edit (t : Rows) (folder id : String) (column : Column) (cell : Cell) : Nat × Rows :=
  match t.write? (folder, id) column cell with
  | none => (0, t)
  | some t => (1, t)

@[simp] theorem extra?_setExtra (t : Rows) (folder name value f n : String) :
    (t.setExtra folder name value).extra? f n =
      if (f, n) = (folder, name) then some value else t.extra? f n :=
  t.extras.get?_insert _ _ _

@[simp] theorem row?_setExtra (t : Rows) (folder name value f id : String) :
    (t.setExtra folder name value).row? f id = t.row? f id := rfl

theorem row?_save (t : Rows) (m : Message) (complete : Bool) (f id : String) :
    (t.save m complete).row? f id =
      if (f, id) = keyOf m ∧ (complete = true ∨ t.hasComplete (keyOf m) = false) then
        some (.ofMessage m complete)
      else t.row? f id := by
  unfold save
  split
  · rename_i h
    simp [h.1, h.2]
  · rename_i h
    have h' : complete = true ∨ t.hasComplete (keyOf m) = false := by
      cases complete <;> simp_all
    simp [row?, h']

@[simp] theorem extra?_save (t : Rows) (m : Message) (complete : Bool) (f n : String) :
    (t.save m complete).extra? f n = t.extra? f n := by
  unfold save
  split <;> rfl

theorem extra?_move? {t t' : Rows} {key : Key} {r : Row} {place : Cell × Cell}
    (h : t.move? key r place = some t') (f n : String) : t'.extra? f n = t.extra? f n := by
  simp only [move?] at h
  split at h
  all_goals
    split at h
    · cases h
    · cases h
      rfl

@[simp] theorem extra?_edit (t : Rows) (folder id : String) (column : Column) (cell : Cell)
    (f n : String) : (t.edit folder id column cell).2.extra? f n = t.extra? f n := by
  unfold edit
  cases hwrite : t.write? (folder, id) column cell with
  | none => rfl
  | some t' =>
    unfold write? at hwrite
    split at hwrite
    · cases hwrite
    · split at hwrite
      · cases hwrite
      · split at hwrite
        · exact extra?_move? hwrite f n
        · exact extra?_move? hwrite f n
        · cases hwrite
          rfl

end Rows

end Store

end MailSync
