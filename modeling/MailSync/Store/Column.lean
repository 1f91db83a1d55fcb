import MailSync.Text.Numeral

/-!
# Columns and cells

The columns of a message's row, what may be written into one of them from outside, and what the
column keeps of it. A column of texts keeps a number as its digits, and a column of numbers keeps a
text as a number if it is a numeral. What a column is not made for, it keeps as it is.
-/

namespace MailSync

namespace Store

/-- A column of a message's row. -/
inductive Column where
  | folder
  | id
  | uid
  | flags
  | subject
  | sender
  | sentAt
  | complete
  | raw
  /-- The time of the last save, which no answer shows. -/
  | savedAt
  deriving DecidableEq, Repr

namespace Column

/-- The columns in their order. -/
def all : List Column :=
  [folder, id, uid, flags, subject, sender, sentAt, complete, raw, savedAt]

/-- The name of a column. -/
def name : Column → String
  | folder => "folder_id"
  | id => "id"
  | uid => "uid"
  | flags => "flags"
  | subject => "subject"
  | sender => "sender"
  | sentAt => "sent_at"
  | complete => "complete"
  | raw => "raw"
  | savedAt => "saved_at"

/-- The column with a name. -/
def ofName? (s : String) : Option Column :=
  all.find? (·.name = s)

@[simp] theorem ofName?_name (c : Column) : ofName? c.name = some c := by
  cases c <;> rfl

/-- A cell of the column may be empty. -/
def optional (c : Column) : Bool :=
  c = subject || c = sender || c = sentAt

end Column

/-- The kind of what a cell holds. -/
inductive Kind where
  | null
  | whole
  /-- A number that is no whole number of 64 bits. -/
  | fraction
  | text
  | bytes
  deriving DecidableEq, Repr

/-- The name of a kind. -/
def Kind.name : Kind → String
  | null => "Null"
  | whole => "Integer"
  | fraction => "Real"
  | text => "Text"
  | bytes => "Blob"

/-- What a row holds in a column. -/
inductive Field (α : Type) where
  /-- Something that the column is made for. -/
  | proper (a : α)
  /-- Something of another kind. -/
  | alien (kind : Kind)
  deriving DecidableEq, Repr

namespace Field

/-- What the column is made for, if it is there. -/
def get? {α : Type} : Field α → Option α
  | proper a => some a
  | alien _ => none

/-- What a field becomes when its proper contents are changed. -/
def map {α β : Type} (f : α → β) : Field α → Field β
  | proper a => proper (f a)
  | alien kind => alien kind

end Field

/-- What is written into a column from outside. -/
inductive Cell where
  | null
  | number (n : Int)
  | text (s : String)
  | bytes (b : List UInt8)
  deriving DecidableEq, Repr

namespace Cell

/-- A number in decimal digits. -/
def numberText (n : Int) : String :=
  String.ofList ((if n < 0 then ['-'] else []) ++ Decimal.print n.natAbs)

/-- What a column of texts makes of a cell. -/
def inTexts : Cell → Cell
  | number n => text (numberText n)
  | c => c

/-- The kind of a cell. -/
def kind : Cell → Kind
  | null => .null
  | number _ => .whole
  | text _ => .text
  | bytes _ => .bytes

/-- What a column of texts keeps. -/
def asText (c : Cell) : Field String :=
  match c.inTexts with
  | text s => .proper s
  | other => .alien other.kind

/-- What a column of texts keeps that may be empty. -/
def asOptionalText : Cell → Field (Option String)
  | null => .proper none
  | c => c.asText.map some

/-- What a column of numbers keeps. -/
def asNumber : Cell → Field Int
  | number n => .proper n
  | text s =>
    match Numeral.read? s with
    | none => .alien .text
    | some n =>
      match n.toInt64? with
      | some m => .proper m
      | none => .alien .fraction
  | other => .alien other.kind

/-- What a column of bytes keeps. -/
def asBytes : Cell → Field (List UInt8)
  | bytes b => .proper b
  | other => .alien other.kind

end Cell

end Store

end MailSync
