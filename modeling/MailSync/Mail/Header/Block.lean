import MailSync.Text.Bytes

/-!
# The header block

The header fields at the start of a message. A field is a name, a colon and a value up to the end of
its line, where a line that starts with a blank continues the one before it. The block ends at the
first line without visible characters, or with the message.
-/

namespace MailSync

namespace Header

open Bytes (byte isBlank isSpace startsBlank)

/-- A header field. -/
structure Field where
  /-- The name, in lower case. -/
  name : List UInt8
  /-- The value, with the line ends inside it and without the one behind it. -/
  value : List UInt8
  /-- The value's last line has an end. -/
  closed : Bool
  deriving DecidableEq, Repr

/-- Where the reader of a header block stands. -/
inductive Place where
  /-- Before a name. -/
  | between
  /-- In a name: the bytes up to its last visible one, and the blanks behind that, last first. -/
  | name (visible : List UInt8) (blanks : List UInt8)
  /-- In the value of a field: the bytes so far, last first. -/
  | value (name : List UInt8) (bytes : List UInt8)
  /-- Behind the block. -/
  | done

/-- The reader of a header block: where it stands, and the fields before that, last first. -/
structure Reader where
  place : Place
  fields : List Field

/-- A name as fields are told apart by it. -/
def nameOf (visible : List UInt8) : List UInt8 :=
  visible.reverse.map Bytes.toLower

namespace Reader

/-- Takes one byte of a message. -/
def step (r : Reader) (b : UInt8) (rest : List UInt8) : Reader × Nat :=
  match r.place with
  | .between =>
    if b = byte '\n' then (⟨.done, r.fields⟩, 0)
    else if isSpace b ∨ b = byte ':' then
      if b = byte ':' then (⟨.name [] [], r.fields⟩, 0) else (r, 0)
    else (⟨.name [b] [], r.fields⟩, 0)
  | .name visible blanks =>
    if b = byte '\n' then (⟨.between, r.fields⟩, 0)
    else if b = byte ':' then
      if visible = [] then (r, 0) else (⟨.value (nameOf visible) [], r.fields⟩, 0)
    else if isSpace b then
      if visible = [] then (r, 0) else (⟨.name visible (b :: blanks), r.fields⟩, 0)
    else (⟨.name (b :: blanks ++ visible) [], r.fields⟩, 0)
  | .value name bytes =>
    if b = byte '\n' ∧ ¬ startsBlank rest then
      (⟨.between, ⟨name, bytes.reverse, true⟩ :: r.fields⟩, 0)
    else (⟨.value name (b :: bytes), r.fields⟩, 0)
  | .done => (r, rest.length)

/-- The fields read when the message ends, last first. A name or value that the end cuts short is
still a field. -/
def finish (r : Reader) : List Field :=
  match r.place with
  | .name visible _ => if visible = [] then r.fields else ⟨nameOf visible, [], false⟩ :: r.fields
  | .value name bytes => ⟨name, bytes.reverse, false⟩ :: r.fields
  | _ => r.fields

end Reader

/-- The fields of a message's header block, last first. -/
def fieldsBackwards (message : List UInt8) : List Field :=
  (Bytes.scan Reader.step ⟨.between, []⟩ message).finish

/-- The last field with a name, given in lower case. Earlier ones do not count. -/
def lastField? (name : String) (message : List UInt8) : Option Field :=
  (fieldsBackwards message).find? (·.name = name.toList.map byte)

end Header

end MailSync
