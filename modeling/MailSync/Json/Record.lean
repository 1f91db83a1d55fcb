import MailSync.Json.Basic

/-!
# Records in JSON

A record is written as an object or as an array of its fields in their order. In an object, members
with other names are passed over, and a field's name may stand only once; in an array every field
has to be there, and nothing else. An absent optional field, and an optional field that is null,
are both read as absent.
-/

namespace MailSync

namespace Json

namespace Value

/-! ### Plain values -/

/-- A 32-bit number, written plainly. -/
def uint32? : Value → Option UInt32
  | .num n => n.toNat?.bind fun k => if k < UInt32.size then some (UInt32.ofNat k) else none
  | _ => none

/-- A 64-bit number, written plainly. -/
def uint64? : Value → Option UInt64
  | .num n => n.toNat?.bind fun k => if k < UInt64.size then some (UInt64.ofNat k) else none
  | _ => none

/-- A byte, written as a plain number. -/
def byte? : Value → Option UInt8
  | .num n => n.toNat?.bind fun k => if k < UInt8.size then some (UInt8.ofNat k) else none
  | _ => none

/-- A truth value. -/
def bool? : Value → Option Bool
  | .bool b => some b
  | _ => none

/-- A text. -/
def text? : Value → Option String
  | .str s => s
  | _ => none

/-- A list of values of one kind. -/
def list? {α : Type} (read : Value → Option α) : Value → Option (List α)
  | .arr items => items.mapM read
  | _ => none

/-! ### Fields -/

/-- The value of the member with a name: absent, present, or refused when it stands twice. -/
def member? (name : String) (members : List (Text × Value)) : Option (Option Value) :=
  match members.filter (·.1 = some name) with
  | [] => some none
  | [(_, v)] => some (some v)
  | _ => none

/-- The values of the named fields in an object. Every name in the object has to be a text. -/
def named? (names : List String) (members : List (Text × Value)) :
    Option (List (Option Value)) :=
  if members.all (·.1.isSome) then names.mapM (member? · members) else none

/-- The values of a record's fields, in order. -/
def fields? (names : List String) : Value → Option (List (Option Value))
  | .obj members => named? names members
  | .arr items => if items.length = names.length then some (items.map some) else none
  | _ => none

/-- The values of a record's fields, in order, where the last ones of an array may be absent. -/
def leadingFields? (names : List String) : Value → Option (List (Option Value))
  | .obj members => named? names members
  | .arr items =>
    if items.length ≤ names.length then
      some (items.map some ++ List.replicate (names.length - items.length) none)
    else none
  | _ => none

/-- Reads a field that has to be present. -/
def required {α : Type} (read : Value → Option α) (field : Option Value) : Option α :=
  field.bind read

/-- Reads a field that may be absent or null. -/
def optional {α : Type} (read : Value → Option α) : Option Value → Option (Option α)
  | none => some none
  | some .null => some none
  | some v => (read v).map some

/-- Reads a field that takes a default value when it is absent. -/
def orElse {α : Type} (read : Value → Option α) (default : α) : Option Value → Option α
  | none => some default
  | some v => read v

end Value

end Json

end MailSync
