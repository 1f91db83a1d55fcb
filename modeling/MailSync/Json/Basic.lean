/-!
# JSON values

A JSON document as a tree. Object members keep their order and may repeat a name; a numeral keeps
the text of its fraction and exponent, so nothing is lost between reading and writing.
-/

namespace MailSync

namespace Json

/-- A number as written: sign, digits before the point, and the text of what follows them (a
fraction, an exponent, both or nothing). -/
structure Numeral where
  /-- The number is written with a minus sign. -/
  negative : Bool
  /-- The digits before the point, as a number. -/
  whole : Nat
  /-- The fraction and the exponent, as written. -/
  tail : List Char
  deriving DecidableEq, Repr

/-- The content of a JSON string: `none` where an escape leaves half of a surrogate pair alone,
which is well-formed JSON and yet no text. -/
abbrev Text := Option String

/-- A JSON value. -/
inductive Value where
  | null
  | bool (b : Bool)
  | num (n : Numeral)
  | str (s : Text)
  | arr (items : List Value)
  | obj (members : List (Text × Value))
  deriving Repr

namespace Numeral

/-- The numeral of a natural number. -/
def ofNat (n : Nat) : Numeral :=
  ⟨false, n, []⟩

/-- The natural number that a numeral writes plainly, without sign, fraction or exponent. -/
def toNat? (n : Numeral) : Option Nat :=
  if n.negative = false ∧ n.tail = [] then some n.whole else none

/-- The integer that a numeral writes without fraction or exponent. -/
def toInt? (n : Numeral) : Option Int :=
  if n.tail = [] then some (if n.negative then -(n.whole : Int) else n.whole) else none

@[simp] theorem toNat?_ofNat (n : Nat) : (ofNat n).toNat? = some n := by
  simp [ofNat, toNat?]

end Numeral

namespace Value

/-- A natural number as a value. -/
def nat (n : Nat) : Value :=
  .num (.ofNat n)

/-- A text as a value. -/
def text (s : String) : Value :=
  .str (some s)

/-- An object with the given members. -/
def record (fields : List (String × Value)) : Value :=
  .obj (fields.map fun (name, v) => (some name, v))

/-- An object with those members that are present. -/
def recordOfPresent (fields : List (String × Option Value)) : Value :=
  record (fields.filterMap fun (name, v?) => v?.map (name, ·))

/-- An optional value, with null for an absent one. -/
def orNull {α : Type} (write : α → Value) : Option α → Value
  | none => .null
  | some a => write a

end Value

end Json

end MailSync
