import MailSync.Json.Token

/-!
# Reading JSON

The grammar of RFC 8259 over tokens, read in one pass with the list of the containers that are
still open. Nesting is bounded by nothing but the text: the state holds the open containers, so no
depth is refused.
-/

namespace MailSync

namespace Json

/-- A container that has been opened and not closed, its parts last first. -/
inductive Container where
  /-- The elements before the one being read. -/
  | array (items : List Value)
  /-- The members before the one being read, and the name of that one. -/
  | object (members : List (Text × Value)) (name : Text)

/-- What has been read so far, inside the containers still open (innermost first). -/
inductive State where
  /-- A value has to follow. -/
  | value (outer : List Container)
  /-- An array has just been opened: a value or its end has to follow. -/
  | element (outer : List Container)
  /-- A member's name has to follow, or the object's end if it has just been opened. -/
  | member (outer : List Container) (members : List (Text × Value)) (closable : Bool)
  /-- A member's name has been read. -/
  | colon (outer : List Container) (members : List (Text × Value)) (name : Text)
  /-- A value has been completed. -/
  | complete (outer : List Container) (v : Value)

namespace State

/-- Reads a token where a value has to follow. -/
def pushValue? (outer : List Container) : Token → Option State
  | .null => some (.complete outer .null)
  | .bool b => some (.complete outer (.bool b))
  | .num n => some (.complete outer (.num n))
  | .str s => some (.complete outer (.str s))
  | .openArray => some (.element outer)
  | .openObject => some (.member outer [] true)
  | _ => none

/-- Reads one token. -/
def push? : State → Token → Option State
  | .value outer, t => pushValue? outer t
  | .element outer, .closeArray => some (.complete outer (.arr []))
  | .element outer, t => pushValue? (.array [] :: outer) t
  | .member outer members _, .str name => some (.colon outer members name)
  | .member outer members true, .closeObject => some (.complete outer (.obj members.reverse))
  | .colon outer members name, .colon => some (.value (.object members name :: outer))
  | .complete (.array items :: outer) v, .comma => some (.value (.array (v :: items) :: outer))
  | .complete (.array items :: outer) v, .closeArray =>
    some (.complete outer (.arr (v :: items).reverse))
  | .complete (.object members name :: outer) v, .comma =>
    some (.member outer ((name, v) :: members) false)
  | .complete (.object members name :: outer) v, .closeObject =>
    some (.complete outer (.obj ((name, v) :: members).reverse))
  | _, _ => none

/-- The value that has been read, if it is complete and no container is open. -/
def value? : State → Option Value
  | .complete [] v => some v
  | _ => none

end State

/-- The value that a list of tokens writes. -/
def ofTokens? (ts : List Token) : Option Value :=
  (ts.foldlM State.push? (.value [])).bind State.value?

/-- The value that a text writes, with nothing but space around it. -/
def parse? (s : String) : Option Value :=
  (tokens? s.toList).bind ofTokens?

end Json

end MailSync
