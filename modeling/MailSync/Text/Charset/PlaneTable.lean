/-!
# Planes of characters

The characters of a set that needs more than one byte, in one sequence of places. It is kept in rows
of 94 places, and a space stands in a place without a character.
-/

namespace MailSync

namespace Charset

/-- A plane of characters. -/
structure PlaneTable where
  /-- The rows, without the empty places at their ends. -/
  rows : Array String

namespace PlaneTable

/-- The character at a place. -/
def char? (t : PlaneTable) (place : Nat) : Option Char :=
  ((t.rows[place / 94]?).bind (·.toList[place % 94]?)).filter (· ≠ ' ')

end PlaneTable

end Charset

end MailSync
