import MailSync.Json.Basic
import MailSync.Text.Decimal

/-!
# Writing JSON

The compact form: no space between tokens, members in their order, and in strings only what has to
be escaped, by its letter where it has one.
-/

namespace MailSync

namespace Json

/-- A hexadecimal digit, in lower case. -/
def hexDigit (n : Nat) : Char :=
  Nat.digitChar n

/-- A character as it stands in a string. -/
def escape (c : Char) : List Char :=
  if c = '"' then ['\\', '"']
  else if c = '\\' then ['\\', '\\']
  else if c = '\x08' then ['\\', 'b']
  else if c = '\x0C' then ['\\', 'f']
  else if c = '\n' then ['\\', 'n']
  else if c = '\r' then ['\\', 'r']
  else if c = '\t' then ['\\', 't']
  else if c < ' ' then ['\\', 'u', '0', '0', hexDigit (c.toNat / 16), hexDigit (c.toNat % 16)]
  else [c]

/-- A string. One that is no text is written as a lone half of a surrogate pair. -/
def printText : Text → List Char
  | some s => '"' :: s.toList.flatMap escape ++ ['"']
  | none => "\"\\ud800\"".toList

/-- A numeral. -/
def printNumeral (n : Numeral) : List Char :=
  (if n.negative then ['-'] else []) ++ Decimal.print n.whole ++ n.tail

mutual

/-- A value in compact form. -/
def Value.print : Value → List Char
  | .null => "null".toList
  | .bool true => "true".toList
  | .bool false => "false".toList
  | .num n => printNumeral n
  | .str s => printText s
  | .arr items => '[' :: printItems items ++ [']']
  | .obj members => '\x7b' :: printMembers members ++ ['\x7d']

/-- Elements with commas between them. -/
def printItems : List Value → List Char
  | [] => []
  | [v] => v.print
  | v :: rest => v.print ++ ',' :: printItems rest

/-- Members with commas between them. -/
def printMembers : List (Text × Value) → List Char
  | [] => []
  | [(name, v)] => printText name ++ ':' :: v.print
  | (name, v) :: rest => printText name ++ ':' :: v.print ++ ',' :: printMembers rest

end

/-- The text of a value in compact form. -/
def Value.render (v : Value) : String :=
  String.ofList v.print

end Json

end MailSync
