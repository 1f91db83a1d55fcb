import MailSync.Text.Extending
import MailSync.Text.Unprintable

/-!
# Quoted text

A text between double quotes on one line, for messages that name a file. A quote and a backslash
get a backslash, four control characters a letter behind one, and every other character that is
unprintable or joins the one before it stands as its code point in hexadecimal.
-/

namespace MailSync

namespace Text

/-- A number in lower-case hexadecimal, without leading zeros. -/
def hex (n : Nat) : List Char :=
  Nat.toDigits 16 n

/-- A character as it stands between quotes. -/
def quoteChar (c : Char) : List Char :=
  if c = '"' then ['\\', '"']
  else if c = '\\' then ['\\', '\\']
  else if c = '\t' then ['\\', 't']
  else if c = '\r' then ['\\', 'r']
  else if c = '\n' then ['\\', 'n']
  else if c = '\x00' then ['\\', '0']
  else if isUnprintable c ∨ isExtending c then
    ['\\', 'u', '\x7b'] ++ hex c.toNat ++ ['\x7d']
  else [c]

/-- A text between double quotes. -/
def quoted (s : String) : String :=
  String.ofList (['"'] ++ s.toList.flatMap quoteChar ++ ['"'])

end Text

end MailSync
