import MailSync.Mail.Header.Block
import MailSync.Mail.Header.EncodedWord

/-!
# Subjects

The text of an unstructured header value. What stands on a line is one token without the blanks
around it, and an encoded word is a token wherever it stands. A space joins tokens, except between
encoded words and before one that comes first.
-/

namespace MailSync

namespace Header

open Bytes (byte isBlank startsBlank)

/-- The reader of an unstructured value. -/
structure TextReader where
  /-- The bytes of the token being read up to its last visible one, last first. -/
  token : List UInt8
  /-- The blanks behind them, last first. -/
  blanks : List UInt8
  /-- The tokens before, with the spaces between them, last first. -/
  parts : List String
  /-- A word may follow without a space: the last token was an encoded word, or there is none. -/
  afterWord : Bool

namespace TextReader

/-- The reader before the first byte. -/
def start : TextReader :=
  ⟨[], [], [], true⟩

/-- Ends the token being read. -/
def endToken (r : TextReader) : TextReader :=
  match r.token with
  | [] => r
  | token =>
    let parts := if r.parts = [] then [] else " " :: r.parts
    ⟨[], [], Utf8.decodeLossy token.reverse :: parts, false⟩

/-- Adds an encoded word. -/
def addWord (r : TextReader) (word : String) : TextReader :=
  let r := r.endToken
  ⟨[], [], word :: (if r.afterWord then r.parts else " " :: r.parts), true⟩

/-- Adds a visible byte to the token being read. -/
def extend (r : TextReader) (b : UInt8) : TextReader :=
  if r.token = [] then { r with token := [b], blanks := [] }
  else { r with token := b :: r.blanks ++ r.token, blanks := [] }

/-- Takes one byte of a value. -/
def step (r : TextReader) (b : UInt8) (rest : List UInt8) : TextReader × Nat :=
  if b = byte '\n' then (r.endToken, if startsBlank rest then 1 else 0)
  else if isBlank b ∨ b = byte '\r' then ({ r with blanks := b :: r.blanks }, 0)
  else if b = byte '=' then
    match wordAfterEquals? rest with
    | some (word, used) => (r.addWord word, used)
    | none => (r.extend b, 0)
  else (r.extend b, 0)

end TextReader

/-- The text of an unstructured field. A field that the message's end cuts short has none. -/
def text? (f : Field) : Option String :=
  if f.closed then
    match (Bytes.scan TextReader.step .start f.value).endToken.parts with
    | [] => none
    | parts => some (String.join parts.reverse)
  else none

/-- The subject of a message. -/
def subject? (message : List UInt8) : Option String :=
  (lastField? "subject" message).bind text?

end Header

end MailSync
