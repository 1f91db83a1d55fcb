import MailSync.Mail.Address
import MailSync.Mail.Header.Block
import MailSync.Mail.Header.EncodedWord

/-!
# Senders

The first entry of an address list. An entry is made of name, address and comment tokens: a token
with an at sign outside quotes and everything in angle brackets belongs to the address, what stands
in parentheses to the comment, and everything else to the name. A comma ends an entry, and so does
the semicolon behind a group; a group's own name makes no entry.
-/

namespace MailSync

namespace Header

open Bytes (byte isBlank startsBlank)

/-- What encloses a byte of an address list. -/
inductive Enclosure where
  /-- Nothing. -/
  | name
  /-- Quotes. -/
  | quote
  /-- Angle brackets. -/
  | address
  /-- Parentheses. -/
  | comment
  deriving DecidableEq, Repr

/-- An entry of an address list. -/
structure Entry where
  /-- The display name. -/
  name : Option String
  /-- The address. -/
  email : Option String
  deriving DecidableEq, Repr

/-- The entry made of the tokens for name, address and comment, if there are any. A comment joins a
name in parentheses, and without an address the name stands for it. -/
def Entry.ofTokens? (name mail comment : List String) : Option Entry :=
  let all := String.join
  match mail, name, comment with
  | [], [], [] => none
  | [], [], _ => some ⟨some (all comment), none⟩
  | [], _, [] => some ⟨some (all name), none⟩
  | [], _, _ => some ⟨some (all comment), some (all name)⟩
  | _, [], [] => some ⟨none, some (all mail)⟩
  | _, [], _ => some ⟨some (all comment), some (all mail)⟩
  | _, _, [] => some ⟨some (all name), some (all mail)⟩
  | _, _, _ => some ⟨some (all name ++ " (" ++ all comment ++ ")"), some (all mail)⟩

/-- The reader of an address list. -/
structure ListReader where
  /-- The bytes of the token being read up to its last significant one, last first. -/
  token : List UInt8
  /-- The bytes passed over behind them, last first. -/
  passed : List UInt8
  /-- The token being read holds an at sign. -/
  sawAt : Bool
  /-- The next byte may start a word. -/
  atStart : Bool
  /-- The next byte is taken for itself. -/
  escaped : Bool
  /-- What encloses the next byte. -/
  enclosure : Enclosure
  /-- What encloses that, innermost first. -/
  outer : List Enclosure
  /-- The name's tokens. -/
  name : List String
  /-- The address's tokens. -/
  mail : List String
  /-- The comment's tokens. -/
  comment : List String
  /-- The first entry of the list. -/
  first : Option Entry

namespace ListReader

/-- The reader before the first byte. -/
def start : ListReader :=
  ⟨[], [], false, true, false, .name, [], [], [], [], none⟩

/-- Tokens with a space before a further one. -/
def spaced (tokens : List String) : List String :=
  if tokens = [] then [] else tokens ++ [" "]

/-- Ends the token being read, and adds it with a trailing text to what it belongs to. -/
def endTokenWith (r : ListReader) (trail : List String) : ListReader :=
  match r.token with
  | [] => r
  | bytes =>
    let text := Utf8.decodeLossy bytes.reverse :: trail
    let r' : ListReader :=
      { r with token := [], passed := [], sawAt := false, atStart := true, escaped := false }
    match r.enclosure with
    | .address => { r' with mail := r.mail ++ text }
    | .quote => { r' with name := r.name ++ text }
    | .comment => { r' with comment := spaced r.comment ++ text }
    | .name =>
      if r.sawAt then { r' with mail := r.mail ++ text }
      else { r' with name := spaced r.name ++ text }

/-- Ends the token being read. -/
def endToken (r : ListReader) : ListReader :=
  r.endTokenWith []

/-- Ends the entry being read. -/
def endEntry (r : ListReader) : ListReader :=
  { r with
    name := [], mail := [], comment := [],
    first := r.first.or (Entry.ofTokens? r.name r.mail r.comment) }

/-- Drops the tokens read so far, which name a group. -/
def startGroup (r : ListReader) : ListReader :=
  { r with name := [], mail := [], comment := [] }

/-- Adds the text of an encoded word. -/
def addWord (r : ListReader) (word : String) : ListReader :=
  let r := r.endTokenWith (if r.enclosure = .quote then [] else [" "])
  if r.enclosure = .comment then { r with comment := r.comment ++ [word] }
  else { r with name := r.name ++ [word] }

/-- Goes into an enclosure. -/
def enter (r : ListReader) (e : Enclosure) : ListReader :=
  { r with enclosure := e, outer := r.enclosure :: r.outer }

/-- Goes out of the enclosure. -/
def leave (r : ListReader) : ListReader :=
  { r with enclosure := r.outer.headD .name, outer := r.outer.tail }

/-- Adds a byte to the token being read. -/
def extend (r : ListReader) (b : UInt8) : ListReader :=
  let token := if r.token = [] then [b] else b :: r.passed ++ r.token
  { r with token := token, passed := [], escaped := false, atStart := false }

/-- Passes over a byte. -/
def pass (r : ListReader) (b : UInt8) : ListReader :=
  { r with passed := b :: r.passed }

/-- Takes a blank, which belongs to the token inside quotes alone. -/
def blank (r : ListReader) (b : UInt8) : ListReader :=
  if r.enclosure = .quote then { r.extend b with atStart := true }
  else { r.pass b with atStart := true, escaped := false }

/-- Takes a backslash, which ends the token and escapes the next byte. Inside quotes the token has
what was passed over before the backslash too. -/
def backslash (r : ListReader) : ListReader :=
  let r :=
    if r.enclosure = .quote ∧ r.token ≠ [] then
      { r with token := r.passed ++ r.token, passed := [] }
    else r
  { r.endToken with escaped := true }

/-- Takes an opening parenthesis outside quotes. Inside a comment it is part of the token. -/
def openComment (r : ListReader) (b : UInt8) : ListReader :=
  if r.enclosure = .comment then (r.enter .comment).extend b
  else r.endToken.enter .comment

/-- Takes a closing parenthesis inside a comment. One that closes an inner parenthesis is part of
the token. -/
def closeComment (r : ListReader) (b : UInt8) : ListReader :=
  if r.leave.enclosure = .comment then r.leave.extend b else r.endToken.leave

/-- Takes one byte of a value. -/
def step (r : ListReader) (b : UInt8) (rest : List UInt8) : ListReader × Nat :=
  if b = byte '\n' then
    ({ r.endToken with atStart := true }, if startsBlank rest then 1 else 0)
  else if b = byte '\\' ∧ r.enclosure ≠ .name ∧ ¬ r.escaped then (r.backslash, 0)
  else if b = byte ',' ∧ r.enclosure = .name then (r.endToken.endEntry, 0)
  else if b = byte '<' ∧ r.enclosure = .name then
    ({ r with sawAt := false }.endToken.enter .address, 0)
  else if b = byte '>' ∧ r.enclosure = .address then (r.endToken.leave, 0)
  else if b = byte '"' ∧ ¬ r.escaped ∧ r.enclosure = .name then ((r.enter .quote).endToken, 0)
  else if b = byte '"' ∧ ¬ r.escaped ∧ r.enclosure = .quote then (r.endToken.leave, 0)
  else if isBlank b then (r.blank b, 0)
  else if b = byte '\r' then (r.pass b, 0)
  else if b = byte '(' ∧ r.enclosure ≠ .quote ∧ ¬ r.escaped then (r.openComment b, 0)
  else if b = byte ')' ∧ r.enclosure = .comment ∧ ¬ r.escaped then (r.closeComment b, 0)
  else if b = byte ':' ∧ r.enclosure = .name ∧ ¬ r.escaped then (r.endToken.startGroup, 0)
  else if b = byte ';' ∧ r.enclosure = .name then (r.endToken.endEntry, 0)
  else if b = byte '@' ∧ r.enclosure = .name then ({ r with sawAt := true }.extend b, 0)
  else if b = byte '=' ∧ r.atStart ∧ ¬ r.escaped then
    match wordAfterEquals? rest with
    | some (word, used) => (r.addWord word, used)
    | none => (r.extend b, 0)
  else (r.extend b, 0)

end ListReader

/-- The first entry of an address field. Where the message's end cuts the field short, the token
there is lost. -/
def firstEntry? (f : Field) : Option Entry :=
  let r := Bytes.scan ListReader.step .start f.value
  (if f.closed then r.endToken else r).endEntry.first

/-- The sender of a message, if the first entry has an address. -/
def sender? (message : List UInt8) : Option Address := do
  let field ← lastField? "from" message
  let entry ← firstEntry? field
  let email ← entry.email
  return ⟨entry.name, email⟩

end Header

end MailSync
