import MailSync.Mail.Address
import MailSync.Mail.Flag
import MailSync.Mail.Header.Sender
import MailSync.Mail.Header.SentDate
import MailSync.Mail.Header.Subject

/-!
# Messages

A message of a folder: its ids, its flags, what its header says, and its bytes. A message is built
from bytes in any condition; what the header does not say is absent.
-/

namespace MailSync

/-- A message of a folder. -/
structure Message where
  /-- The server's id of the message within the folder. -/
  id : String
  /-- The id under which a user sees the message. -/
  uid : String
  /-- The folder. -/
  folder : String
  /-- The flags. -/
  flags : FlagSet
  /-- The subject. -/
  subject : Option String
  /-- The sender. -/
  sender : Option Address
  /-- When the message was sent. -/
  sentAt : Option Instant
  /-- The message as bytes, or its beginning. -/
  raw : List UInt8
  deriving DecidableEq, Repr

namespace Message

/-- The message that bytes make under an id in a folder, without flags. -/
def parse (folder id : String) (raw : List UInt8) : Message :=
  { id := id, uid := id, folder := folder, flags := .empty,
    subject := Header.subject? raw, sender := Header.sender? raw, sentAt := Header.sentAt? raw,
    raw := raw }

/-- The message with one flag set or cleared. -/
def setFlag (m : Message) (f : Flag) (value : Bool) : Message :=
  { m with flags := m.flags.set f value }

/-- The message has a flag. -/
def hasFlag (m : Message) (f : Flag) : Bool :=
  m.flags.contains f

/-- The message has been read. -/
def isRead (m : Message) : Bool :=
  m.hasFlag .seen

@[simp] theorem hasFlag_setFlag (m : Message) (f g : Flag) (value : Bool) :
    (m.setFlag f value).hasFlag g = if g = f then value else m.hasFlag g := rfl

end Message

end MailSync
