import MailSync.Account
import MailSync.Config.Basic
import MailSync.Config.Path
import MailSync.Failure
import MailSync.Gate
import MailSync.Json.Basic
import MailSync.Json.Parser
import MailSync.Json.Printer
import MailSync.Json.Record
import MailSync.Json.Token
import MailSync.Locks
import MailSync.Mail.Address
import MailSync.Mail.Flag
import MailSync.Mail.Header.Block
import MailSync.Mail.Header.EncodedWord
import MailSync.Mail.Header.Sender
import MailSync.Mail.Header.SentDate
import MailSync.Mail.Header.Subject
import MailSync.Mail.Message
import MailSync.Mail.Message.Json
import MailSync.Packed.Bits
import MailSync.Packed.Block
import MailSync.Packed.Checksum
import MailSync.Packed.Frame
import MailSync.Packed.Header
import MailSync.Packed.JoinedStream
import MailSync.Packed.Literals
import MailSync.Packed.PrefixCode
import MailSync.Packed.Sequences
import MailSync.Packed.StateTable
import MailSync.Plan
import MailSync.Proofs.Batching
import MailSync.Proofs.Budget
import MailSync.Proofs.BudgetBound
import MailSync.Proofs.Cancellation
import MailSync.Proofs.ConfigText
import MailSync.Proofs.Contract
import MailSync.Proofs.Course
import MailSync.Proofs.Cursor
import MailSync.Proofs.Delivery
import MailSync.Proofs.Digits
import MailSync.Proofs.Discipline
import MailSync.Proofs.Effects
import MailSync.Proofs.Exchange
import MailSync.Proofs.FailStop
import MailSync.Proofs.FetchOutcome
import MailSync.Proofs.Fidelity
import MailSync.Proofs.FolderContents
import MailSync.Proofs.FolderSync
import MailSync.Proofs.Gate
import MailSync.Proofs.GuardHistory
import MailSync.Proofs.Handshake
import MailSync.Proofs.Interleaving
import MailSync.Proofs.JsonGrammar
import MailSync.Proofs.JsonText
import MailSync.Proofs.JsonTokens
import MailSync.Proofs.MessageFetch
import MailSync.Proofs.MessageText
import MailSync.Proofs.NestedGate
import MailSync.Proofs.PendingDeltas
import MailSync.Proofs.Progress
import MailSync.Proofs.Provisioning
import MailSync.Proofs.Records
import MailSync.Proofs.Reporting
import MailSync.Proofs.RequestCount
import MailSync.Proofs.Resumption
import MailSync.Proofs.RowsRefinement
import MailSync.Proofs.SaveHistory
import MailSync.Proofs.Script
import MailSync.Proofs.SenderText
import MailSync.Proofs.Session
import MailSync.Proofs.SingleFlight
import MailSync.Proofs.StorageFrame
import MailSync.Proofs.Tenure
import MailSync.Proofs.TimeText
import MailSync.Proofs.Trips
import MailSync.Proofs.WholeBodies
import MailSync.Proofs.WindowSizes
import MailSync.Proofs.WireText
import MailSync.Scenario.Desk
import MailSync.Scenario.GateScript
import MailSync.Scenario.LockScript
import MailSync.Scenario.Run
import MailSync.Scenario.StoreScript
import MailSync.Scenario.World
import MailSync.Store
import MailSync.Store.Basic
import MailSync.Store.Column
import MailSync.Store.Index
import MailSync.Store.Rows
import MailSync.Store.Table
import MailSync.Sync.Exchange
import MailSync.Sync.Fetch
import MailSync.Sync.Folder
import MailSync.Sync.Stats
import MailSync.Text.Base64
import MailSync.Text.Blank
import MailSync.Text.Bytes
import MailSync.Text.Charset
import MailSync.Text.Charset.Big5
import MailSync.Text.Charset.ByteTable
import MailSync.Text.Charset.Chinese
import MailSync.Text.Charset.Gbk
import MailSync.Text.Charset.Japanese
import MailSync.Text.Charset.JisX0208
import MailSync.Text.Charset.JisX0212
import MailSync.Text.Charset.Korean
import MailSync.Text.Charset.KsX1001
import MailSync.Text.Charset.Pairs
import MailSync.Text.Charset.PlaneTable
import MailSync.Text.Charset.Utf16
import MailSync.Text.Charset.Utf7
import MailSync.Text.Decimal
import MailSync.Text.Extending
import MailSync.Text.Numeral
import MailSync.Text.Quoted
import MailSync.Text.Unprintable
import MailSync.Text.Utf8
import MailSync.Time.Date
import MailSync.Time.Instant
import MailSync.Time.Printer
import MailSync.Time.Reader
import MailSync.Wire.Basic
import MailSync.Wire.Json
import MailSync.Wire.Request
