import MailSync.Json.Parser
import MailSync.Json.Printer
import MailSync.Json.Record
import MailSync.Text.Utf8

/-!
# Configuration of a sync

How many messages a sync delivers at most, and above which size bodies are cut off. Both have a
default, and a configuration is read from a JSON text or from a file of one.
-/

namespace MailSync

/-- The bounds of a sync. -/
structure SyncConfig where
  /-- How many messages one sync delivers at most. -/
  visibleLimit : UInt64 := 25
  /-- The size in bytes above which the server cuts a body off. -/
  maxDownloadSize : UInt64 := 32768
  deriving DecidableEq, Repr

/-- Why a configuration could not be read. -/
inductive ConfigError where
  /-- The text is no configuration. -/
  | invalidText
  /-- The file cannot be read as text. -/
  | unreadableFile (path : String)
  /-- The file's text is no configuration. -/
  | invalidFile (path : String)
  deriving DecidableEq, Repr

/-- The error in words. -/
def ConfigError.message : ConfigError → String
  | invalidText => "Failed to parse sync config JSON"
  | unreadableFile path => s!"Failed to read config file: {path}"
  | invalidFile path => s!"Failed to parse config file: {path}"

/-- What stands at the path of a configuration file. -/
inductive FileState where
  /-- Nothing. -/
  | missing
  /-- A directory. -/
  | directory
  /-- A file with these bytes. -/
  | file (bytes : List UInt8)
  deriving DecidableEq, Repr

namespace SyncConfig

/-- The name of the configuration file. -/
def fileName : String :=
  "sync.json"

open Json.Value (record nat orElse uint64?)

/-- A configuration as a JSON record. -/
def toJson (c : SyncConfig) : Json.Value :=
  record
    [("default_visible_limit", nat c.visibleLimit.toNat),
     ("maximum_auto_download_message_size", nat c.maxDownloadSize.toNat)]

/-- Reads a configuration from a JSON record, taking the default for each absent field. -/
def ofJson? (v : Json.Value) : Option SyncConfig := do
  let [limit, size] ←
    v.leadingFields? ["default_visible_limit", "maximum_auto_download_message_size"] | none
  return ⟨← orElse uint64? 25 limit, ← orElse uint64? 32768 size⟩

/-- Reads a configuration from a text. -/
def parse (s : String) : Except ConfigError SyncConfig :=
  match (Json.parse? s).bind ofJson? with
  | some c => .ok c
  | none => .error .invalidText

/-- The compact JSON text of a configuration. -/
def render (c : SyncConfig) : String :=
  c.toJson.render

/-- Reads a configuration from the file at a path, which has to exist. -/
def ofFile (path : String) : FileState → Except ConfigError SyncConfig
  | .missing => .error (.unreadableFile path)
  | .directory => .error (.unreadableFile path)
  | .file bytes =>
    match Utf8.decode? bytes with
    | none => .error (.unreadableFile path)
    | some s => (parse s).mapError fun _ => .invalidFile path

/-- Reads a configuration from the file at a path, or takes the default one if nothing stands
there. -/
def load (path : String) : FileState → Except ConfigError SyncConfig
  | .missing => .ok {}
  | state => ofFile path state

end SyncConfig

end MailSync
