import MailSync.Mail.Message.Json
import MailSync.Proofs.Records
import MailSync.Proofs.TimeText

/-!
# Messages read back

A message that has been written as text is read back as it was, with any set of flags, any bytes and
any point in time that a clock shows. A date in a leap second inside of a minute comes back as its
text has it, in the second behind it.

* `Message.ofJson?_toJson` : a message is read back from its record, as far as the text of its date
  tells; so is every part of it.
* `Message.message_readsBack` : a message is read back from its text, and what becomes of its date.
-/

namespace MailSync

open Json (Value)
open Json.Value

@[simp] theorem Address.readsBack : ReadsBack Address.ofJson? Address.toJson where
  reads a := by
    have hfields : a.toJson.fields? ["name", "email"] =
        some [some (orNull text a.name), some (text a.email)] :=
      fields?_record (by simp)
    simp [Address.ofJson?, hfields, required, text_readsBack.reads]
  ne_null _ := nofun

@[simp] theorem Address.integral_toJson (a : Address) : a.toJson.Integral :=
  integral_record (by simp [integral_orNull])

theorem Flag.readsBack : ReadsBack Flag.ofJson? fun f => text f.tag where
  reads f := Flag.ofTag?_tag f
  ne_null _ := nofun

/-- A date is read back as the instant that its text stands for. -/
@[simp] theorem Instant.optional_orNull (t? : Option Instant) :
    optional Instant.ofJson? (some (orNull (fun t => text t.toZuluText) t?)) =
      some (t?.map Instant.asWritten) := by
  cases t? with
  | none => rfl
  | some t =>
    have hread : Instant.ofJson? (text t.toZuluText) = some t.asWritten := by
      rw [Instant.ofJson?, text_readsBack.reads, Option.bind_some, t.parseLenient?_toZuluText]
    change (Instant.ofJson? (text t.toZuluText)).map some = _
    rw [hread]
    rfl

namespace Message

/-- A message with the date that the text of its date stands for. -/
def asWritten (m : Message) : Message :=
  { m with sentAt := m.sentAt.map Instant.asWritten }

theorem asWritten_eq_self_iff {m : Message} : m.asWritten = m ↔ ∀ t ∈ m.sentAt, t.OnClock := by
  have hsentAt : m.asWritten = m ↔ m.sentAt.map Instant.asWritten = m.sentAt :=
    ⟨congrArg Message.sentAt, fun h => by rw [asWritten, h]⟩
  rw [hsentAt]
  cases m.sentAt with
  | none => simp
  | some t => simpa using Instant.asWritten_eq_self_iff

theorem ofJson?_toJson (m : Message) : ofJson? m.toJson = some m.asWritten := by
  have hfields : m.toJson.fields?
      ["id", "uid", "folder_id", "flags", "subject", "from", "sent_at", "raw"] =
      some [some (text m.id), some (text m.uid), some (text m.folder),
        some (.arr (m.flags.toList.map fun f => text f.tag)), some (orNull text m.subject),
        some (orNull Address.toJson m.sender),
        some (orNull (fun t => text t.toZuluText) m.sentAt),
        some (.arr (m.raw.map fun b => nat b.toNat))] :=
    fields?_record (by simp)
  simp [Message.ofJson?, hfields, required, text_readsBack.reads, Flag.readsBack.list.reads,
    byte_readsBack.list.reads, asWritten]

theorem integral_toJson (m : Message) : m.toJson.Integral :=
  integral_record (by simp [integral_orNull, Value.Integral, Json.itemsIntegral_iff])

theorem ofText?_render (m : Message) : ofText? m.render = some m.asWritten := by
  rw [ofText?, render, Json.parse?_render m.integral_toJson, Option.bind_some, m.ofJson?_toJson]

/-- **Messages are read back**: every message is read back from its text as it was, but for a date
in a leap second inside of a minute, which comes back in the second behind it. -/
theorem message_readsBack (m : Message) :
    ofText? m.render = some { m with sentAt := m.sentAt.map Instant.asWritten } ∧
      (ofText? m.render = some m ↔ ∀ t ∈ m.sentAt, secondNanos ≤ t.nano → t.second % 60 = 59) := by
  refine ⟨m.ofText?_render, ?_⟩
  rw [m.ofText?_render, Option.some.injEq]
  exact asWritten_eq_self_iff

/-- A message of a leap second inside of a minute is read back with another date. -/
theorem insideLeap_altered : ¬ ∀ m : Message, ofText? m.render = some m := by
  intro hclaim
  have hread := hclaim { parse "inbox" "5:1" [] with sentAt := some .insideLeap }
  rw [ofText?_render, Option.some.injEq, asWritten_eq_self_iff] at hread
  exact Instant.insideLeap_not_onClock (hread _ rfl)

end Message

end MailSync
