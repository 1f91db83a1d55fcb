import MailSync.Proofs.Records
import MailSync.Wire.Json

/-!
# Sync documents read back

A document that has been written as text is read back as it was, with every part that is present and
every part that is absent. A part that is present and empty is told from an absent one, as only the
latter is not written.

* `Wire.Sync.readsBack` : a document is read back from its record; so is every part of it.
* `Wire.document_readsBack` : a document is read back from its text, and a text that is read as a
  document may be exchanged for the text of the document.
-/

namespace MailSync

namespace Wire

open Json.Value

/-! ### Numbers -/

@[simp] theorem uint32_readsBack : ReadsBack uint32? ofUInt32 where
  reads n := by simp [ofUInt32, nat, uint32?, n.toNat_lt_size]
  ne_null _ := nofun

@[simp] theorem uint64_readsBack : ReadsBack uint64? ofUInt64 where
  reads n := by simp [ofUInt64, nat, uint64?, n.toNat_lt_size]
  ne_null _ := nofun

@[simp] theorem integral_ofUInt32 (n : UInt32) : (ofUInt32 n).Integral := rfl

@[simp] theorem integral_ofUInt64 (n : UInt64) : (ofUInt64 n).Integral := rfl

/-! ### What a client wants -/

@[simp] theorem BodyPreference.readsBack :
    ReadsBack BodyPreference.ofJson? BodyPreference.toJson where
  reads p := by
    have hfields : p.toJson.fields? ["Type", "TruncationSize"] =
        some [some (ofUInt32 p.type), p.truncationSize.map ofUInt64] :=
      fields?_recordOfPresent (by simp)
    simp [BodyPreference.ofJson?, hfields, required, uint32_readsBack.reads]
  ne_null _ := nofun

@[simp] theorem BodyPreference.integral_toJson (p : BodyPreference) : p.toJson.Integral :=
  integral_recordOfPresent (by simp)

@[simp] theorem Options.readsBack : ReadsBack Options.ofJson? Options.toJson where
  reads o := by
    have hfields : o.toJson.fields? ["MIMESupport", "BodyPreference"] =
        some [o.mimeSupport.map ofUInt32, o.bodyPreference.map BodyPreference.toJson] :=
      fields?_recordOfPresent (by simp)
    simp [Options.ofJson?, hfields]
  ne_null _ := nofun

@[simp] theorem Options.integral_toJson (o : Options) : o.toJson.Integral :=
  integral_recordOfPresent (by simp)

/-! ### Items -/

@[simp] theorem Body.readsBack : ReadsBack Body.ofJson? Body.toJson where
  reads b := by
    have hfields : b.toJson.fields? ["Type", "EstimatedDataSize", "Truncated", "Data"] =
        some [b.type.map ofUInt32, b.estimatedDataSize.map ofUInt64, b.truncated.map ofUInt32,
          b.data.map text] :=
      fields?_recordOfPresent (by simp)
    simp [Body.ofJson?, hfields]
  ne_null _ := nofun

@[simp] theorem Body.integral_toJson (b : Body) : b.toJson.Integral :=
  integral_recordOfPresent (by simp)

@[simp] theorem ItemData.readsBack : ReadsBack ItemData.ofJson? ItemData.toJson where
  reads d := by
    have hfields : d.toJson.fields? ["Read", "Body"] =
        some [d.read.map ofUInt32, d.body.map Body.toJson] :=
      fields?_recordOfPresent (by simp)
    simp [ItemData.ofJson?, hfields]
  ne_null _ := nofun

@[simp] theorem ItemData.integral_toJson (d : ItemData) : d.toJson.Integral :=
  integral_recordOfPresent (by simp)

@[simp] theorem Item.readsBack : ReadsBack Item.ofJson? Item.toJson where
  reads i := by
    have hfields : i.toJson.fields? ["ServerId", "Status", "ApplicationData"] =
        some [i.serverId.map text, i.status.map ofUInt32,
          i.applicationData.map ItemData.toJson] :=
      fields?_recordOfPresent (by simp)
    simp [Item.ofJson?, hfields]
  ne_null _ := nofun

@[simp] theorem Item.integral_toJson (i : Item) : i.toJson.Integral :=
  integral_recordOfPresent (by simp)

@[simp] theorem items_readsBack : ReadsBack items? itemsToJson :=
  Item.readsBack.list

@[simp] theorem integral_itemsToJson (items : List Item) : (itemsToJson items).Integral :=
  Json.itemsIntegral_iff.2 (by simp)

/-! ### Collections -/

@[simp] theorem Commands.readsBack : ReadsBack Commands.ofJson? Commands.toJson where
  reads c := by
    have hfields : c.toJson.fields? ["Add", "Fetch"] =
        some [c.add.map itemsToJson, c.fetch.map itemsToJson] :=
      fields?_recordOfPresent (by simp)
    simp [Commands.ofJson?, hfields]
  ne_null _ := nofun

@[simp] theorem Commands.integral_toJson (c : Commands) : c.toJson.Integral :=
  integral_recordOfPresent (by simp)

@[simp] theorem Responses.readsBack : ReadsBack Responses.ofJson? Responses.toJson where
  reads r := by
    have hfields : r.toJson.fields? ["Fetch"] = some [r.fetch.map itemsToJson] :=
      fields?_recordOfPresent (by simp)
    simp [Responses.ofJson?, hfields]
  ne_null _ := nofun

@[simp] theorem Responses.integral_toJson (r : Responses) : r.toJson.Integral :=
  integral_recordOfPresent (by simp)

@[simp] theorem Collection.readsBack : ReadsBack Collection.ofJson? Collection.toJson where
  reads c := by
    have hfields : c.toJson.fields? Collection.fieldNames =
        some [c.className.map text, c.syncKey.map text, c.collectionId.map text,
          c.status.map ofUInt32, c.getChanges.map ofUInt32, c.windowSize.map ofUInt32,
          c.options.map Options.toJson, c.commands.map Commands.toJson,
          c.responses.map Responses.toJson, c.moreAvailable.map bool] :=
      fields?_recordOfPresent (by simp)
    simp [Collection.ofJson?, hfields]
  ne_null _ := nofun

@[simp] theorem Collection.integral_toJson (c : Collection) : c.toJson.Integral :=
  integral_recordOfPresent (by simp [-Bool.forall_bool, -Bool.exists_bool])

@[simp] theorem Collections.readsBack : ReadsBack Collections.ofJson? Collections.toJson where
  reads c := by
    have hfields : c.toJson.fields? ["Collection"] = some [c.collection.map Collection.toJson] :=
      fields?_recordOfPresent (by simp)
    simp [Collections.ofJson?, hfields]
  ne_null _ := nofun

@[simp] theorem Collections.integral_toJson (c : Collections) : c.toJson.Integral :=
  integral_recordOfPresent (by simp)

/-! ### Documents -/

namespace Sync

theorem readsBack : ReadsBack Sync.ofJson? Sync.toJson where
  reads d := by
    have hfields : d.toJson.fields? ["Status", "Collections"] =
        some [d.status.map ofUInt32, d.collections.map Collections.toJson] :=
      fields?_recordOfPresent (by simp)
    simp [Sync.ofJson?, hfields]
  ne_null _ := nofun

theorem integral_toJson (d : Sync) : d.toJson.Integral :=
  integral_recordOfPresent (by simp)

theorem ofText?_render (d : Sync) : ofText? d.render = some d := by
  rw [ofText?, render, Json.parse?_render d.integral_toJson, Option.bind_some, readsBack.reads]

end Sync

/-- **Documents are read back**: every document is read back from its text as it was, and every text
that is read as a document is read as the same document once it has been written again. -/
theorem document_readsBack :
    (∀ d : Sync, Sync.ofText? d.render = some d) ∧
      ∀ text, (Sync.ofText? text).bind (fun d => Sync.ofText? d.render) = Sync.ofText? text := by
  refine ⟨Sync.ofText?_render, fun text => ?_⟩
  cases Sync.ofText? text with
  | none => rfl
  | some d => exact d.ofText?_render

/-- Commands that are present and empty are written, and absent ones are not. -/
example : (Sync.ofCollection { syncKey := some "\"\n", commands := some {} }).render =
    "\x7b\"Collections\":\x7b\"Collection\":\x7b\"SyncKey\":\"\\\"\\n\"," ++
      "\"Commands\":\x7b\x7d\x7d\x7d\x7d" := by
  decide

end Wire

end MailSync
