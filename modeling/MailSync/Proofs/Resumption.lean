import MailSync.Proofs.FolderSync

/-!
# Running a failed sync again

A sync that is run again goes on from the stored key, so a message that has not been saved by then
is lost. The ledger of a sync lists the responses whose keys it has stored, and the messages it has
saved. As the key of a window is stored before its items, the two do not always agree.

* `FolderSync.saved_all_iff` : a sync has saved all the items of the responses whose keys it has
  stored if and only if the store has refused no message, every such item has an id, and no response
  to a handshake has brought items.
* `FolderSync.failing_save_loses_item` : one message that the store refuses is lost.
-/

namespace MailSync

/-- The request asks for items. A handshake does not. -/
def Wire.Sync.asksForItems (d : Wire.Sync) : Bool :=
  (d.collection?.bind (·.windowSize)).isSome

/-- What a sync has done, as far as losing messages goes. -/
structure Ledger where
  /-- The latest request, and the collection that has come back. -/
  latest : Option (Wire.Sync × Wire.Collection) := none
  /-- The exchanges whose sync keys have been stored. -/
  stored : List (Wire.Sync × Wire.Collection) := []
  /-- The messages that have been saved, each whole or in part. -/
  saved : List (Message × Bool) := []
  /-- The messages that the store has refused. -/
  refused : List (Message × Bool) := []

namespace Ledger

/-- The ledger after one more step. -/
def after (l : Ledger) : Plan.Step → Ledger
  | .sent d (.ok response) => { l with latest := response.collection?.map (d, ·) }
  | .sent _ (.error _) => { l with latest := none }
  | .asked (.writeExtra _ _ key) (.ok _) =>
    { l with stored := l.stored ++ (l.latest.filter (·.2.syncKey = some key)).toList }
  | .asked (.save m complete) (.ok _) => { l with saved := l.saved ++ [(m, complete)] }
  | .asked (.save m complete) (.error _) => { l with refused := l.refused ++ [(m, complete)] }
  | _ => l

/-- The ledger of a run of steps. -/
def of (t : List Plan.Step) : Ledger :=
  t.foldl after {}

/-- The items of all the responses whose keys have been stored. -/
def owed (l : Ledger) : List Wire.Item :=
  l.stored.flatMap (·.2.added)

/-- Those of the items that a sync has asked for. -/
def asked (l : Ledger) : List Wire.Item :=
  l.stored.flatMap fun p => if p.1.asksForItems then p.2.added else []

/-- No response to a handshake has brought items. -/
def NothingUnasked (l : Ledger) : Prop :=
  ∀ p ∈ l.stored, p.1.asksForItems = false → p.2.added = []

theorem asked_eq_owed {l : Ledger} (h : l.NothingUnasked) : l.asked = l.owed := by
  rw [asked, owed, List.flatMap_def, List.flatMap_def]
  refine congrArg List.flatten (List.map_congr_left fun p hp => ?_)
  cases hasks : p.1.asksForItems with
  | true => rfl
  | false => exact (h p hp hasks).symm

/-- What has been asked for is all only if nothing has come unasked. -/
theorem asked_length (l : Ledger) :
    l.asked.length ≤ l.owed.length ∧ (l.asked.length = l.owed.length → l.NothingUnasked) := by
  unfold asked owed NothingUnasked
  induction l.stored with
  | nil => simp
  | cons p ps ih =>
    obtain ⟨hle, heq⟩ := ih
    simp only [List.flatMap_cons, List.length_append, List.forall_mem_cons]
    cases hasks : p.1.asksForItems with
    | true =>
      refine ⟨by simpa using hle, fun h => ⟨by simp, heq ?_⟩⟩
      simpa using h
    | false =>
      simp only [Bool.false_eq_true, ↓reduceIte, List.length_nil]
      refine ⟨by omega, fun h => ⟨fun _ => ?_, heq ?_⟩⟩
      · exact List.length_eq_zero_iff.1 (by omega)
      · omega

/-- The messages saved, and those that the given items are still to make, are those of the items
that have been asked for. -/
structure Owes (folder : String) (items : List Wire.Item) (l : Ledger) : Prop where
  saved : Outstanding folder l.saved items l.asked
  refused : l.refused = []

/-- An item that has been asked for is lost, as the store has refused it or it has no id. -/
structure Lost (l : Ledger) : Prop where
  short : l.saved.length < l.asked.length
  cause : l.refused ≠ [] ∨ ∃ item ∈ l.asked, item.serverId = none

/-- The steps of a sync are entered in its ledger, and anything may happen. -/
def contract : Plan.Contract Ledger where
  maySend _ _ := True
  mayAsk _ _ := True
  admits _ _ := True
  after := after

theorem contract_lenient : contract.Lenient where
  mayAsk _ _ _ := trivial
  after l q a hq := by cases q <;> first | rfl | cases hq

theorem admitsAll (l : Ledger) (t : List Plan.Step) : contract.AdmitsAll l t := by
  induction t generalizing l with
  | nil => trivial
  | cons st t ih => exact ⟨trivial, ih _⟩

variable {folder key : String} {l : Ledger} {d : Wire.Sync} {c : Wire.Collection}

/-- What holds when a sync ends: nothing is owed, or something is lost. -/
def Closed (folder : String) (l : Ledger) : Prop :=
  l.Owes folder [] ∨ l.Lost

theorem lost_length {item : Wire.Item} {rest : List Wire.Item}
    (h : l.Owes folder (item :: rest)) : l.saved.length < l.asked.length := by
  have hlength := h.saved.length
  rw [List.length_cons] at hlength
  omega

/-- An item without an id is lost. -/
theorem lost_of_serverId_eq_none {item : Wire.Item} {rest : List Wire.Item}
    (h : l.Owes folder (item :: rest)) (hnone : item.serverId = none) : l.Lost :=
  ⟨lost_length h, .inr (h.saved.exists_serverId_eq_none hnone)⟩

/-- An item that the store refuses is lost. -/
theorem lost_of_refused {item : Wire.Item} {rest : List Wire.Item} {m : Message} {complete : Bool}
    {e : Failure} (h : l.Owes folder (item :: rest)) :
    (l.after (.asked (.save m complete) (.error e))).Lost := by
  have hshort := lost_length h
  exact ⟨hshort, .inl (by simp [after])⟩

/-- A save pays one item off. -/
theorem owes_save {item : Wire.Item} {rest : List Wire.Item} {id : String}
    (h : l.Owes folder (item :: rest)) (hid : item.serverId = some id) :
    (l.after (.asked (.save (Exchange.materialize folder id item) (!item.truncated))
      (.ok ()))).Owes folder rest :=
  ⟨h.saved.save hid, h.refused⟩

/-- Once a key is stored, the items of its response are owed, if they have been asked for. -/
theorem owes_write {items : List Wire.Item} {l' : Ledger} (h : l.Owes folder [])
    (hstored : l'.stored = l.stored ++ [(d, c)]) (hsaved : l'.saved = l.saved)
    (hrefused : l'.refused = l.refused)
    (hitems : (if d.asksForItems then c.added else []) = items) : l'.Owes folder items := by
  constructor
  · have hasked : l'.asked = l.asked ++ items := by
      rw [asked, hstored, List.flatMap_append, ← asked, List.flatMap_singleton, hitems]
    rw [hsaved, hasked]
    exact h.saved.append items
  · rw [hrefused, h.refused]

end Ledger

namespace FolderSync

open Exchange Ledger

variable {folder : String} {l : Ledger}

theorem keeps_ledger_write {d response : Wire.Sync} {c : Wire.Collection} {key : String}
    {items : List Wire.Item} (h : l.Owes folder []) (hresponse : response.Accepted c)
    (hkey : c.syncKey = some key) (hitems : (if d.asksForItems then c.added else []) = items) :
    Job.Keeps contract (fun _ l => l.Owes folder items) (fun _ l => l.Closed folder)
      (writeKey folder key) (l.after (.sent d (.ok response))) := by
  have hsent : (l.after (.sent d (.ok response))).latest = some (d, c) := by
    simp [Ledger.after, hresponse.collection]
  refine keeps_writeKey trivial (fun _ => ?_) fun _ _ _ => .inl ⟨h.saved, h.refused⟩
  refine owes_write (d := d) (c := c) h ?_ rfl rfl hitems
  change _ ++ (Option.filter _ (Ledger.after l (.sent d (.ok response))).latest).toList = _
  rw [hsent]
  simp [Ledger.after, hkey]

/-- The items of an exchange are owed once its key is stored, if they have been asked for. -/
theorem keeps_ledger_advance {d : Wire.Sync} (h : l.Owes folder []) :
    Job.Keeps contract
      (fun p l => l.Owes folder (if d.asksForItems then p.1.added else []))
      (fun _ l => l.Closed folder) (advance folder d) l := by
  refine keeps_advance contract_lenient (J := fun l => l.Owes folder []) h (fun _ _ => trivial) ?_
    (fun _ _ h => .inl h) fun l response c key h _ hc hkey => keeps_ledger_write h hc hkey rfl
  intro l r h _
  cases r with
  | ok response => exact ⟨h.saved, h.refused⟩
  | error e => exact ⟨h.saved, h.refused⟩

theorem keeps_ledger_deliverAll {items : List Wire.Item} (h : l.Owes folder items) :
    Job.Keeps contract (fun _ l => l.Owes folder []) (fun _ l => l.Closed folder)
      (deliverAll folder items) l := by
  refine keeps_deliverAll (I := fun items (l : Ledger) => l.Owes folder items) h
    fun item rest l h => ?_
  refine keeps_deliver contract_lenient
    (fun hnone _ => .inr (lost_of_serverId_eq_none h hnone)) fun id hid => ?_
  refine ⟨trivial, fun r _ => ?_⟩
  cases r with
  | ok _ => exact owes_save h hid
  | error e => exact .inr (lost_of_refused (e := e) h)

/-- When a sync ends, nothing is owed, or something is lost. -/
theorem closed_of_runs {config : SyncConfig} {cancellable : Bool} {t : List Plan.Step}
    {r : Except Failure SyncStats} (h : Plan.Runs (sync folder config cancellable) t r) :
    (Ledger.of t).Closed folder := by
  have hstart : Owes folder [] {} := ⟨rfl, rfl⟩
  have hkeeps : Plan.Keeps contract (Job.Ends (fun _ l => l.Closed folder) fun _ l =>
      l.Closed folder) (sync folder config cancellable) {} := by
    refine keeps_sync contract_lenient (keeps_pull contract_lenient
      (I := fun _ _ (l : Ledger) => l.Owes folder [])
      (keeps_readKey trivial (fun _ _ => hstart) fun _ _ _ => .inl hstart) ?_ ?_
      (fun _ _ _ h => ⟨.inl h, .inl h⟩) fun _ _ _ _ h => .inl h)
    · -- a handshake asks for no items, so none are owed after it
      exact fun l h => keeps_ledger_advance (d := .handshake folder Wire.initialKey) h
    · intro key stats l h _
      exact (keeps_ledger_advance h).mono (fun p l h => keeps_ledger_deliverAll h) fun _ _ h => h
  have hends := h.ends hkeeps (admitsAll _ t)
  cases r with
  | ok stats => exact hends
  | error e => exact hends

/-- **Nothing is lost if and only if nothing is refused**: a sync has saved the items of all the
responses whose keys it has stored, in order, if and only if the store has refused no message, all
these items have ids, and no response to a handshake has brought items. -/
theorem saved_all_iff {config : SyncConfig} {cancellable : Bool} {t : List Plan.Step}
    {r : Except Failure SyncStats} (h : Plan.Runs (sync folder config cancellable) t r) :
    (Ledger.of t).saved.map some = (Ledger.of t).owed.map (·.delivery folder) ↔
      (Ledger.of t).refused = [] ∧ (∀ item ∈ (Ledger.of t).owed, item.serverId ≠ none) ∧
        (Ledger.of t).NothingUnasked := by
  have hclosed := closed_of_runs h
  generalize Ledger.of t = l at hclosed
  obtain ⟨hle, heq⟩ := asked_length l
  constructor
  · intro hsaved
    have hlength := congrArg List.length hsaved
    rw [List.length_map, List.length_map] at hlength
    rcases hclosed with howes | hlost
    · have hbalance := howes.saved.length
      rw [List.length_nil, Nat.add_zero] at hbalance
      refine ⟨howes.refused, fun item hitem hnone => ?_, heq (by omega)⟩
      -- an item without an id makes no message, yet every item has made one
      have hmem : none ∈ l.saved.map some := by
        rw [hsaved]
        exact List.mem_map.2 ⟨item, hitem, Wire.Item.delivery_eq_none_iff.2 hnone⟩
      simp at hmem
    · -- fewer messages have been saved than items asked for, and so than are owed
      have hshort := hlost.short
      omega
  · rintro ⟨hrefused, hids, hunasked⟩
    rw [← asked_eq_owed hunasked] at hids ⊢
    rcases hclosed with howes | ⟨-, hcause | ⟨item, hitem, hnone⟩⟩
    · exact Outstanding.nil_iff.1 howes.saved
    · exact absurd hrefused hcause
    · exact absurd hnone (hids item hitem)

/-- The first sync of a folder with one item saves the item, if the store takes it. -/
theorem first_sync_saves_all : ∃ t r,
    Plan.Runs (sync "inbox" ⟨1, 0⟩ false) t r ∧ (Ledger.of t).owed = [{ serverId := some "5:1" }] ∧
      (Ledger.of t).saved.map some = (Ledger.of t).owed.map (·.delivery "inbox") := by
  have hruns : ∃ r, Plan.Runs (sync "inbox" ⟨1, 0⟩ false)
      (firstSyncSteps "inbox" "P" ⟨1, 0⟩ "5:1" { serverId := some "5:1" } (.ok ()) r) r :=
    runs_first_sync (by decide) rfl _
  obtain ⟨r, hr⟩ := hruns
  refine ⟨_, r, hr, rfl, (saved_all_iff hr).2 ⟨rfl, ?_, ?_⟩⟩
  · intro item hitem
    obtain rfl := List.mem_singleton.1 hitem
    exact Option.some_ne_none _
  · intro p hp hasks
    rcases List.mem_cons.1 hp with rfl | hp
    · rfl
    · obtain rfl := List.mem_singleton.1 hp
      cases hasks

/-- A message that the store refuses is lost: the sync has stored the key of its window. -/
theorem failing_save_loses_item : ∃ t r item,
    Plan.Runs (sync "inbox" ⟨1, 0⟩ false) t r ∧ item ∈ (Ledger.of t).owed ∧
      ∀ m ∈ (Ledger.of t).saved, item.delivery "inbox" ≠ some m := by
  have hruns : ∃ r, Plan.Runs (sync "inbox" ⟨1, 0⟩ false)
      (firstSyncSteps "inbox" "P" ⟨1, 0⟩ "5:1" { serverId := some "5:1" }
        (.error (.ofCause (.other "disk full"))) r) r :=
    runs_first_sync (by decide) rfl _
  obtain ⟨r, hr⟩ := hruns
  refine ⟨_, r, { serverId := some "5:1" }, hr, List.mem_singleton.2 rfl, ?_⟩
  intro m hm
  cases hm

end FolderSync

end MailSync
