import Mathlib.Data.List.Forall2
import MailSync.Proofs.Effects
import MailSync.Proofs.Progress
import MailSync.Proofs.Resumption

/-!
# What a sync makes of the messages in memory

A sync saves the items of the windows that it has accepted, one by one and in order, until one has
no id or cannot be saved. Each makes the message that its fields say, whole or in part, and the
store holds what these saves make of what it has held before.

* `Wire.Item.makes_of_delivery` : the fields of an item, each of which may be absent, decide on the
  message.
* `FolderSync.settles_of_runs` : a sync saves items in order up to the one at which it stops.
* `Account.sync_stores_items` : what the store in memory holds after a sync.
-/

namespace MailSync

theorem Utf8.toByteArray_encode (s : String) : (Utf8.encode s).toByteArray = s.toUTF8 :=
  s.utf8Encode_toList

/-! ### The message of an item -/

namespace Wire.Item

/-- The item makes the message in a folder, whole or in part. -/
structure Makes (item : Wire.Item) (folder : String) (m : Message) (complete : Bool) : Prop where
  id : item.serverId = some m.id
  uid : m.uid = m.id
  folder : m.folder = folder
  raw : m.raw.toByteArray =
    (((item.applicationData.bind (·.body)).bind (·.data)).getD "").toUTF8
  flags : ∀ f, m.hasFlag f = true ↔ f = .seen ∧ item.applicationData.bind (·.read) = some 1
  incomplete : complete = false ↔ (item.applicationData.bind (·.body)).bind (·.truncated) = some 1

/-- What is saved of an item is what the item makes. -/
theorem makes_of_delivery {item : Wire.Item} {folder : String} {m : Message} {complete : Bool}
    (h : item.delivery folder = some (m, complete)) : item.Makes folder m complete := by
  obtain ⟨id, hid, hm⟩ := Option.map_eq_some_iff.1 h
  obtain ⟨rfl, rfl⟩ := Prod.mk.inj hm
  have hincomplete : (!item.truncated) = false ↔
      (item.applicationData.bind (·.body)).bind (·.truncated) = some 1 := by
    rw [Bool.not_eq_false']
    exact decide_eq_true_iff
  -- whether the message has been read is all that its flags say
  cases hread : item.read with
  | true =>
    have hmade : Exchange.materialize folder id item =
        (Message.parse folder id (Utf8.encode item.content)).setFlag .seen true := by
      rw [Exchange.materialize, hread, if_pos rfl]
    rw [hmade]
    refine ⟨hid, rfl, rfl, Utf8.toByteArray_encode _, fun f => ?_, hincomplete⟩
    have hseen : item.applicationData.bind (·.read) = some 1 := of_decide_eq_true hread
    rw [Message.hasFlag_setFlag]
    split
    · simp_all
    · rename_i hf
      exact iff_of_false Bool.false_ne_true fun h => hf h.1
  | false =>
    have hmade : Exchange.materialize folder id item =
        Message.parse folder id (Utf8.encode item.content) := by
      rw [Exchange.materialize, hread]
      rfl
    rw [hmade]
    have hunseen : item.applicationData.bind (·.read) ≠ some 1 := of_decide_eq_false hread
    exact ⟨hid, rfl, rfl, Utf8.toByteArray_encode _,
      fun f => iff_of_false Bool.false_ne_true fun h => hunseen h.2, hincomplete⟩

end Wire.Item

/-! ### The ledger of a sync -/

namespace Ledger

/-- The windows that a sync has accepted: the server's verdict is success, and their sync keys have
been stored. -/
def windows (l : Ledger) : List Wire.Collection :=
  (l.stored.filter fun p => p.1.asksForItems ∧ p.2.status = some Wire.statusOk).map (·.2)

/-- The messages saved are those of the items that have been asked for, up to the given ones. -/
structure Tracks (folder : String) (items : List Wire.Item) (l : Ledger) : Prop where
  saved : ∃ done, l.asked = done ++ items ∧
    List.Forall₂ (fun item s => item.delivery folder = some s) done l.saved
  accepted : ∀ p ∈ l.stored, p.2.status = some Wire.statusOk

/-- How the saves of a sync end where these items are left. -/
inductive Stops (folder : String) (refused : List (Message × Bool)) : List Wire.Item → Prop
  /-- All items have been saved. -/
  | finished (h : refused = []) : Stops folder refused []
  /-- The next item has no id. -/
  | nameless {item : Wire.Item} {rest : List Wire.Item} (h : refused = [])
      (hid : item.serverId = none) : Stops folder refused (item :: rest)
  /-- The store refuses the message of the next item. -/
  | refused {item : Wire.Item} {rest : List Wire.Item} {m : Message} {complete : Bool}
      (h : refused = [(m, complete)]) (hm : item.delivery folder = some (m, complete)) :
      Stops folder refused (item :: rest)

/-- The messages saved are those of the items that have been asked for, up to where saving ends. -/
def Settles (folder : String) (l : Ledger) : Prop :=
  ∃ left, l.Tracks folder left ∧ Stops folder l.refused left

variable {folder : String} {l l' : Ledger} {items : List Wire.Item}

/-- Where the server's verdict on all is success, the items of the windows are those that have been
asked for. -/
theorem Tracks.windows_eq (h : l.Tracks folder items) :
    l.windows.flatMap (·.added) = l.asked := by
  have haccepted := h.accepted
  unfold windows asked
  generalize l.stored = stored at haccepted ⊢
  induction stored with
  | nil => rfl
  | cons p stored ih =>
    obtain ⟨hp, hstored⟩ := List.forall_mem_cons.1 haccepted
    cases hasks : p.1.asksForItems with
    | true => simpa [hasks, hp] using ih hstored
    | false => simpa [hasks] using ih hstored

theorem Tracks.of_eq (h : l.Tracks folder items) (hstored : l'.stored = l.stored)
    (hsaved : l'.saved = l.saved) : l'.Tracks folder items := by
  obtain ⟨⟨done, hasked, hdone⟩, haccepted⟩ := h
  refine ⟨⟨done, ?_, by rwa [hsaved]⟩, by rwa [hstored]⟩
  rw [asked, hstored]
  exact hasked

/-- Once a key is stored, the items of its response are to be saved, if they have been asked for. -/
theorem Tracks.write {d : Wire.Sync} {c : Wire.Collection} (h : l.Tracks folder [])
    (hstored : l'.stored = l.stored ++ [(d, c)]) (hsaved : l'.saved = l.saved)
    (hstatus : c.status = some Wire.statusOk) :
    l'.Tracks folder (if d.asksForItems then c.added else []) := by
  obtain ⟨⟨done, hasked, hdone⟩, haccepted⟩ := h
  refine ⟨⟨done, ?_, by rwa [hsaved]⟩, fun p hp => ?_⟩
  · rw [List.append_nil] at hasked
    rw [asked, hstored, List.flatMap_append, ← asked, hasked, List.flatMap_singleton]
  · rw [hstored] at hp
    obtain hp | hp := List.mem_append.1 hp
    · exact haccepted p hp
    · rwa [List.mem_singleton.1 hp]

/-- A save makes the message of one more item. -/
theorem Tracks.save {item : Wire.Item} {rest : List Wire.Item} {s : Message × Bool}
    (h : l.Tracks folder (item :: rest)) (hs : item.delivery folder = some s)
    (hstored : l'.stored = l.stored) (hsaved : l'.saved = l.saved ++ [s]) :
    l'.Tracks folder rest := by
  obtain ⟨⟨done, hasked, hdone⟩, haccepted⟩ := h
  refine ⟨⟨done ++ [item], ?_, ?_⟩, by rwa [hstored]⟩
  · rw [asked, hstored, List.append_assoc]
    exact hasked
  · rw [hsaved]
    exact List.rel_append hdone (.cons hs .nil)

end Ledger

namespace FolderSync

open Exchange Ledger

variable {folder : String} {l : Ledger}

theorem tracks_advance {d : Wire.Sync} (h : l.Tracks folder []) (hnone : l.refused = []) :
    Job.Keeps contract
      (fun p l => l.Tracks folder (if d.asksForItems then p.1.added else []) ∧ l.refused = [])
      (fun _ l => l.Settles folder) (advance folder d) l := by
  refine keeps_advance contract_lenient (J := fun l => l.Tracks folder [] ∧ l.refused = [])
    ⟨h, hnone⟩ (fun _ _ => trivial) ?_ (fun _ _ h => ⟨[], h.1, .finished h.2⟩) ?_
  · rintro l r ⟨h, hnone⟩ -
    cases r with
    | ok response => exact ⟨h.of_eq rfl rfl, hnone⟩
    | error e => exact ⟨h.of_eq rfl rfl, hnone⟩
  · rintro l response c key ⟨h, hnone⟩ - hc hkey
    have hsent : (l.after (.sent d (.ok response))).latest = some (d, c) := by
      simp [Ledger.after, hc.collection]
    refine keeps_writeKey trivial (fun _ => ⟨?_, hnone⟩)
      fun _ _ _ => ⟨[], h.of_eq rfl rfl, .finished hnone⟩
    refine h.write (d := d) (c := c) ?_ rfl hc.status
    change _ ++ (Option.filter _ (Ledger.after l (.sent d (.ok response))).latest).toList = _
    rw [hsent, Option.filter_some, if_pos (decide_eq_true hkey)]
    rfl

theorem tracks_deliverAll {items : List Wire.Item} (h : l.Tracks folder items)
    (hnone : l.refused = []) :
    Job.Keeps contract (fun _ l => l.Tracks folder [] ∧ l.refused = [])
      (fun _ l => l.Settles folder) (deliverAll folder items) l := by
  refine keeps_deliverAll (I := fun items (l : Ledger) => l.Tracks folder items ∧ l.refused = [])
    ⟨h, hnone⟩ fun item rest l ⟨h, hnone⟩ => ?_
  refine keeps_deliver contract_lenient (fun hid _ => ⟨_, h, .nameless hnone hid⟩) fun id hid => ?_
  have hdelivery : item.delivery folder = _ := Wire.Item.delivery_eq_some hid
  refine ⟨trivial, fun r _ => ?_⟩
  cases r with
  | ok _ => exact ⟨h.save hdelivery rfl rfl, hnone⟩
  | error e =>
    refine ⟨_, h.of_eq rfl rfl, .refused ?_ hdelivery⟩
    change l.refused ++ [_] = _
    rw [hnone]
    rfl

/-- A sync saves the items of its windows in order, up to where it stops. -/
theorem settles_of_runs {config : SyncConfig} {cancellable : Bool} {t : List Plan.Step}
    {r : Except Failure SyncStats} (h : Plan.Runs (sync folder config cancellable) t r) :
    (Ledger.of t).Settles folder := by
  have hstart : Tracks folder [] {} := ⟨⟨[], rfl, .nil⟩, List.forall_mem_nil _⟩
  have hsettles : ∀ l : Ledger, l.Tracks folder [] ∧ l.refused = [] → l.Settles folder :=
    fun _ h => ⟨[], h.1, .finished h.2⟩
  have hkeeps : Plan.Keeps contract (Job.Ends (fun _ l => l.Settles folder) fun _ l =>
      l.Settles folder) (sync folder config cancellable) {} := by
    refine keeps_sync contract_lenient (keeps_pull contract_lenient
      (I := fun _ _ (l : Ledger) => l.Tracks folder [] ∧ l.refused = [])
      (keeps_readKey trivial (fun _ _ => ⟨hstart, rfl⟩) fun _ _ _ => hsettles _ ⟨hstart, rfl⟩) ?_ ?_
      (fun _ _ _ h => ⟨hsettles _ h, hsettles _ h⟩) fun _ _ _ _ h => hsettles _ h)
    · -- a handshake asks for no items, so there are none to save after it
      exact fun l h => tracks_advance (d := .handshake folder Wire.initialKey) h.1 h.2
    · intro key stats l h _
      exact (tracks_advance h.1 h.2).mono (fun p l h => tracks_deliverAll h.1 h.2) fun _ _ h => h
  have hends := h.ends hkeeps (admitsAll _ t)
  cases r with
  | ok stats => exact hends
  | error e => exact hends

end FolderSync

namespace Ledger

/-- The ledger lists the messages that the steps have saved. -/
theorem saved_of (t : List Plan.Step) : (Ledger.of t).saved = t.filterMap Plan.Step.saved? := by
  have hafter : ∀ (l : Ledger) (st : Plan.Step),
      (l.after st).saved = l.saved ++ st.saved?.toList := by
    intro l st
    cases st with
    | sent d r => cases r <;> simp [after, Plan.Step.saved?]
    | asked q a =>
      cases q with
      | writeExtra | save => cases a <;> simp [after, Plan.Step.saved?]
      | _ => simp [after, Plan.Step.saved?]
  have hfold : ∀ l : Ledger, (t.foldl after l).saved = l.saved ++ t.filterMap Plan.Step.saved? := by
    induction t with
    | nil => simp
    | cons st t ih =>
      intro l
      rw [List.foldl_cons, ih, hafter, List.append_assoc]
      cases hst : st.saved? <;> simp [hst]
  exact (hfold {}).trans (List.nil_append _)

end Ledger

namespace Account

open Ledger

/-- An operation that is refused its folder settles nothing, and one that works settles what its
body does. -/
theorem settles_of_plan {o : Operation} {folder : String} {config : SyncConfig}
    (ho : o = .sync folder config ∨ o = .syncCancellable folder config) {t : List Plan.Step}
    {r : Except Failure o.Value} (h : Plan.Runs o.plan t r) : (Ledger.of t).Settles folder := by
  obtain ⟨e, rfl, -⟩ | ⟨guard, t', rfl, hbody⟩ := course_of_runs h
  · exact ⟨[], ⟨⟨[], rfl, .nil⟩, List.forall_mem_nil _⟩, .finished rfl⟩
  · have hof : Ledger.of (.asked (.acquire o.folder) (.ok guard) ::
        (t' ++ [.asked (.release ⟨guard.folder⟩) ()])) = Ledger.of t' := by
      simp [Ledger.of, Ledger.after]
    rw [hof]
    obtain rfl | rfl := ho
    · exact FolderSync.settles_of_runs hbody
    · exact FolderSync.settles_of_runs hbody

/-- **A sync stores what the items say**: whatever the client and the store do, the messages in
memory after a sync are those before it, changed by one save after another. The saves are those of
the items of the windows that the sync has accepted, in order, up to the first item that has no id
or that cannot be saved. Each save brings the message that the fields of its item make, and is one
of a beginning if and only if the body is marked as truncated. -/
theorem sync_stores_items {o : Operation} {folder : String} {config : SyncConfig}
    (ho : o = .sync folder config ∨ o = .syncCancellable folder config) {t : List Plan.Step}
    {r : Except Failure o.Value} {s s' : Shared} {T : Store.Table} (h : Plan.Runs o.plan t r)
    (hs : AnswersAll s t s') (hT : s.store = .table T) :
    ∃ T' done left, s'.store = .table T' ∧
      T'.messages = (T.saveAll (t.filterMap Plan.Step.saved?)).messages ∧
      (Ledger.of t).windows.flatMap (·.added) = done ++ left ∧
      List.Forall₂ (fun item m => item.Makes folder m.1 m.2) done
        (t.filterMap Plan.Step.saved?) ∧
      Stops folder (Ledger.of t).refused left := by
  obtain ⟨left, htracks, hstops⟩ := settles_of_plan ho h
  obtain ⟨done, hasked, hdone⟩ := htracks.saved
  rw [saved_of] at hdone
  have hsame := s.store.replay_sameMessages t
  rw [← hs.store_eq, hT, Store.saveAll_table] at hsame
  cases hstore : s'.store with
  | rows t' =>
    rw [hstore] at hsame
    exact hsame.elim
  | table T' =>
    rw [hstore] at hsame
    exact ⟨T', done, left, rfl, hsame, htracks.windows_eq.trans hasked,
      hdone.imp fun _ _ => Wire.Item.makes_of_delivery, hstops⟩

/-- The first sync of a folder in which a truncated message waits that has been read. -/
theorem sync_stores_items_truncated : ∃ t r s' T' item m,
    Plan.Runs (Operation.sync "inbox" ⟨1, 0⟩).plan t r ∧ AnswersAll Session.fresh.shared t s' ∧
      s'.store = .table T' ∧ (Ledger.of t).windows.flatMap (·.added) = [item] ∧
      item.Makes "inbox" m false ∧ T'.messages.get? ("inbox", "5:1") = some ⟨m, false⟩ ∧
      m.raw = [65, 66] ∧ m.hasFlag .seen = true := by
  let item : Wire.Item :=
    { serverId := some "5:1"
      applicationData := some ⟨some 1, some { truncated := some 1, data := some "AB" }⟩ }
  have hruns : ∃ r, Plan.Runs (FolderSync.sync "inbox" ⟨1, 0⟩ false)
      (FolderSync.firstSyncSteps "inbox" "P" ⟨1, 0⟩ "5:1" item (.ok ()) r) r :=
    FolderSync.runs_first_sync (by decide) rfl _
  obtain ⟨r, hr⟩ := hruns
  have hwhole := runs_plan (o := .sync "inbox" ⟨1, 0⟩) hr
  have hs : ∃ s', AnswersAll Session.fresh.shared (.asked (.acquire "inbox") (.ok ⟨"inbox"⟩) ::
      (FolderSync.firstSyncSteps "inbox" "P" ⟨1, 0⟩ "5:1" item (.ok ()) r ++
        [.asked (.release ⟨"inbox"⟩) ()])) s' :=
    ⟨_, .asked (.acquire rfl) <| .asked (.notify _ _) <| .asked (.read _ _ _) <|
      .asked (.policyKey _) <| .sent _ _ <| .asked (.write _ _ _ _) <| .asked (.policyKey _) <|
      .sent _ _ <| .asked (.write _ _ _ _) <| .asked (.save _ _ _) <| .asked (.notify _ _) <|
      .asked (.notify _ _) <| .asked (.release _ _) <| .nil _⟩
  obtain ⟨s', hs⟩ := hs
  obtain ⟨T', done, left, hstore, hmessages, hitems, hmakes, -⟩ :=
    sync_stores_items (.inl rfl) hwhole hs rfl
  change List.Forall₂ _ done [(Exchange.materialize "inbox" "5:1" item, false)] at hmakes
  change T'.messages = (Store.Table.empty.saveAll
    [(Exchange.materialize "inbox" "5:1" item, false)]).messages at hmessages
  cases hmakes with
  | cons hm hnil =>
    cases hnil
    obtain ⟨rfl, -⟩ := List.cons.inj hitems
    refine ⟨_, r, s', T', item, _, hwhole, hs, hstore, rfl, hm, ?_, by decide +kernel, rfl⟩
    rw [hmessages]
    rfl

end Account

end MailSync
