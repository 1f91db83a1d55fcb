import MailSync.Proofs.Discipline
import MailSync.Proofs.FolderSync
import MailSync.Proofs.MessageFetch

/-!
# The cursor of a folder

The stored sync key of a folder is its cursor in the server's history. An operation also holds a
copy of it, from the read of the key on. The two agree whenever a request is sent, and the stored
key moves to nothing but what the server has accepted.

* `Account.body_coherent` : every operation keeps the two in step, on every path.
* `Account.cursor_coherent` : in every session, every request carries the key that is stored at that
  moment, and a stored key only changes to that of an accepted response to the latest request of an
  operation on the folder.
-/

namespace MailSync

/-- A request for a folder that starts from a sync key. -/
def Wire.Sync.StartsFrom (d : Wire.Sync) (folder key : String) : Prop :=
  ∃ c, d.collection? = some c ∧ c.collectionId = some folder ∧ c.syncKey = some key

namespace Account

/-- The sync key that the next request has to carry. -/
def View.key (v : View) : String :=
  v.stored.getD Wire.initialKey

/-- Requests carry the stored key, and only the key of an accepted response to the latest request is
stored. -/
def coherence (folder : String) : Plan.Contract View where
  maySend v d := d.StartsFrom folder v.key
  mayAsk v
    | .writeExtra f name key =>
      f = folder ∧ name = Store.syncKeyName ∧ ∃ d response c, v.latest = some (d, .ok response) ∧
        response.Accepted c ∧ c.syncKey = some key
    | q => q.Within folder
  admits v st := v.Agrees folder st
  after := View.after

variable {folder : String} {v : View}

theorem coherence_lenient (folder : String) : (coherence folder).Lenient where
  mayAsk v q hq := by cases q <;> trivial
  after v q a hq := by cases q <;> first | rfl | cases hq

theorem within_of_coherence {q : Query} (h : (coherence folder).mayAsk v q) : q.Within folder := by
  cases q with
  | writeExtra f name key => exact ⟨h.1, h.2.1⟩
  | _ => exact h

/-- A read finds the key that is stored. -/
theorem coherent_readKey {bad : Failure → View → Prop} (hbad : ∀ e v, bad e v) :
    Job.Keeps (coherence folder) (fun key v => v.key = key) bad (Exchange.readKey folder) v := by
  refine Exchange.keeps_readKey trivial (fun value hvalue => ?_) fun _ _ _ => hbad _ _
  rw [hvalue rfl rfl]
  rfl

/-- A request that has been accepted leads to the write of its key, and the stored key is that key
then. -/
theorem coherent_writeKey {d response : Wire.Sync} {c : Wire.Collection} {key : String}
    {bad : Failure → View → Prop} (hresponse : response.Accepted c) (hkey : c.syncKey = some key)
    (hbad : ∀ e v, bad e v) :
    Job.Keeps (coherence folder) (fun _ v => v.key = key) bad (Exchange.writeKey folder key)
      (v.after (.sent d (.ok response))) := by
  refine Exchange.keeps_writeKey ⟨rfl, rfl, d, response, c, rfl, hresponse, hkey⟩ (fun _ => ?_)
    fun _ _ _ => hbad _ _
  simp [coherence, View.after, View.key]

/-- An exchange that starts from the stored key leads to the stored key. -/
theorem coherent_advance {d : Wire.Sync} {key : String} {bad : Failure → View → Prop}
    (hv : v.key = key) (hd : d.StartsFrom folder key) (hbad : ∀ e v, bad e v) :
    Job.Keeps (coherence folder) (fun p v => v.key = p.2) bad (FolderSync.advance folder d) v := by
  refine FolderSync.keeps_advance (coherence_lenient folder) (J := fun v => v.key = key) hv ?_ ?_
    (fun e v _ => hbad e v) ?_
  · intro v hv
    show d.StartsFrom folder v.key
    rwa [hv]
  · intro v r hv _
    exact hv
  · intro v response c key' _ _ hc hkey'
    exact coherent_writeKey hc hkey' hbad

/-- Saving messages leaves the stored key alone. -/
theorem coherent_deliverAll {key : String} {items : List Wire.Item} {bad : Failure → View → Prop}
    (hv : v.key = key) (hbad : ∀ e v, bad e v) :
    Job.Keeps (coherence folder) (fun _ v => v.key = key) bad
      (FolderSync.deliverAll folder items) v := by
  refine FolderSync.keeps_deliverAll (I := fun _ (v : View) => v.key = key) hv
    fun item rest v hv => ?_
  refine FolderSync.keeps_deliver (coherence_lenient folder) (fun _ e => hbad e v) fun id hid => ?_
  refine ⟨Exchange.folder_materialize folder id item, fun r _ => ?_⟩
  cases r with
  | ok _ => exact hv
  | error e => exact hbad e _

theorem coherent_sync (config : SyncConfig) (cancellable : Bool) :
    Plan.Keeps (coherence folder) (Job.Ends (fun _ _ => True) fun _ _ => True)
      (FolderSync.sync folder config cancellable) v := by
  have hC := coherence_lenient folder
  refine FolderSync.keeps_sync hC (FolderSync.keeps_pull hC (I := fun key _ v => v.key = key)
    (coherent_readKey fun _ _ => trivial) ?_ ?_ (fun _ _ _ _ => ⟨trivial, trivial⟩)
    fun _ _ _ _ _ => trivial)
  · intro v hv
    exact coherent_advance hv ⟨_, rfl, rfl, rfl⟩ fun _ _ => trivial
  · intro key stats v hv _
    refine (coherent_advance hv ⟨_, rfl, rfl, rfl⟩ fun _ _ => trivial).mono
      (fun p v hv => ?_) fun _ _ h => h
    exact coherent_deliverAll hv fun _ _ => trivial

theorem coherent_fetch (id : String) :
    Plan.Keeps (coherence folder) (Job.Ends (fun _ _ => True) fun _ _ => True)
      (MessageFetch.fetch folder id) v := by
  refine MessageFetch.keeps_fetch (coherence_lenient folder) (J := fun key v => v.key = key)
    (coherent_readKey fun _ _ => trivial) ?_ ?_ (fun _ _ _ _ => trivial) ?_
  · intro key v hv
    exact ⟨_, rfl, rfl, hv ▸ rfl⟩
  · intro key v r hv _
    exact hv
  · intro key v response c key' _ _ hc hkey'
    exact (coherent_writeKey hc hkey' fun _ _ => trivial).mono
      (fun _ _ _ => ⟨fun _ => trivial, fun _ => trivial⟩) fun _ _ h => h

/-- Every operation keeps its copy of the key and the stored key in step. -/
theorem body_coherent (o : Operation) (v : View) :
    o.body.Keeps (coherence o.folder) (fun _ _ => True) v := by
  cases o with
  | sync folder config => exact (coherent_sync config false).mono fun _ _ _ => trivial
  | syncCancellable folder config => exact (coherent_sync config true).mono fun _ _ _ => trivial
  | fetch folder id => exact (coherent_fetch id).mono fun _ _ _ => trivial

/-- Operations on every folder keep its cursor coherent, wherever it may stand. -/
def coherent : Discipline where
  contract := coherence
  settled _ _ := True
  after _ := rfl
  within _ _ _ := within_of_coherence
  restart _ _ h := h
  keeps o v _ _ := body_coherent o v

variable {b₀ b b' : Session} {τ : List Event} {e : Event}

/-- The discipline is kept at every moment of a session. -/
theorem Session.Run.cursor_sound (hidle : b₀.Idle) (hrun : b₀.Run τ b) :
    coherent.Sound b₀ τ b := by
  refine Discipline.sound hidle (fun _ => trivial) hrun fun e _ => ?_
  cases e with
  | takes o st => exact fun v hv => hv
  | _ => trivial

/-- **The cursor is coherent**: in every session, every request carries the sync key that is stored
for its folder at that moment, and a stored sync key only changes during an operation on its folder,
to that of an accepted response to the operation's latest request. -/
theorem cursor_coherent (hidle : b₀.Idle) (hrun : b₀.Run τ b) (hm : b.Moves e b') :
    (∀ o d, e = .sends o d → ∃ c, d.collection? = some c ∧ c.collectionId = some o.folder ∧
      c.syncKey = some ((b.syncKey? o.folder).getD Wire.initialKey)) ∧
    ∀ f, b'.syncKey? f ≠ b.syncKey? f → ∃ t ts d response c,
      b.tasks = t :: ts ∧ t.folder = f ∧ t.latest = some (d, .ok response) ∧
        response.collection? = some c ∧ c.status = some Wire.statusOk ∧
        (∀ status ∈ Wire.provisioningStatuses,
          response.status ≠ some status ∧ c.status ≠ some status) ∧
        (b'.syncKey? f).isSome = true ∧ b'.syncKey? f = c.syncKey := by
  have hsound := hrun.cursor_sound hidle
  refine ⟨?_, fun f hne => ?_⟩
  · rintro o d rfl
    have hsend := hsound.maySend hm
    rwa [← hsound.stored o.folder]
  · obtain ⟨t, ts, key, htasks, hfolder, hlatest, hkey, -, -, d, response, c, hview, hc, hckey⟩ :=
      hsound.stores hm hne
    have hdemand := Wire.Sync.provisioningDemand?_eq_none_iff.1 hc.noDemand
    rw [hc.collection] at hdemand
    refine ⟨t, ts, d, response, c, htasks, hfolder, hlatest.trans hview, hc.collection, hc.status,
      hdemand, ?_, ?_⟩
    · rw [hkey]
      rfl
    · rw [hkey, hckey]

/-- A fetch from a folder without a key sends the initial one, and stores the key of the reply. -/
theorem cursor_coherent_fetch :
    (∃ τ b b' d, Session.fresh.Run τ b ∧ b.Moves (.sends (.fetch "inbox" "5:1") d) b' ∧
      ∃ c, d.collection? = some c ∧ c.collectionId = some "inbox" ∧ c.syncKey = some "0") ∧
    ∃ τ b e b', Session.fresh.Run τ b ∧ b.Moves e b' ∧ b'.syncKey? "inbox" = some "1" ∧
      ∃ t ts d response c, b.tasks = t :: ts ∧ t.latest = some (d, .ok response) ∧
        response.collection? = some c ∧ b'.syncKey? "inbox" = c.syncKey := by
  have start := Session.Run.nil.snoc
    (@Session.Moves.starts Session.fresh.shared [] (.fetch "inbox" "5:1"))
  have acquire := start.snoc (.asks rfl (.acquire rfl))
  have read := acquire.snoc (.asks rfl (.read _ _ _))
  have hold := read.snoc (.asks rfl (.policyKey _))
  have send := hold.snoc (.sends rfl rfl)
  have hear := send.snoc (.hears (.ok (.accepting "1" [])) rfl rfl)
  constructor
  · refine ⟨_, _, _, _, hold, .sends rfl rfl, ?_⟩
    exact (cursor_coherent Session.fresh_idle hold (.sends rfl rfl)).1 _ _ rfl
  · refine ⟨_, _, _, _, hear, .asks rfl (.write _ _ _ _), rfl, ?_⟩
    obtain ⟨t, ts, d, response, c, ht, -, hlatest, hc, -, -, -, hkey⟩ :=
      (cursor_coherent Session.fresh_idle hear (.asks rfl (.write _ _ _ _))).2 "inbox" (by decide)
    exact ⟨t, ts, d, response, c, ht, hlatest, hc, hkey⟩

end Account

end MailSync
