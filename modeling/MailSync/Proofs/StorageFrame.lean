import MailSync.Proofs.Cursor
import MailSync.Proofs.Effects
import MailSync.Proofs.Provisioning

/-!
# What an operation changes in the store

An operation changes the sync key of its folder, and a sync stores messages that the server has
added to the folder. It changes nothing else, and it keeps an order: the key of a response is
stored before its messages are, and an exchange that comes to nothing leaves no trace.

* `Account.trip_inOrder`, `Account.windows_inOrder` : the steps of a round trip and of the windows
  of a sync come in this order.
* `Account.calm_of_inOrder` : in this order, an exchange that miscarries changes nothing.
* `Account.Session.Run.keyWritten` : the key that an operation at work has stored is the one that is
  stored.
* `Account.storage_framed` : all of this at every moment of every session.
-/

namespace MailSync

namespace Plan.Step

/-- The step changes the store. -/
def changes : Step → Bool
  | .asked (.writeExtra _ _ _) (.ok _) | .asked (.save _ _) (.ok _) => true
  | _ => false

/-- A provisioning handshake or the write of an extra text has failed. -/
def breaksOff : Step → Bool
  | .asked .handshake (.error _) | .asked (.writeExtra _ _ _) (.error _) => true
  | _ => false

end Plan.Step

theorem Store.after_of_changes_eq_false {st : Plan.Step} (h : st.changes = false) (s : Store) :
    s.after st = s := by
  unfold Store.after
  split
  · cases h
  · cases h
  · rfl

theorem Store.replay_of_changes_eq_false {t : List Plan.Step} (h : ∀ st ∈ t, st.changes = false)
    (s : Store) : s.replay t = s := by
  induction t with
  | nil => rfl
  | cons st t ih =>
    obtain ⟨hst, ht⟩ := List.forall_mem_cons.1 h
    rw [replay_cons, after_of_changes_eq_false hst, ih ht]

namespace Account

open Exchange

/-- The operation is a sync. -/
def Operation.isSync : Operation → Bool
  | sync _ _ | syncCancellable _ _ => true
  | fetch _ _ => false

/-! ### The exchange under way -/

/-- The steps of the exchange under way, the latest first. It has begun when its round trip has. -/
def underWay (past : List Plan.Step) : List Plan.Step :=
  past.takeWhile (!·.opensTrip)

/-- An exchange comes to nothing. -/
inductive Miscarries (steps : List Plan.Step) : Prop
  /-- The client has failed. -/
  | unanswered {d : Wire.Sync} {e : Failure}
      (h : steps.findSome? Plan.Step.exchange? = some (d, .error e))
  /-- The server demands provisioning. -/
  | demanded {d response : Wire.Sync}
      (h : steps.findSome? Plan.Step.exchange? = some (d, .ok response))
      (hdemand : Demands (.ok response))
  /-- The device cannot be provisioned. -/
  | unprovisioned {e : Failure} (h : .asked .handshake (.error e) ∈ steps)
  /-- The response has no collection. -/
  | bare {d response : Wire.Sync}
      (h : steps.findSome? Plan.Step.exchange? = some (d, .ok response))
      (hc : response.collection? = none)
  /-- The server's verdict on the collection is not success. -/
  | refused {d response : Wire.Sync} {c : Wire.Collection}
      (h : steps.findSome? Plan.Step.exchange? = some (d, .ok response))
      (hc : response.collection? = some c) (hstatus : c.status ≠ some Wire.statusOk)
  /-- The response leads to no sync key. -/
  | keyless {d response : Wire.Sync} {c : Wire.Collection}
      (h : steps.findSome? Plan.Step.exchange? = some (d, .ok response))
      (hc : response.collection? = some c) (hkey : c.syncKey = none)
  /-- The sync key cannot be stored. -/
  | unwritten {folder name key : String} {e : Failure}
      (h : .asked (.writeExtra folder name key) (.error e) ∈ steps)

/-- The server has accepted an exchange, and its response leads to a sync key. -/
structure Landed (steps : List Plan.Step) (d : Wire.Sync) (c : Wire.Collection) (key : String) :
    Prop where
  latest : ∃ response, steps.findSome? Plan.Step.exchange? = some (d, .ok response) ∧
    response.Accepted c
  key : c.syncKey = some key
  whole : ∀ st ∈ steps, st.breaksOff = false

/-- The exchange under way has changed nothing. -/
def Untouched (past : List Plan.Step) : Prop :=
  ∀ st ∈ underWay past, st.changes = false

/-- The sync key of a folder that an operation has stored last. -/
def keyWritten? (folder : String) (past : List Plan.Step) : Option String :=
  past.findSome? (Plan.Step.writes? (folder, Store.syncKeyName))

/-- The exchange under way has been accepted, and its sync key is the last that the operation has
stored. -/
structure Stands (folder : String) (past : List Plan.Step) (d : Wire.Sync) (c : Wire.Collection)
    (key : String) : Prop where
  landed : Landed (underWay past) d c key
  written : keyWritten? folder past = some key

/-- The message is what an item makes that the exchange under way has brought, by a request for
items. -/
def Carried (folder : String) (past : List Plan.Step) (m : Message) (complete : Bool) : Prop :=
  ∃ d c key item, d.asksForItems = true ∧ Stands folder past d c key ∧ item ∈ c.added ∧
    item.delivery folder = some (m, complete)

/-- A step comes in its order. Requests, handshakes and the write of a key come before anything has
been changed, and the saves of a sync, which alone makes any, after the key has been stored. -/
def InOrder (isSync : Bool) (folder : String) (past : List Plan.Step) : Plan.Step → Prop
  | .sent _ _ | .asked .handshake _ => Untouched past
  | .asked (.writeExtra f name key) _ =>
    f = folder ∧ name = Store.syncKeyName ∧ Untouched past ∧ ∃ d c, Landed (underWay past) d c key
  | .asked (.save m complete) _ => isSync = true ∧ Carried folder past m complete
  | _ => True

variable {past t t' steps : List Plan.Step} {st : Plan.Step} {d : Wire.Sync} {c : Wire.Collection}
  {folder key : String} {isSync : Bool}

theorem underWay_cons (st : Plan.Step) (past : List Plan.Step) :
    underWay (st :: past) = if st.opensTrip = true then [] else st :: underWay past := by
  rw [underWay, List.takeWhile_cons]
  cases st.opensTrip <;> rfl

/-- What is found in the exchange under way is what is found first. -/
theorem findSome?_of_underWay {α : Type} {f : Plan.Step → Option α} {a : α}
    (h : (underWay past).findSome? f = some a) : past.findSome? f = some a := by
  rw [← List.takeWhile_append_dropWhile (p := fun st => !st.opensTrip) (l := past),
    List.findSome?_append]
  exact Option.or_eq_some_iff.2 (.inl h)

/-- Where a round trip begins, nothing has been changed yet. -/
theorem untouched_of_opensTrip (h : st.opensTrip = true) : Untouched (st :: past) := by
  rw [Untouched, underWay_cons, if_pos h]
  exact List.forall_mem_nil _

theorem Untouched.cons (h : Untouched past) (hst : st.changes = false) :
    Untouched (st :: past) := by
  intro st' hst'
  rw [underWay_cons] at hst'
  split at hst'
  · cases hst'
  · obtain rfl | hst' := List.mem_cons.1 hst'
    · exact hst
    · exact h st' hst'

theorem Landed.cons (h : Landed steps d c key) (hexchange : st.exchange? = none)
    (hst : st.breaksOff = false) : Landed (st :: steps) d c key where
  latest := by
    rw [List.findSome?_cons, hexchange]
    exact h.latest
  key := h.key
  whole := List.forall_mem_cons.2 ⟨hst, h.whole⟩

theorem Landed.not_miscarries (h : Landed steps d c key) : ¬ Miscarries steps := by
  obtain ⟨⟨response, hlatest, haccepted⟩, hkey, hwhole⟩ := h
  intro hmiscarries
  cases hmiscarries with
  | unanswered h => simp [hlatest] at h
  | demanded h hdemand =>
    obtain ⟨-, rfl⟩ : d = _ ∧ response = _ := by simpa [hlatest] using h
    exact not_demands_iff.2 haccepted.noDemand hdemand
  | unprovisioned h => exact absurd (hwhole _ h) Bool.noConfusion
  | bare h hc =>
    obtain ⟨-, rfl⟩ : d = _ ∧ response = _ := by simpa [hlatest] using h
    simp [haccepted.collection] at hc
  | refused h hc hstatus =>
    obtain ⟨-, rfl⟩ : d = _ ∧ response = _ := by simpa [hlatest] using h
    obtain rfl := Option.some.inj (haccepted.collection.symm.trans hc)
    exact hstatus haccepted.status
  | keyless h hc hnone =>
    obtain ⟨-, rfl⟩ : d = _ ∧ response = _ := by simpa [hlatest] using h
    obtain rfl := Option.some.inj (haccepted.collection.symm.trans hc)
    simp [hkey] at hnone
  | unwritten h => exact absurd (hwhole _ h) Bool.noConfusion

/-- A step that neither brings a reply nor breaks the exchange off does not make it miscarry. -/
theorem Miscarries.of_cons (h : Miscarries (st :: steps)) (hexchange : st.exchange? = none)
    (hst : st.breaksOff = false) : Miscarries steps := by
  have hlatest : (st :: steps).findSome? Plan.Step.exchange? =
      steps.findSome? Plan.Step.exchange? := by
    rw [List.findSome?_cons, hexchange]
  have hmem : ∀ {st'}, st' ∈ st :: steps → st'.breaksOff = true → st' ∈ steps := by
    intro st' hst' hbreaks
    obtain rfl | hst' := List.mem_cons.1 hst'
    · rw [hst] at hbreaks
      cases hbreaks
    · exact hst'
  cases h with
  | unanswered h => exact .unanswered (hlatest ▸ h)
  | demanded h hdemand => exact .demanded (hlatest ▸ h) hdemand
  | unprovisioned h => exact .unprovisioned (hmem h rfl)
  | bare h hc => exact .bare (hlatest ▸ h) hc
  | refused h hc hstatus => exact .refused (hlatest ▸ h) hc hstatus
  | keyless h hc hkey => exact .keyless (hlatest ▸ h) hc hkey
  | unwritten h => exact .unwritten (hmem h rfl)

/-- Where every step comes in its order, an exchange that miscarries has changed nothing. -/
theorem calm_of_inOrder (h : ∀ st before, st :: before <:+ past → InOrder isSync folder before st)
    (hmiscarries : Miscarries (underWay past)) : Untouched past := by
  -- along the past from its beginning: once the key is stored, nothing makes the exchange miscarry
  induction past with
  | nil => exact List.forall_mem_nil _
  | cons st past ih =>
    have hst := h st past List.suffix_rfl
    have hpast : ∀ st before, st :: before <:+ past → InOrder isSync folder before st :=
      fun st' before hst' => h st' before (hst'.trans (List.suffix_cons ..))
    have hquiet : st.opensTrip = false → st.exchange? = none → st.breaksOff = false →
        st.changes = false → Untouched (st :: past) := by
      intro hopens hexchange hbreaks hchanges
      rw [underWay_cons, if_neg (by simp [hopens])] at hmiscarries
      exact (ih hpast (hmiscarries.of_cons hexchange hbreaks)).cons hchanges
    cases st with
    | sent d r => exact Untouched.cons hst rfl
    | asked q a =>
      cases q with
      | policyKey => exact untouched_of_opensTrip rfl
      | handshake => exact Untouched.cons hst rfl
      | writeExtra f name key =>
        obtain ⟨-, -, huntouched, d, c, hlanded⟩ := hst
        cases a with
        | error e => exact huntouched.cons rfl
        | ok _ => exact absurd hmiscarries (hlanded.cons rfl rfl).not_miscarries
      | save m complete =>
        obtain ⟨-, d, c, key, item, -, hstands, -⟩ := hst
        exact absurd hmiscarries (hstands.landed.cons rfl (by cases a <;> rfl)).not_miscarries
      | _ => exact hquiet rfl rfl rfl rfl

/-! ### The courses of an exchange -/

theorem trip_inOrder {r : Except Failure Wire.Sync} (h : Trip d t r) :
    Plan.Throughout (InOrder isSync folder) past t := by
  have hbegin : ∀ key, Untouched (.asked .policyKey key :: past) :=
    fun key => untouched_of_opensTrip rfl
  cases h with
  | held key reply => exact ⟨trivial, hbegin _, trivial⟩
  | unprovisioned e => exact ⟨trivial, hbegin _, trivial⟩
  | provisioned key reply =>
    exact ⟨trivial, hbegin _, trivial, ((hbegin _).cons rfl).cons rfl, trivial⟩
  | rejected key reply e =>
    exact ⟨trivial, hbegin _, trivial, ((hbegin _).cons rfl).cons rfl, trivial⟩
  | retried key reply key' reply' =>
    have hdropped : Untouched (.asked (.setPolicyKey none) () :: .sent d reply ::
        .asked .policyKey (some key) :: past) := ((hbegin _).cons rfl).cons rfl
    exact ⟨trivial, hbegin _, trivial, hdropped, trivial, (hdropped.cons rfl).cons rfl, trivial⟩

/-- A round trip that succeeds has changed nothing, and its response is the latest. -/
theorem trip_underWay (past : List Plan.Step) {r : Except Failure Wire.Sync}
    {response : Wire.Sync} (h : Trip d t r) (hr : r = .ok response) :
    response.provisioningDemand? = none ∧
      (underWay (t.reverse ++ past)).findSome? Plan.Step.exchange? = some (d, .ok response) ∧
      ∀ st ∈ underWay (t.reverse ++ past), st.changes = false ∧ st.breaksOff = false := by
  cases h with
  | held | provisioned | retried =>
    obtain ⟨rfl, hdemand⟩ := verdict_eq_ok hr
    refine ⟨hdemand, rfl, ?_⟩
    simp [underWay, Plan.Step.opensTrip, Plan.Step.changes, Plan.Step.breaksOff]
  | unprovisioned | rejected => cases hr

/-- A check passes only the collection of a response, with the verdict of success. -/
def Passes (check : Wire.Sync → Except Failure Wire.Collection) : Prop :=
  ∀ {response c}, check response = .ok c →
    response.collection? = some c ∧ c.status = some Wire.statusOk

variable {check : Wire.Sync → Except Failure Wire.Collection}

/-- A response that passes and leads to a key lands. -/
theorem trip_landed (past : List Plan.Step) {response : Wire.Sync} (hcheck : Passes check)
    (h : Trip d t (.ok response)) (hc : check response = .ok c) (hkey : c.syncKey = some key) :
    Untouched (t.reverse ++ past) ∧ Landed (underWay (t.reverse ++ past)) d c key := by
  obtain ⟨hdemand, hlatest, hquiet⟩ := trip_underWay past h rfl
  obtain ⟨hcollection, hstatus⟩ := hcheck hc
  exact ⟨fun st hst => (hquiet st hst).1,
    ⟨response, hlatest, hdemand, hcollection, hstatus⟩, hkey, fun st hst => (hquiet st hst).2⟩

theorem commits_inOrder (hcheck : Passes check) {r : Except Failure (Wire.Collection × String)}
    (h : Commits folder check d t r) : Plan.Throughout (InOrder isSync folder) past t := by
  cases h with
  | fails h => exact trip_inOrder h
  | refused h => exact trip_inOrder h
  | keyless h => exact trip_inOrder h
  | unwritten h hc hkey | stored h hc hkey =>
    obtain ⟨huntouched, hlanded⟩ := trip_landed past hcheck h hc hkey
    exact Plan.throughout_append.2
      ⟨trip_inOrder h, ⟨rfl, rfl, huntouched, _, _, hlanded⟩, trivial⟩

/-- An exchange whose key has been stored stands. -/
theorem commits_stands (past : List Plan.Step) (hcheck : Passes check)
    (h : Commits folder check d t (.ok (c, key))) : Stands folder (t.reverse ++ past) d c key := by
  cases h with
  | stored h hc hkey =>
    rw [List.reverse_concat]
    refine ⟨(trip_landed past hcheck h hc hkey).2.cons rfl rfl, ?_⟩
    simp [keyWritten?, writeStep, Plan.Step.writes?]

/-! ### Items and windows -/

open FolderSync

/-- What concerns neither the exchange nor its key leaves it standing. -/
theorem Stands.cons (h : Stands folder past d c key) (hopens : st.opensTrip = false)
    (hexchange : st.exchange? = none) (hbreaks : st.breaksOff = false)
    (hwrites : ∀ k, st.writes? k = none) : Stands folder (st :: past) d c key where
  landed := by
    rw [underWay_cons, if_neg (by simp [hopens])]
    exact h.landed.cons hexchange hbreaks
  written := by
    rw [keyWritten?, List.findSome?_cons, hwrites]
    exact h.written

theorem delivers_inOrder {items : List Wire.Item} {r : Except Failure Unit}
    (hstands : Stands folder past d c key) (hasks : d.asksForItems = true)
    (h : Delivers folder items t r) (hitems : ∀ item ∈ items, item ∈ c.added) :
    Plan.Throughout (InOrder true folder) past t := by
  have hcarried : ∀ {past item id}, Stands folder past d c key → item ∈ c.added →
      item.serverId = some id →
        Carried folder past (materialize folder id item) (!item.truncated) :=
    fun hstands hitem hid =>
      ⟨d, c, key, _, hasks, hstands, hitem, Wire.Item.delivery_eq_some hid⟩
  induction h generalizing past with
  | nil => trivial
  | nameless => trivial
  | refused hid e => exact ⟨⟨rfl, hcarried hstands (hitems _ List.mem_cons_self) hid⟩, trivial⟩
  | @delivered item rest id t r hid h ih =>
    obtain ⟨hitem, hrest⟩ := List.forall_mem_cons.1 hitems
    have hsaved : Stands folder
        (.asked (.save (materialize folder id item) (!item.truncated)) (.ok ()) :: past) d c key :=
      hstands.cons rfl rfl rfl fun _ => rfl
    have htold : Stands folder (.asked (.notify (.newMessage folder id false)) () ::
        .asked (.save (materialize folder id item) (!item.truncated)) (.ok ()) :: past) d c key :=
      hsaved.cons rfl rfl rfl fun _ => rfl
    exact ⟨⟨rfl, hcarried hstands hitem hid⟩, trivial, ih htold hrest⟩

theorem passes_sync (folder : String) : Passes (accepted folder) :=
  collection_of_accepted

theorem passes_fetch (id : String) : Passes (MessageFetch.accepted id) :=
  MessageFetch.collection_of_accepted

variable {config : SyncConfig} {cancellable : Bool}

/-- A window whose key has been stored, and the delivery of its items. -/
theorem window_inOrder {key' : String} {stats : SyncStats} {r : Except Failure Unit}
    (h : Commits folder (accepted folder) (nextWindow folder config key stats) t (.ok (c, key')))
    (hitems : Delivers folder c.added t' r) :
    Plan.Throughout (InOrder true folder) past (t ++ t') :=
  Plan.throughout_append.2 ⟨commits_inOrder (passes_sync folder) h,
    delivers_inOrder (commits_stands past (passes_sync folder) h) rfl hitems fun _ h => h⟩

theorem checks_inOrder : Plan.Throughout (InOrder isSync folder) past (checks cancellable) := by
  cases cancellable <;> simp [checks, Plan.Throughout, InOrder]

theorem windows_inOrder {stats : SyncStats} {r : Except Failure SyncStats}
    (h : Windows folder config cancellable key stats t r) :
    Plan.Throughout (InOrder true folder) past t := by
  induction h generalizing past with
  | spent => trivial
  | cancelled => exact ⟨trivial, trivial⟩
  | fails _ hcommits =>
    exact Plan.throughout_append.2 ⟨checks_inOrder, commits_inOrder (passes_sync folder) hcommits⟩
  | undelivered _ hcommits hitems =>
    exact Plan.throughout_append.2 ⟨checks_inOrder, window_inOrder hcommits hitems⟩
  | last _ hcommits hitems =>
    exact Plan.throughout_append.2 ⟨checks_inOrder, window_inOrder hcommits hitems⟩
  | empty _ hcommits hitems =>
    exact Plan.throughout_append.2 ⟨checks_inOrder, window_inOrder hcommits hitems⟩
  | next _ hcommits hitems _ _ _ ih =>
    refine Plan.throughout_append.2 ⟨checks_inOrder, ?_⟩
    rw [← List.append_assoc]
    exact Plan.throughout_append.2 ⟨window_inOrder hcommits hitems, ih⟩

/-! ### Whole operations -/

theorem pulls_inOrder {r : Except Failure SyncStats} (h : Pulls folder config cancellable t r) :
    Plan.Throughout (InOrder true folder) past t := by
  cases h with
  | unread e => exact ⟨trivial, trivial⟩
  | known hkey h => exact ⟨trivial, windows_inOrder h⟩
  | refused hkey hadvance => exact ⟨trivial, commits_inOrder (passes_sync folder) hadvance⟩
  | introduced hkey hadvance h =>
    exact ⟨trivial, Plan.throughout_append.2
      ⟨commits_inOrder (passes_sync folder) hadvance, windows_inOrder h⟩⟩

theorem fetches_inOrder {id : String} {r : Except Failure Message}
    (h : MessageFetch.Fetches folder id t r) : Plan.Throughout (InOrder false folder) past t := by
  cases h with
  | unread e => exact ⟨trivial, trivial⟩
  | fails h | missing h | found h => exact ⟨trivial, commits_inOrder (passes_fetch id) h⟩

theorem body_inOrder {o : Operation} {r : Except Failure o.Value} (h : Plan.Runs o.body t r) :
    Plan.Throughout (InOrder o.isSync o.folder) past t := by
  cases o with
  | sync folder config | syncCancellable folder config =>
    obtain ⟨t', rfl, hpulls⟩ := runs_sync_cases h
    exact ⟨trivial, Plan.throughout_append.2 ⟨pulls_inOrder hpulls, trivial, trivial⟩⟩
  | fetch folder id => exact fetches_inOrder (MessageFetch.fetches_of_runs h)

theorem plan_inOrder {o : Operation} {r : Except Failure o.Value} (h : Plan.Runs o.plan t r) :
    Plan.Throughout (InOrder o.isSync o.folder) [] t := by
  obtain ⟨e, rfl, -⟩ | ⟨guard, t', rfl, hbody⟩ := course_of_runs h
  · exact ⟨trivial, trivial⟩
  · exact ⟨trivial, Plan.throughout_append.2 ⟨body_inOrder hbody, trivial, trivial⟩⟩

/-- Every step of an operation on its course has come in its order. -/
theorem Task.OnCourse.inOrder {u : Task} (h : u.OnCourse) (hst : st :: past <:+ u.past) :
    InOrder u.operation.isSync u.folder past st := by
  obtain ⟨t', r, hruns⟩ := h.extends
  exact (Plan.throughout_append.1 (plan_inOrder hruns)).1.holds (by rwa [List.reverse_reverse])

/-! ### What may differ -/

/-- A window that the operation has accepted, and whose sync key it has stored, adds a message under
the id. -/
def Brings (folder : String) (past : List Plan.Step) (id : String) : Prop :=
  ∃ d response c key item, .sent d (.ok response) ∈ past ∧ d.asksForItems = true ∧
    response.Accepted c ∧ c.syncKey = some key ∧
    .asked (.writeExtra folder Store.syncKeyName key) (.ok ()) ∈ past ∧ item ∈ c.added ∧
    item.serverId = some id

/-- A store that an operation that has taken these steps has changed, and nothing else has. -/
structure Framed (o : Operation) (past : List Plan.Step) (s s' : Store) : Prop where
  extras : ∀ f name, s'.extra? f name ≠ s.extra? f name → f = o.folder ∧ name = Store.syncKeyName
  messages : ∀ f id, s'.get f id ≠ s.get f id ∨ s'.sheet? f id ≠ s.sheet? f id →
    o.isSync = true ∧ f = o.folder ∧ Brings o.folder past id
  counts : ∀ f, s'.count f ≠ s.count f → o.isSync = true ∧ f = o.folder

theorem eq_sent_of_exchange? {r : Except Failure Wire.Sync} (h : st.exchange? = some (d, r)) :
    st = .sent d r := by
  cases st with
  | sent d' r' =>
    cases h
    rfl
  | asked q a => cases h

theorem eq_asked_of_writes? {k : Store.Key} {value : String} (h : st.writes? k = some value) :
    st = .asked (.writeExtra k.1 k.2 value) (.ok ()) := by
  unfold Plan.Step.writes? at h
  split at h
  · split at h
    · rename_i hk
      cases h
      cases hk
      rfl
    · cases h
  · cases h

theorem eq_asked_of_saved? {m : Message} {complete : Bool} (h : st.saved? = some (m, complete)) :
    st = .asked (.save m complete) (.ok ()) := by
  unfold Plan.Step.saved? at h
  split at h
  · cases h
    rfl
  · cases h

/-- What an item makes is a message of the folder, under the item's id. -/
theorem delivery_place {item : Wire.Item} {m : Message} {complete : Bool}
    (h : item.delivery folder = some (m, complete)) :
    m.folder = folder ∧ item.serverId = some m.id := by
  obtain ⟨id, hid, hm⟩ := Option.map_eq_some_iff.1 h
  obtain ⟨rfl, -⟩ := Prod.mk.inj hm
  refine ⟨folder_materialize folder id item, hid.trans ?_⟩
  unfold materialize
  split <;> rfl

theorem Carried.brings {m : Message} {complete : Bool} (h : Carried folder past m complete) :
    m.folder = folder ∧ Brings folder past m.id := by
  obtain ⟨d, c, key, item, hasks, ⟨⟨hlatest, hkey, -⟩, hwritten⟩, hitem, hdelivery⟩ := h
  obtain ⟨response, hlatest, haccepted⟩ := hlatest
  obtain ⟨hfolder, hid⟩ := delivery_place hdelivery
  obtain ⟨st, hst, hexchange⟩ := List.exists_of_findSome?_eq_some hlatest
  obtain ⟨st', hst', hwrites⟩ := List.exists_of_findSome?_eq_some hwritten
  rw [eq_sent_of_exchange? hexchange] at hst
  rw [eq_asked_of_writes? hwrites] at hst'
  exact ⟨hfolder, d, response, c, key, item, (List.takeWhile_sublist _).subset hst, hasks,
    haccepted, hkey, hst', hitem, hid⟩

theorem Brings.mono {id : String} (h : Brings folder past id) (hsub : past ⊆ t) :
    Brings folder t id := by
  obtain ⟨d, response, c, key, item, hsent, hasks, haccepted, hkey, hwrite, hitem⟩ := h
  exact ⟨d, response, c, key, item, hsub hsent, hasks, haccepted, hkey, hsub hwrite, hitem⟩

/-- Steps that come in their order change a store in nothing else. -/
theorem framed_of_inOrder {o : Operation}
    (h : ∀ st before, st :: before <:+ past → InOrder o.isSync o.folder before st) (s : Store) :
    Framed o past s (s.replay past.reverse) := by
  have hsaved : ∀ m ∈ past.reverse.filterMap Plan.Step.saved?,
      o.isSync = true ∧ m.1.folder = o.folder ∧ Brings o.folder past m.1.id := by
    rintro ⟨m, complete⟩ hm
    obtain ⟨st, hst, hst'⟩ := List.mem_filterMap.1 hm
    obtain ⟨later, before, hpast⟩ := List.append_of_mem (List.mem_reverse.1 hst)
    rw [eq_asked_of_saved? hst'] at hpast
    have hsuffix : .asked (.save m complete) (.ok ()) :: before <:+ past := ⟨later, hpast.symm⟩
    obtain ⟨hsync, hcarried⟩ := h _ _ hsuffix
    obtain ⟨hfolder, hbrings⟩ := hcarried.brings
    exact ⟨hsync, hfolder, hbrings.mono ((List.suffix_cons ..).trans hsuffix).subset⟩
  refine ⟨fun f name hne => ?_, fun f id hne => ?_, fun f hne => ?_⟩
  · rw [Store.extra?_replay, List.reverse_reverse] at hne
    cases hwritten : past.findSome? (Plan.Step.writes? (f, name)) with
    | none => simp [hwritten] at hne
    | some value =>
      obtain ⟨st, hst, hwrites⟩ := List.exists_of_findSome?_eq_some hwritten
      obtain ⟨later, before, hpast⟩ := List.append_of_mem hst
      rw [eq_asked_of_writes? hwrites] at hpast
      obtain ⟨hf, hname, -⟩ := h _ _ ⟨later, hpast.symm⟩
      exact ⟨hf, hname⟩
  · by_contra hnot
    have helsewhere : ∀ m ∈ past.reverse.filterMap Plan.Step.saved?, Store.keyOf m.1 ≠ (f, id) := by
      intro m hm hkey
      obtain ⟨hsync, hfolder, hbrings⟩ := hsaved m hm
      cases hkey
      exact hnot ⟨hsync, hfolder, hbrings⟩
    obtain ⟨hget, hsheet⟩ := Store.get_replay helsewhere
    exact hne.elim (absurd hget) (absurd hsheet)
  · by_contra hnot
    refine hne (s.count_replay fun m hm hf => hnot ?_)
    obtain ⟨hsync, hfolder, -⟩ := hsaved m hm
    exact ⟨hsync, hf.symm.trans hfolder⟩

/-! ### The key that is stored -/

/-- An operation on its course that asks is at work, or asks for its folder first. -/
theorem Task.OnCourse.asks {u : Task} (h : u.OnCourse) {q : Query}
    {k : q.Answer → Plan (Except Failure u.operation.Value)} (hrest : u.rest = .ask q k) :
    u.works = true ∨ u.past = [] ∧ q = .acquire u.folder := by
  cases h.stage with
  | waits hpast hplan =>
    rw [hrest, plan_eq] at hplan
    cases hplan
    exact .inr ⟨hpast, rfl⟩
  | works _ _ _ _ _ hworks => exact .inl hworks
  | refused _ _ hdone | ended _ _ _ _ hdone =>
    rw [hrest] at hdone
    cases hdone

/-- An operation on its course that asks for anything but its folder is at work. -/
theorem Task.OnCourse.works_of_ask {u : Task} (h : u.OnCourse) {q : Query}
    {k : q.Answer → Plan (Except Failure u.operation.Value)} (hrest : u.rest = .ask q k)
    (hq : ∀ f, q ≠ .acquire f) : u.works = true := by
  obtain hworks | ⟨-, hacquire⟩ := h.asks hrest
  · exact hworks
  · exact absurd hacquire (hq _)

namespace Session

variable {b₀ b b' : Session} {τ : List Event}

/-- While an operation is at work, the sync key that it has stored last is what is stored. -/
theorem Run.keyWritten (hidle : b₀.Idle) (hrun : b₀.Run τ b) :
    ∀ u ∈ b.tasks, u.works = true → ∀ key, keyWritten? u.folder u.past = some key →
      b.syncKey? u.folder = some key := by
  induction hrun with
  | nil => simp [hidle.tasks]
  | @snoc τ b b' e hrun hm ih =>
    have hsound := hrun.cursor_sound hidle
    cases hm with
    | starts o =>
      refine List.forall_mem_cons.2 ⟨fun hworks => ?_, ih⟩
      cases hworks
    | sends hrest hwait => exact List.forall_mem_cons.2 (List.forall_mem_cons.1 ih)
    | hears r hrest hwait => exact List.forall_mem_cons.2 (List.forall_mem_cons.1 ih)
    | returns hrest => exact (List.forall_mem_cons.1 ih).2
    | outside hlocks hkeys =>
      intro u hu hworks key hkey
      exact (hkeys u.folder).trans (ih u hu hworks key hkey)
    | @asks s s' t ts q k a hrest ha =>
      obtain ⟨ht, hts⟩ := List.forall_mem_cons.1 ih
      have hcourse := hrun.onCourse hidle t List.mem_cons_self
      have hstored : ∀ f, s'.store.syncKey? f =
          ((Plan.Step.asked q a).writes? (f, Store.syncKeyName)).or (s.store.syncKey? f) := by
        intro f
        rw [Store.syncKey?, ha.store_eq, Store.extra?_after]
        rfl
      refine List.forall_mem_cons.2 ⟨fun _ key hkey => ?_, fun u hu hworks key hkey => ?_⟩
      · change List.findSome? (Plan.Step.writes? (t.folder, Store.syncKeyName))
          (.asked q a :: t.past) = some key at hkey
        change s'.store.syncKey? t.folder = some key
        rw [List.findSome?_cons] at hkey
        rw [hstored]
        cases hwrites : (Plan.Step.asked q a).writes? (t.folder, Store.syncKeyName) with
        | some value => simpa [hwrites] using hkey
        | none =>
          rw [hwrites] at hkey
          obtain hworks | ⟨hpast, -⟩ := hcourse.asks hrest
          · exact ht hworks key hkey
          · rw [hpast] at hkey
            cases hkey
      · -- only the innermost operation writes, and no other is at work on its folder
        change s'.store.syncKey? u.folder = some key
        rw [hstored]
        cases hwrites : (Plan.Step.asked q a).writes? (u.folder, Store.syncKeyName) with
        | none => exact hts u hu hworks key hkey
        | some value =>
          cases eq_asked_of_writes? hwrites
          obtain hworks' | ⟨-, hq⟩ := hcourse.asks hrest
          · obtain hq | hq | ⟨-, hfolder, -⟩ := hsound.asking hrest
            · cases hq
            · cases hq
            · exact absurd hfolder (hsound.folder_ne hworks' hu hworks)
          · cases hq

end Session

variable {b₀ b b' : Session} {τ : List Event}

/-- **An operation changes little in the store, and in order**: in every session, what an operation
does to the store is what its steps do. These change no extra text but the sync key of its folder,
and no message but those of its folder that a window accepted by a sync has added; an exchange that
miscarries has changed nothing; and whenever a sync tries to save a message, the key that is stored
for its folder is that of the very response that has brought the message. -/
theorem storage_framed (hidle : b₀.Idle) (hrun : b₀.Run τ b) :
    (∀ o st b', b.Moves (.takes o st) b' → b'.shared.store = b.shared.store.after st) ∧
    (∀ u ∈ b.tasks, ∀ s : Store, Framed u.operation u.past s (s.replay u.past.reverse)) ∧
    (∀ u ∈ b.tasks, ∀ past, past <:+ u.past → Miscarries (underWay past) →
      ∀ s : Store, s.replay (underWay past).reverse = s) ∧
    ∀ o m complete a b', b.Moves (.takes o (.asked (.save m complete) a)) b' →
      ∃ u ts d response c item, b.tasks = u :: ts ∧ u.operation = o ∧ o.isSync = true ∧
        u.latest = some (d, .ok response) ∧ response.collection? = some c ∧ item ∈ c.added ∧
        item.delivery o.folder = some (m, complete) ∧ (b.syncKey? o.folder).isSome = true ∧
        b.syncKey? o.folder = c.syncKey := by
  refine ⟨fun o st b' hm => hm.store_eq, fun u hu s => ?_, fun u hu past hpast hmiscarries s => ?_,
    fun o m complete a b' hm => ?_⟩
  · exact framed_of_inOrder (fun st before hst => (hrun.onCourse hidle u hu).inOrder hst) s
  · have huntouched : Untouched past := calm_of_inOrder
      (fun st before hst => (hrun.onCourse hidle u hu).inOrder (hst.trans hpast)) hmiscarries
    exact s.replay_of_changes_eq_false fun st hst => huntouched st (List.mem_reverse.1 hst)
  · have hnext := (hrun.snoc hm).onCourse hidle
    cases hm with
    | @asks s s' u ts q k a hrest ha =>
      have hcourse := hrun.onCourse hidle u List.mem_cons_self
      obtain ⟨hsync, d, c, key, item, hasks, ⟨⟨hlatest, hkey, -⟩, hwritten⟩, hitem, hdelivery⟩ :=
        (hnext _ List.mem_cons_self).inOrder (List.suffix_rfl)
      obtain ⟨response, hlatest, haccepted⟩ := hlatest
      obtain hworks | ⟨-, hq⟩ := hcourse.asks hrest
      · have hstored := hrun.keyWritten hidle u List.mem_cons_self hworks key hwritten
        refine ⟨u, ts, d, response, c, item, rfl, rfl, hsync, ?_, haccepted.collection, hitem,
          hdelivery, ?_, ?_⟩
        · exact findSome?_of_underWay hlatest
        · change (Session.syncKey? ⟨s, u :: ts⟩ u.folder).isSome = true
          rw [hstored]
          rfl
        · exact hstored.trans hkey.symm
      · cases hq

/-- The first sync of a folder tries to save a message when the key of its window is stored. A fetch
that the server refuses has changed nothing. -/
theorem storage_framed_save :
    (∃ τ b b' m a, Session.fresh.Run τ b ∧
      b.Moves (.takes (.sync "inbox" ⟨1, 0⟩) (.asked (.save m true) a)) b' ∧
      b.syncKey? "inbox" = some "2" ∧ ∃ u ts d response c item, b.tasks = u :: ts ∧
        u.latest = some (d, .ok response) ∧ response.collection? = some c ∧ item ∈ c.added ∧
        item.delivery "inbox" = some (m, true) ∧ b.syncKey? "inbox" = c.syncKey) ∧
    ∃ τ b u, Session.fresh.Run τ b ∧ u ∈ b.tasks ∧ Miscarries (underWay u.past) ∧
      ∀ s : Store, s.replay (underWay u.past).reverse = s := by
  constructor
  · have hruns : ∃ r, Plan.Runs (FolderSync.sync "inbox" ⟨1, 0⟩ false)
        (firstSyncSteps "inbox" "P" ⟨1, 0⟩ "5:1" { serverId := some "5:1" }
          (.error (.ofCause (.other "disk full"))) r) r :=
      runs_first_sync (by decide) rfl _
    obtain ⟨r, hr⟩ := hruns
    have hwhole := runs_plan (o := .sync "inbox" ⟨1, 0⟩) hr
    -- the steps before the save, and those from the save on
    change Plan.Runs _ ([_, _, _, _, _, _, _, _, _] ++ .asked (.save _ _) _ :: _) r at hwhole
    obtain ⟨q, hreaches, hrest⟩ := hwhole.reaches
    have hstart := Session.Run.nil.snoc
      (@Session.Moves.starts Session.fresh.shared [] (.sync "inbox" ⟨1, 0⟩))
    obtain ⟨τ, hrun⟩ := hstart.reaches hreaches
      (.asked (.acquire rfl) <| .asked (.notify _ _) <| .asked (.read _ _ _) <|
        .asked (.policyKey _) <| .sent _ _ <| .asked (.write _ _ _ _) <| .asked (.policyKey _) <|
        .sent _ _ <| .asked (.write _ _ _ _) <| .nil _)
    cases hrest with
    | ask _ =>
      obtain ⟨-, -, -, hsave⟩ := storage_framed Session.fresh_idle hrun
      obtain ⟨u, ts, d, response, c, item, htasks, -, -, hlatest, hc, hitem, hdelivery, -, hkey⟩ :=
        hsave _ _ _ _ _ (.asks rfl (.saveFails _ _ _ (.ofCause (.other "disk full"))))
      exact ⟨τ, _, _, _, _, hrun,
        .asks rfl (.saveFails _ _ _ (.ofCause (.other "disk full"))), rfl, u, ts, d, response, c,
        item, htasks, hlatest, hc, hitem, hdelivery, hkey⟩
  · have start := Session.Run.nil.snoc
      (@Session.Moves.starts Session.fresh.shared [] (.fetch "inbox" "5:1"))
    have acquire := start.snoc (.asks rfl (.acquire rfl))
    have read := acquire.snoc (.asks rfl (.read _ _ _))
    have hold := read.snoc (.asks rfl (.policyKey _))
    have send := hold.snoc (.sends rfl rfl)
    have hear := send.snoc (.hears (.ok (.ofCollection { status := some 3 })) rfl rfl)
    have hmiscarries : Miscarries
        [.sent (Wire.Sync.fetch "inbox" "0" "5:1") (.ok (.ofCollection { status := some 3 }))] :=
      .refused rfl rfl (by decide)
    obtain ⟨-, -, hcalm, -⟩ := storage_framed Session.fresh_idle hear
    exact ⟨_, _, _, hear, List.mem_cons_self, hmiscarries,
      hcalm _ List.mem_cons_self _ List.suffix_rfl hmiscarries⟩

end Account

end MailSync
