import Mathlib.Data.List.ReduceOption
import MailSync.Proofs.Contract

/-!
# What an exchange keeps

Rules for the steps that folder sync and fetch share, over any contract that lets an operation deal
with the device, the listener and the cancel flag as it likes.

* `Job.keeps_ensureProvisioned` : the gate keeps what its action keeps, if the action may run again
  after it has failed.
* `Exchange.keeps_roundTrip` : a round trip ends with a response that demands no provisioning, or it
  fails and changes nothing but what sending the request changes.
-/

namespace MailSync

/-- The question concerns neither the store nor the locks. -/
def Query.isPlain : Query → Bool
  | policyKey | setPolicyKey _ | handshake | cancelled | notify _ => true
  | _ => false

/-- The contract allows every plain question, and no answer to one changes its state. -/
structure Plan.Contract.Lenient {σ : Type} (C : Plan.Contract σ) : Prop where
  mayAsk : ∀ s q, q.isPlain = true → C.mayAsk s q
  after : ∀ s q (a : q.Answer), q.isPlain = true → C.after s (.asked q a) = s

/-- The server has accepted an exchange: it demands no provisioning, and its verdict on the
collection is success. -/
structure Wire.Sync.Accepted (response : Wire.Sync) (c : Wire.Collection) : Prop where
  noDemand : response.provisioningDemand? = none
  collection : response.collection? = some c
  status : c.status = some Wire.statusOk

/-- The response that accepts an exchange, leads to a key and adds items. -/
def Wire.Sync.accepting (key : String) (items : List Wire.Item) : Wire.Sync :=
  .ofCollection
    { syncKey := some key, status := some Wire.statusOk, commands := some { add := some items } }

/-- What is saved of an item, and whether it is the whole. -/
def Wire.Item.delivery (folder : String) (item : Wire.Item) : Option (Message × Bool) :=
  item.serverId.map fun id => (Exchange.materialize folder id item, !item.truncated)

theorem Wire.Item.delivery_eq_none_iff {folder : String} {item : Wire.Item} :
    item.delivery folder = none ↔ item.serverId = none :=
  Option.map_eq_none_iff

theorem Wire.Item.delivery_eq_some {folder id : String} {item : Wire.Item}
    (h : item.serverId = some id) :
    item.delivery folder = some (Exchange.materialize folder id item, !item.truncated) := by
  rw [delivery, h]
  rfl

/-- What has been saved, and what the items of `rest` are still to make, is what those of `all`
make. -/
def Outstanding (folder : String) (saved : List (Message × Bool)) (rest all : List Wire.Item) :
    Prop :=
  saved.map some ++ rest.map (·.delivery folder) = all.map (·.delivery folder)

namespace Outstanding

variable {folder id : String} {saved : List (Message × Bool)} {item : Wire.Item}
  {items rest all : List Wire.Item}

theorem nil_iff :
    Outstanding folder saved [] all ↔ saved.map some = all.map (·.delivery folder) := by
  rw [Outstanding, List.map_nil, List.append_nil]

theorem length (h : Outstanding folder saved rest all) :
    saved.length + rest.length = all.length := by
  have hlength := congrArg List.length h
  simpa only [List.length_append, List.length_map] using hlength

/-- A save pays one item off. -/
theorem save (h : Outstanding folder saved (item :: rest) all) (hid : item.serverId = some id) :
    Outstanding folder (saved ++ [(Exchange.materialize folder id item, !item.truncated)]) rest
      all := by
  rw [Outstanding, List.map_cons, Wire.Item.delivery_eq_some hid] at h
  rw [Outstanding, List.map_append, List.append_assoc]
  exact h

/-- An item without an id that remains is one of all. -/
theorem exists_serverId_eq_none (h : Outstanding folder saved (item :: rest) all)
    (hnone : item.serverId = none) : ∃ other ∈ all, other.serverId = none := by
  have hmem : none ∈ all.map (·.delivery folder) := by
    rw [← h]
    refine List.mem_append_right _ (List.mem_map.2 ⟨item, List.mem_cons_self, ?_⟩)
    exact Wire.Item.delivery_eq_none_iff.2 hnone
  obtain ⟨other, hother, heq⟩ := List.mem_map.1 hmem
  exact ⟨other, hother, Wire.Item.delivery_eq_none_iff.1 heq⟩

/-- Where nothing remains, more items remain as soon as they are there. -/
theorem append (h : Outstanding folder saved [] all) (items : List Wire.Item) :
    Outstanding folder saved items (all ++ items) := by
  rw [Outstanding, List.map_append, nil_iff.1 h]

end Outstanding

theorem Wire.Sync.provisioningDemand?_eq_none_iff {d : Wire.Sync} :
    d.provisioningDemand? = none ↔ ∀ status ∈ Wire.provisioningStatuses,
      d.status ≠ some status ∧ d.collection?.bind (·.status) ≠ some status := by
  simp only [provisioningDemand?, List.find?_eq_none, List.reduceOption_mem_iff, List.mem_cons,
    List.not_mem_nil, or_false, decide_eq_true_eq]
  constructor
  · intro h status hstatus
    exact ⟨fun hd => h status (.inl hd.symm) hstatus, fun hc => h status (.inr hc.symm) hstatus⟩
  · rintro h status (hd | hc) hstatus
    · exact (h status hstatus).1 hd.symm
    · exact (h status hstatus).2 hc.symm

variable {α β σ : Type} {C : Plan.Contract σ} {s : σ} {bad : Failure → σ → Prop}

/-- A plain question leaves the state alone. -/
theorem Plan.keeps_plain {post : β → σ → Prop} (hC : C.Lenient) {q : Query}
    (hq : q.isPlain = true) {k : q.Answer → Plan β} (h : ∀ a, (k a).Keeps C post s) :
    (ask q k).Keeps C post s := by
  refine ⟨hC.mayAsk s q hq, fun a _ => ?_⟩
  rw [hC.after s q a hq]
  exact h a

namespace Job

/-- A plain question leaves the state alone. -/
theorem keeps_plain (hC : C.Lenient) {q : Query} (hq : q.isPlain = true)
    {ok : q.Answer → σ → Prop} (h : ∀ a, ok a s) : Keeps C ok bad (query q) s :=
  Plan.keeps_plain hC hq h

theorem keeps_within {ok : α → σ → Prop} (context : String) (p : Plan (Except Failure α)) :
    Keeps C ok bad (within context p) s ↔
      Keeps C ok (fun e s' => bad (e.within context) s') (attempt p) s := by
  have h : (within context p).run = p >>= fun r => .done (r.mapError (Failure.within context)) :=
    rfl
  rw [Keeps, h, Plan.keeps_bind]
  constructor
  all_goals
    intro hp
    refine Plan.Keeps.mono hp fun r s' hr => ?_
    cases r with
    | ok a => exact hr
    | error e => exact hr

/-- The gate: the action starts where `J` holds, whether it is the first time or the second, and
where it fails `J` holds again. -/
theorem keeps_ensureProvisioned (hC : C.Lenient) {J : σ → Prop} {ok : α → σ → Prop}
    {action : Job α} (hs : J s) (haction : ∀ s, J s → Keeps C ok (fun _ s' => J s') action s)
    (hbad : ∀ e s, J s → bad e s) :
    Keeps C ok bad (attempt (Plan.device.ensureProvisioned action.run)) s := by
  -- a run of the action after which the gate makes no other move
  have hlast : ∀ s, J s → Keeps C ok bad action s := by
    intro s hs
    exact (haction s hs).mono (fun _ _ h => h) fun e s' h => hbad e s' h
  have hprovision : ∀ s, J s →
      Keeps C ok bad (attempt (Plan.device.provisionThen action.run)) s := by
    intro s hs
    refine Plan.keeps_plain hC rfl fun r => ?_
    cases r with
    | error e => exact hbad _ s hs
    | ok key => exact Plan.keeps_plain hC rfl fun _ => hlast s hs
  refine Plan.keeps_plain hC rfl fun key => ?_
  cases key with
  | none => exact hprovision s hs
  | some key =>
    refine (Plan.keeps_bind action.run _ s).2 (Plan.Keeps.mono (haction s hs) fun r s' hr => ?_)
    cases r with
    | ok a => exact hr
    | error e =>
      simp only
      split
      · exact Plan.keeps_plain hC rfl fun _ => hprovision s' hr
      · exact hbad e s' hr

end Job

namespace Exchange

@[simp] theorem id_materialize (folder id : String) (item : Wire.Item) :
    (materialize folder id item).id = id := by
  unfold materialize
  split <;> rfl

@[simp] theorem folder_materialize (folder id : String) (item : Wire.Item) :
    (materialize folder id item).folder = folder := by
  unfold materialize
  split <;> rfl

theorem keeps_readKey {folder : String} {ok : String → σ → Prop}
    (hask : C.mayAsk s (.readExtra folder Store.syncKeyName))
    (hok : ∀ v, C.admits s (.asked (.readExtra folder Store.syncKeyName) (.ok v)) →
      ok (v.getD Wire.initialKey)
        (C.after s (.asked (.readExtra folder Store.syncKeyName) (.ok v))))
    (hbad : ∀ e e', C.admits s (.asked (.readExtra folder Store.syncKeyName) (.error e)) →
      bad e' (C.after s (.asked (.readExtra folder Store.syncKeyName) (.error e)))) :
    Job.Keeps C ok bad (readKey folder) s := by
  rw [readKey, Job.keeps_bind, Job.keeps_within]
  refine ⟨hask, fun a ha => ?_⟩
  cases a with
  | ok v => exact hok v ha
  | error e => exact hbad e _ ha

theorem keeps_writeKey {folder key : String} {ok : Unit → σ → Prop}
    (hask : C.mayAsk s (.writeExtra folder Store.syncKeyName key))
    (hok : C.admits s (.asked (.writeExtra folder Store.syncKeyName key) (.ok ())) →
      ok () (C.after s (.asked (.writeExtra folder Store.syncKeyName key) (.ok ()))))
    (hbad : ∀ e e', C.admits s (.asked (.writeExtra folder Store.syncKeyName key) (.error e)) →
      bad e' (C.after s (.asked (.writeExtra folder Store.syncKeyName key) (.error e)))) :
    Job.Keeps C ok bad (writeKey folder key) s := by
  rw [writeKey, Job.keeps_within]
  refine ⟨hask, fun a ha => ?_⟩
  cases a with
  | ok v => exact hok ha
  | error e => exact hbad e _ ha

theorem keeps_exchange {d : Wire.Sync} {ok : Wire.Sync → σ → Prop} (hsend : C.maySend s d)
    (hok : ∀ response, C.admits s (.sent d (.ok response)) → response.provisioningDemand? = none →
      ok response (C.after s (.sent d (.ok response))))
    (hbad : ∀ e r, C.admits s (.sent d r) → bad e (C.after s (.sent d r))) :
    Job.Keeps C ok bad (exchange d) s := by
  rw [exchange, Job.keeps_bind, Job.keeps_within]
  refine ⟨hsend, fun r hr => ?_⟩
  cases r with
  | error e => exact hbad _ _ hr
  | ok response =>
    change Job.Ends _ _ (.ok response) _
    simp only [Job.Ends]
    split
    · exact hbad _ _ hr
    · rename_i hd
      exact hok response hr hd

/-- A round trip: the request may be sent wherever `J` holds, and `J` holds when its reply has
come. -/
theorem keeps_roundTrip (hC : C.Lenient) {J : σ → Prop} {d : Wire.Sync} {ok : Wire.Sync → σ → Prop}
    (hs : J s) (hsend : ∀ s, J s → C.maySend s d)
    (hreply : ∀ s r, J s → C.admits s (.sent d r) → J (C.after s (.sent d r)))
    (hok : ∀ s response, J s → C.admits s (.sent d (.ok response)) →
      response.provisioningDemand? = none → ok response (C.after s (.sent d (.ok response))))
    (hbad : ∀ e s, J s → bad e s) : Job.Keeps C ok bad (roundTrip d) s :=
  Job.keeps_ensureProvisioned hC hs
    (fun s hs => keeps_exchange (hsend s hs) (fun response hr hd => hok s response hs hr hd)
      fun _ r hr => hreply s r hs hr) hbad

/-- A round trip whose response has to pass a check before its sync key is stored. Where the check
or the key fails, nothing has happened since the reply came. -/
theorem keeps_commit (hC : C.Lenient) {J : σ → Prop} {d : Wire.Sync} {folder : String}
    {check : Wire.Sync → Except Failure Wire.Collection}
    {rest : Wire.Collection → String → Job α} {ok : α → σ → Prop} (hs : J s)
    (hcheck : ∀ response c, check response = .ok c →
      response.collection? = some c ∧ c.status = some Wire.statusOk)
    (hsend : ∀ s, J s → C.maySend s d)
    (hreply : ∀ s r, J s → C.admits s (.sent d r) → J (C.after s (.sent d r)))
    (hbad : ∀ e s, J s → bad e s)
    (hwrite : ∀ s response c key, J s → C.admits s (.sent d (.ok response)) →
      response.Accepted c → c.syncKey = some key →
        Job.Keeps C (fun _ s' => Job.Keeps C ok bad (rest c key) s') bad (writeKey folder key)
          (C.after s (.sent d (.ok response)))) :
    Job.Keeps C ok bad (do
      let response ← roundTrip d
      let c ← check response
      let key ← newKey folder c
      writeKey folder key
      rest c key) s := by
  rw [Job.keeps_bind]
  refine keeps_roundTrip hC hs hsend hreply (fun s response hs hr hd => ?_) hbad
  have hJ := hreply s _ hs hr
  rw [Job.keeps_bind, Job.keeps_liftExcept]
  cases hc : check response with
  | error e => exact hbad e _ hJ
  | ok c =>
    obtain ⟨hcollection, hstatus⟩ := hcheck response c hc
    simp only [Job.Ends]
    rw [Job.keeps_bind, Job.keeps_liftExcept, newKey]
    cases hkey : c.syncKey with
    | none => exact hbad _ _ hJ
    | some key =>
      simp only [Job.Ends]
      rw [Job.keeps_bind]
      exact hwrite s response c key hs hr ⟨hd, hcollection, hstatus⟩ hkey

/-- With a policy key held, a response that demands no provisioning ends a round trip. -/
theorem runs_roundTrip {d response : Wire.Sync} {policyKey : String}
    (hdemand : response.provisioningDemand? = none) :
    Plan.Runs (roundTrip d).run [.asked .policyKey (some policyKey), .sent d (.ok response)]
      (.ok response) := by
  have hexchange : Plan.Runs (exchange d).run [.sent d (.ok response)] (.ok response) := by
    refine Job.runs_bind (t := [.sent d (.ok response)]) (a := response) (.send (.done _)) ?_
    rw [hdemand]
    exact .done _
  exact .ask (hexchange.bind (.done _))

end Exchange

end MailSync
