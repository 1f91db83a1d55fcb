import MailSync.Proofs.FolderSync
import MailSync.Proofs.MessageFetch

/-!
# The courses of an operation

Everything that an operation can do, as lists of steps with their outcomes. Each part of an operation
has its courses: a round trip behind the gate, an exchange whose sync key is stored, the delivery of
items, the windows of a sync, a pull, a fetch. What holds of every run of an operation is then shown
course by course, and no proof has to open the operation again.

* `Plan.runs_bind_iff` : a run of one plan after another is a run of the first and one of the second.
* `Exchange.trip_of_runs` : a round trip takes one of five courses.
* `FolderSync.windows_of_runs` : the courses of the windows of a sync, by what is left of the budget.
* `FolderSync.pulls_of_runs`, `MessageFetch.fetches_of_runs` : the courses of a pull and of a fetch.
-/

namespace MailSync

namespace Plan

variable {α β : Type}

theorem runs_done_iff {a b : α} {t : List Step} : Runs (.done a) t b ↔ t = [] ∧ b = a := by
  constructor
  · intro h
    cases h
    exact ⟨rfl, rfl⟩
  · rintro ⟨rfl, rfl⟩
    exact .done _

theorem runs_send_iff {d : Wire.Sync} {k : Except Failure Wire.Sync → Plan α} {t : List Step}
    {a : α} : Runs (.send d k) t a ↔ ∃ r t', t = .sent d r :: t' ∧ Runs (k r) t' a := by
  constructor
  · intro h
    cases h with
    | send h => exact ⟨_, _, rfl, h⟩
  · rintro ⟨r, t', rfl, h⟩
    exact .send h

theorem runs_ask_iff {q : Query} {k : q.Answer → Plan α} {t : List Step} {a : α} :
    Runs (.ask q k) t a ↔ ∃ x t', t = .asked q x :: t' ∧ Runs (k x) t' a := by
  constructor
  · intro h
    cases h with
    | ask h => exact ⟨_, _, rfl, h⟩
  · rintro ⟨x, t', rfl, h⟩
    exact .ask h

/-- A run of one plan after another is a run of the first and one of the second. -/
theorem runs_bind_iff {p : Plan α} {f : α → Plan β} {t : List Step} {b : β} :
    Runs (p >>= f) t b ↔ ∃ t₁ t₂ a, t = t₁ ++ t₂ ∧ Runs p t₁ a ∧ Runs (f a) t₂ b := by
  constructor
  · intro h
    -- along the first plan: each of its steps goes to the first run
    induction p generalizing t with
    | done a => exact ⟨[], t, a, rfl, .done a, h⟩
    | send d k ih =>
      obtain ⟨r, t', rfl, hr⟩ := runs_send_iff.1 h
      obtain ⟨t₁, t₂, a, rfl, h₁, h₂⟩ := ih r hr
      exact ⟨.sent d r :: t₁, t₂, a, rfl, .send h₁, h₂⟩
    | ask q k ih =>
      obtain ⟨x, t', rfl, hx⟩ := runs_ask_iff.1 h
      obtain ⟨t₁, t₂, a, rfl, h₁, h₂⟩ := ih x hx
      exact ⟨.asked q x :: t₁, t₂, a, rfl, .ask h₁, h₂⟩
  · rintro ⟨t₁, t₂, a, rfl, h₁, h₂⟩
    exact h₁.bind h₂

end Plan

namespace Job

variable {α β : Type}

/-- A run of one job after another: the first ends well and the second follows, or the first ends
badly and that is all. -/
theorem runs_bind_cases {j : Job α} {f : α → Job β} {t : List Plan.Step} {r : Except Failure β}
    (h : Plan.Runs (j >>= f).run t r) :
    (∃ t₁ t₂ a, t = t₁ ++ t₂ ∧ Plan.Runs j.run t₁ (.ok a) ∧ Plan.Runs (f a).run t₂ r) ∨
      ∃ e, r = .error e ∧ Plan.Runs j.run t (.error e) := by
  obtain ⟨t₁, t₂, x, rfl, h₁, h₂⟩ := Plan.runs_bind_iff.1 h
  cases x with
  | ok a => exact .inl ⟨t₁, t₂, a, rfl, h₁, h₂⟩
  | error e =>
    obtain ⟨rfl, rfl⟩ := Plan.runs_done_iff.1 h₂
    exact .inr ⟨e, rfl, by rwa [List.append_nil]⟩

end Job

namespace Exchange

variable {α : Type} {d : Wire.Sync} {folder : String} {t : List Plan.Step}

/-! ### A round trip -/

/-- What an exchange makes of a reply. -/
def verdict : Except Failure Wire.Sync → Except Failure Wire.Sync
  | .error e => .error (e.within "Sync request failed")
  | .ok response =>
    match response.provisioningDemand? with
    | some status => .error (.ofCause (.provisionRequired status))
    | none => .ok response

/-- The reply demands provisioning: the client has failed for that cause, inside any contexts, or the
response carries such a status, at either level. -/
def Demands : Except Failure Wire.Sync → Prop
  | .error e => e.demandsProvisioning = true
  | .ok response =>
    ∃ status ∈ Wire.provisioningStatuses,
      response.status = some status ∨ response.collection?.bind (·.status) = some status

instance : DecidablePred Demands
  | .error e => inferInstanceAs (Decidable (e.demandsProvisioning = true))
  | .ok response =>
    inferInstanceAs (Decidable (∃ status ∈ Wire.provisioningStatuses,
      response.status = some status ∨ response.collection?.bind (·.status) = some status))

theorem not_demands_iff {response : Wire.Sync} :
    ¬ Demands (.ok response) ↔ response.provisioningDemand? = none := by
  rw [Wire.Sync.provisioningDemand?_eq_none_iff]
  simp only [Demands, not_exists, not_and, not_or, ne_eq]

/-- An attempt fails with a demand for provisioning if and only if its reply is one. -/
theorem demands_iff {reply : Except Failure Wire.Sync} :
    Demands reply ↔ ∃ e, verdict reply = .error e ∧ e.demandsProvisioning = true := by
  cases reply with
  | error e => simp [Demands, verdict]
  | ok response =>
    rw [← not_iff_not, not_demands_iff, verdict]
    cases response.provisioningDemand? with
    | none => simp
    | some status => simp [Failure.demandsProvisioning, Failure.ofCause]

theorem verdict_eq_ok {reply : Except Failure Wire.Sync} {response : Wire.Sync}
    (h : verdict reply = .ok response) :
    reply = .ok response ∧ response.provisioningDemand? = none := by
  unfold verdict at h
  split at h
  · cases h
  · split at h
    · cases h
    · rename_i hdemand
      cases h
      exact ⟨rfl, hdemand⟩

theorem runs_exchange {r : Except Failure Wire.Sync} (h : Plan.Runs (exchange d).run t r) :
    ∃ reply, t = [.sent d reply] ∧ r = verdict reply := by
  obtain ⟨reply, t', rfl, h'⟩ := Plan.runs_send_iff.1 h
  cases reply with
  | error e =>
    obtain ⟨rfl, rfl⟩ := Plan.runs_done_iff.1 h'
    exact ⟨.error e, rfl, rfl⟩
  | ok response =>
    change Plan.Runs (Plan.bind (.done (.ok response)) (ExceptT.bindCont _)) t' r at h'
    simp only [Plan.bind, ExceptT.bindCont] at h'
    unfold verdict
    cases hdemand : response.provisioningDemand? with
    | none =>
      rw [hdemand] at h'
      obtain ⟨rfl, rfl⟩ := Plan.runs_done_iff.1 h'
      exact ⟨.ok response, rfl, by simp only [hdemand]⟩
    | some status =>
      rw [hdemand] at h'
      obtain ⟨rfl, rfl⟩ := Plan.runs_done_iff.1 h'
      exact ⟨.ok response, rfl, by simp only [hdemand]⟩

/-- The courses of a round trip. -/
inductive Trip (d : Wire.Sync) : List Plan.Step → Except Failure Wire.Sync → Prop
  /-- The device holds a key, and nothing is demanded of it. -/
  | held (key : String) (reply : Except Failure Wire.Sync) (h : ¬ Demands reply) :
      Trip d [.asked .policyKey (some key), .sent d reply] (verdict reply)
  /-- The device holds no key, and cannot be provisioned. -/
  | unprovisioned (e : Failure) :
      Trip d [.asked .policyKey none, .asked .handshake (.error e)]
        (.error (e.within "Device provisioning failed"))
  /-- The device holds no key, and is provisioned first. -/
  | provisioned (key : String) (reply : Except Failure Wire.Sync) :
      Trip d [.asked .policyKey none, .asked .handshake (.ok key),
        .asked (.setPolicyKey (some key)) (), .sent d reply] (verdict reply)
  /-- The key that the device holds is no longer good, and it cannot be provisioned. -/
  | rejected (key : String) (reply : Except Failure Wire.Sync) (e : Failure) (h : Demands reply) :
      Trip d [.asked .policyKey (some key), .sent d reply, .asked (.setPolicyKey none) (),
        .asked .handshake (.error e)] (.error (e.within "Device provisioning failed"))
  /-- The key that the device holds is no longer good, and the request is sent again under a new
  one. -/
  | retried (key : String) (reply : Except Failure Wire.Sync) (key' : String)
      (reply' : Except Failure Wire.Sync) (h : Demands reply) :
      Trip d [.asked .policyKey (some key), .sent d reply, .asked (.setPolicyKey none) (),
        .asked .handshake (.ok key'), .asked (.setPolicyKey (some key')) (), .sent d reply']
        (verdict reply')

/-- Where the device is provisioned first, the request is sent only if that succeeds. -/
theorem runs_provisionThen {r : Except Failure Wire.Sync}
    (h : Plan.Runs (Plan.device.provisionThen (exchange d).run) t r) :
    (∃ e, t = [.asked .handshake (.error e)] ∧
      r = .error (e.within "Device provisioning failed")) ∨
    ∃ key reply, t = [.asked .handshake (.ok key), .asked (.setPolicyKey (some key)) (),
      .sent d reply] ∧ r = verdict reply := by
  obtain ⟨x, t', rfl, h'⟩ := Plan.runs_ask_iff.1 h
  cases x with
  | error e =>
    obtain ⟨rfl, rfl⟩ := Plan.runs_done_iff.1 h'
    exact .inl ⟨e, rfl, rfl⟩
  | ok key =>
    obtain ⟨_, t'', rfl, h''⟩ := Plan.runs_ask_iff.1 h'
    obtain ⟨reply, rfl, rfl⟩ := runs_exchange h''
    exact .inr ⟨key, reply, rfl, rfl⟩

/-- A round trip takes one of the five courses. -/
theorem trip_of_runs {r : Except Failure Wire.Sync} (h : Plan.Runs (roundTrip d).run t r) :
    Trip d t r := by
  obtain ⟨held, t', rfl, h'⟩ := Plan.runs_ask_iff.1 h
  cases held with
  | none =>
    obtain ⟨e, rfl, rfl⟩ | ⟨key, reply, rfl, rfl⟩ := runs_provisionThen h'
    · exact .unprovisioned e
    · exact .provisioned key reply
  | some key =>
    -- the first attempt, and what the gate makes of its verdict
    change Plan.Runs ((exchange d).run >>= _) t' r at h'
    obtain ⟨t₁, t₂, x, rfl, h₁, h₂⟩ := Plan.runs_bind_iff.1 h'
    obtain ⟨reply, rfl, rfl⟩ := runs_exchange h₁
    by_cases hdemand : Demands reply
    · obtain ⟨e, hverdict, he⟩ := demands_iff.1 hdemand
      simp only [hverdict, he, ↓reduceIte] at h₂
      obtain ⟨_, t₃, rfl, h₃⟩ := Plan.runs_ask_iff.1 h₂
      obtain ⟨e', rfl, rfl⟩ | ⟨key', reply', rfl, rfl⟩ := runs_provisionThen h₃
      · exact .rejected key reply e' hdemand
      · exact .retried key reply key' reply' hdemand
    · -- whether the attempt has gone well or not, the gate hands its verdict on
      have hend : t₂ = [] ∧ r = verdict reply := by
        cases hverdict : verdict reply with
        | ok response =>
          simp only [hverdict] at h₂
          exact Plan.runs_done_iff.1 h₂
        | error e =>
          have he : ¬ e.demandsProvisioning = true := fun he => hdemand (demands_iff.2 ⟨e, hverdict, he⟩)
          simp only [hverdict, he] at h₂
          exact Plan.runs_done_iff.1 h₂
      obtain ⟨rfl, rfl⟩ := hend
      exact .held key reply hdemand

/-- A round trip that succeeds ends with the response, which demands nothing. -/
theorem Trip.ends {r : Except Failure Wire.Sync} {response : Wire.Sync} (h : Trip d t r)
    (hr : r = .ok response) :
    response.provisioningDemand? = none ∧ ∃ t', t = t' ++ [.sent d (.ok response)] := by
  cases h with
  | held key reply =>
    obtain ⟨rfl, hdemand⟩ := verdict_eq_ok hr
    exact ⟨hdemand, [_], rfl⟩
  | provisioned key reply =>
    obtain ⟨rfl, hdemand⟩ := verdict_eq_ok hr
    exact ⟨hdemand, [_, _, _], rfl⟩
  | retried key reply key' reply' =>
    obtain ⟨rfl, hdemand⟩ := verdict_eq_ok hr
    exact ⟨hdemand, [_, _, _, _, _], rfl⟩
  | unprovisioned | rejected => cases hr

/-! ### The sync key -/

/-- The read of a folder's sync key, and what it has found. -/
def readStep (folder : String) (found : Except Failure (Option String)) : Plan.Step :=
  .asked (.readExtra folder Store.syncKeyName) found

/-- The write of a folder's sync key, and its outcome. -/
def writeStep (folder key : String) (outcome : Except Failure Unit) : Plan.Step :=
  .asked (.writeExtra folder Store.syncKeyName key) outcome

theorem runs_readKey {r : Except Failure String} (h : Plan.Runs (readKey folder).run t r) :
    (∃ e, t = [readStep folder (.error e)] ∧
      r = .error (e.within s!"Failed to read sync key for folder {folder}")) ∨
    ∃ stored, t = [readStep folder (.ok stored)] ∧ r = .ok (stored.getD Wire.initialKey) := by
  obtain ⟨found, t', rfl, h'⟩ := Plan.runs_ask_iff.1 h
  cases found with
  | error e =>
    obtain ⟨rfl, rfl⟩ := Plan.runs_done_iff.1 h'
    exact .inl ⟨e, rfl, rfl⟩
  | ok stored =>
    obtain ⟨rfl, rfl⟩ := Plan.runs_done_iff.1 h'
    exact .inr ⟨stored, rfl, rfl⟩

theorem runs_writeKey {key : String} {r : Except Failure Unit}
    (h : Plan.Runs (writeKey folder key).run t r) :
    (∃ e, t = [writeStep folder key (.error e)] ∧
      r = .error (e.within s!"Failed to persist sync key for folder {folder}")) ∨
    t = [writeStep folder key (.ok ())] ∧ r = .ok () := by
  obtain ⟨outcome, t', rfl, h'⟩ := Plan.runs_ask_iff.1 h
  cases outcome with
  | error e =>
    obtain ⟨rfl, rfl⟩ := Plan.runs_done_iff.1 h'
    exact .inl ⟨e, rfl, rfl⟩
  | ok _ =>
    obtain ⟨rfl, rfl⟩ := Plan.runs_done_iff.1 h'
    exact .inr ⟨rfl, rfl⟩

/-- The courses of an exchange whose response has to pass a check before its sync key is stored. -/
inductive Commits (folder : String) (check : Wire.Sync → Except Failure Wire.Collection)
    (d : Wire.Sync) : List Plan.Step → Except Failure (Wire.Collection × String) → Prop
  /-- The round trip fails. -/
  | fails {t : List Plan.Step} {e : Failure} (h : Trip d t (.error e)) :
      Commits folder check d t (.error e)
  /-- The response does not pass. -/
  | refused {t : List Plan.Step} {response : Wire.Sync} {e : Failure}
      (h : Trip d t (.ok response)) (hcheck : check response = .error e) :
      Commits folder check d t (.error e)
  /-- The response leads to no key. -/
  | keyless {t : List Plan.Step} {response : Wire.Sync} {c : Wire.Collection}
      (h : Trip d t (.ok response)) (hcheck : check response = .ok c) (hkey : c.syncKey = none) :
      Commits folder check d t (.error (.ofCause (.malformedResponse folder .noSyncKey)))
  /-- The key cannot be stored. -/
  | unwritten {t : List Plan.Step} {response : Wire.Sync} {c : Wire.Collection} {key : String}
      (h : Trip d t (.ok response)) (hcheck : check response = .ok c)
      (hkey : c.syncKey = some key) (e : Failure) :
      Commits folder check d (t ++ [writeStep folder key (.error e)])
        (.error (e.within s!"Failed to persist sync key for folder {folder}"))
  /-- The key is stored. -/
  | stored {t : List Plan.Step} {response : Wire.Sync} {c : Wire.Collection} {key : String}
      (h : Trip d t (.ok response)) (hcheck : check response = .ok c)
      (hkey : c.syncKey = some key) :
      Commits folder check d (t ++ [writeStep folder key (.ok ())]) (.ok (c, key))

/-- What follows such an exchange starts where the key has been stored. -/
theorem commits_of_runs {check : Wire.Sync → Except Failure Wire.Collection}
    {rest : Wire.Collection → String → Job α} {r : Except Failure α}
    (h : Plan.Runs (do
      let response ← roundTrip d
      let c ← check response
      let key ← newKey folder c
      writeKey folder key
      rest c key : Job α).run t r) :
    (∃ e, r = .error e ∧ Commits folder check d t (.error e)) ∨
      ∃ c key t₁ t₂, t = t₁ ++ t₂ ∧ Commits folder check d t₁ (.ok (c, key)) ∧
        Plan.Runs (rest c key).run t₂ r := by
  obtain ⟨t₁, t₂, response, rfl, h₁, h₂⟩ | ⟨e, rfl, h₁⟩ := Job.runs_bind_cases h
  case inr => exact .inl ⟨e, rfl, .fails (trip_of_runs h₁)⟩
  -- the response has come, and has to pass the check and to lead to a key that can be stored
  have htrip := trip_of_runs h₁
  cases hcheck : check response with
  | error e =>
    rw [hcheck] at h₂
    obtain ⟨rfl, rfl⟩ := Plan.runs_done_iff.1 h₂
    exact .inl ⟨e, rfl, by simpa using .refused htrip hcheck⟩
  | ok c =>
    rw [hcheck] at h₂
    change Plan.Runs (liftM (newKey folder c) >>= _ : Job α).run t₂ r at h₂
    rw [newKey] at h₂
    cases hkey : c.syncKey with
    | none =>
      rw [hkey] at h₂
      obtain ⟨rfl, rfl⟩ := Plan.runs_done_iff.1 h₂
      exact .inl ⟨_, rfl, by simpa using .keyless htrip hcheck hkey⟩
    | some key =>
      rw [hkey] at h₂
      change Plan.Runs (writeKey folder key >>= fun _ => rest c key : Job α).run t₂ r at h₂
      obtain ⟨t₃, t₄, _, rfl, h₃, h₄⟩ | ⟨e, rfl, h₃⟩ := Job.runs_bind_cases h₂
      · obtain ⟨e, -, hr⟩ | ⟨rfl, -⟩ := runs_writeKey h₃
        · cases hr
        · exact .inr ⟨c, key, _, t₄, (List.append_assoc ..).symm, .stored htrip hcheck hkey, h₄⟩
      · obtain ⟨e, rfl, hr⟩ | ⟨-, hr⟩ := runs_writeKey h₃
        · cases hr
          exact .inl ⟨_, rfl, .unwritten htrip hcheck hkey e⟩
        · cases hr

end Exchange

namespace FolderSync

open Exchange

variable {folder : String} {t : List Plan.Step}

theorem commits_of_runs_advance {d : Wire.Sync} {r : Except Failure (Wire.Collection × String)}
    (h : Plan.Runs (advance folder d).run t r) : Commits folder (accepted folder) d t r := by
  obtain ⟨e, rfl, h₁⟩ | ⟨c, key, t₁, t₂, rfl, h₁, h₂⟩ := commits_of_runs h
  · exact h₁
  · obtain ⟨rfl, rfl⟩ := Plan.runs_done_iff.1 h₂
    rwa [List.append_nil]

/-! ### Items -/

/-- The courses of the delivery of items. -/
inductive Delivers (folder : String) :
    List Wire.Item → List Plan.Step → Except Failure Unit → Prop
  /-- All items have been delivered. -/
  | nil : Delivers folder [] [] (.ok ())
  /-- The next item has no id. -/
  | nameless {item : Wire.Item} {rest : List Wire.Item} (hid : item.serverId = none) :
      Delivers folder (item :: rest) []
        (.error (.ofCause (.malformedResponse folder .itemWithoutId)))
  /-- The store refuses the next item. -/
  | refused {item : Wire.Item} {rest : List Wire.Item} {id : String}
      (hid : item.serverId = some id) (e : Failure) :
      Delivers folder (item :: rest) (deliverSteps folder id item (.error e)) (.error e)
  /-- The next item is delivered. -/
  | delivered {item : Wire.Item} {rest : List Wire.Item} {id : String} {t : List Plan.Step}
      {r : Except Failure Unit} (hid : item.serverId = some id) (h : Delivers folder rest t r) :
      Delivers folder (item :: rest) (deliverSteps folder id item (.ok ()) ++ t) r

theorem delivers_of_runs {items : List Wire.Item} {r : Except Failure Unit}
    (h : Plan.Runs (deliverAll folder items).run t r) : Delivers folder items t r := by
  induction items generalizing t with
  | nil =>
    obtain ⟨rfl, rfl⟩ := Plan.runs_done_iff.1 h
    exact .nil
  | cons item rest ih =>
    rw [deliverAll, deliver] at h
    cases hid : item.serverId with
    | none =>
      rw [hid] at h
      obtain ⟨rfl, rfl⟩ := Plan.runs_done_iff.1 h
      exact .nameless hid
    | some id =>
      rw [hid] at h
      obtain ⟨outcome, t', rfl, h'⟩ := Plan.runs_ask_iff.1 h
      cases outcome with
      | error e =>
        obtain ⟨rfl, rfl⟩ := Plan.runs_done_iff.1 h'
        exact .refused hid e
      | ok _ =>
        obtain ⟨_, t'', rfl, h''⟩ := Plan.runs_ask_iff.1 h'
        exact .delivered hid (ih h'')

/-! ### Windows -/

/-- A look at the cancel flag that finds it down, where there is one. -/
def checks (cancellable : Bool) : List Plan.Step :=
  if cancellable then [.asked .cancelled false] else []

/-- The request for the next window. -/
def nextWindow (folder : String) (config : SyncConfig) (key : String) (stats : SyncStats) :
    Wire.Sync :=
  Wire.Sync.window folder key (min (config.visibleLimit.toNat - stats.messages) Wire.maxWindow)
    config.maxDownloadSize

/-- The courses of the windows of a sync, from a sync key and statistics on. -/
inductive Windows (folder : String) (config : SyncConfig) (cancellable : Bool) :
    String → SyncStats → List Plan.Step → Except Failure SyncStats → Prop
  /-- The budget is used up. -/
  | spent {key : String} {stats : SyncStats} (h : config.visibleLimit.toNat ≤ stats.messages) :
      Windows folder config cancellable key stats [] (.ok stats)
  /-- The sync is cancelled. -/
  | cancelled {key : String} {stats : SyncStats} (h : stats.messages < config.visibleLimit.toNat)
      (hc : cancellable = true) :
      Windows folder config cancellable key stats [.asked .cancelled true]
        (.ok { stats with cancelled := true })
  /-- The next window does not come, or its key is not stored. -/
  | fails {key : String} {stats : SyncStats} {t : List Plan.Step} {e : Failure}
      (h : stats.messages < config.visibleLimit.toNat)
      (hadvance : Commits folder (accepted folder) (nextWindow folder config key stats) t
        (.error e)) :
      Windows folder config cancellable key stats (checks cancellable ++ t) (.error e)
  /-- Some items of the next window are not delivered. -/
  | undelivered {key key' : String} {stats : SyncStats} {c : Wire.Collection}
      {t t' : List Plan.Step} {e : Failure} (h : stats.messages < config.visibleLimit.toNat)
      (hadvance : Commits folder (accepted folder) (nextWindow folder config key stats) t
        (.ok (c, key')))
      (hitems : Delivers folder c.added t' (.error e)) :
      Windows folder config cancellable key stats (checks cancellable ++ (t ++ t')) (.error e)
  /-- The next window is the last one. -/
  | last {key key' : String} {stats : SyncStats} {c : Wire.Collection} {t t' : List Plan.Step}
      (h : stats.messages < config.visibleLimit.toNat)
      (hadvance : Commits folder (accepted folder) (nextWindow folder config key stats) t
        (.ok (c, key')))
      (hitems : Delivers folder c.added t' (.ok ())) (hmore : c.hasMore = false) :
      Windows folder config cancellable key stats (checks cancellable ++ (t ++ t'))
        (.ok (addWindow stats c))
  /-- The next window announces more and brings nothing. -/
  | empty {key key' : String} {stats : SyncStats} {c : Wire.Collection} {t t' : List Plan.Step}
      (h : stats.messages < config.visibleLimit.toNat)
      (hadvance : Commits folder (accepted folder) (nextWindow folder config key stats) t
        (.ok (c, key')))
      (hitems : Delivers folder c.added t' (.ok ())) (hmore : c.hasMore = true)
      (hadded : c.added = []) :
      Windows folder config cancellable key stats (checks cancellable ++ (t ++ t'))
        (.error (.ofCause (.malformedResponse folder .emptyWindow)))
  /-- Another window follows. -/
  | next {key key' : String} {stats : SyncStats} {c : Wire.Collection} {t t' t'' : List Plan.Step}
      {r : Except Failure SyncStats} (h : stats.messages < config.visibleLimit.toNat)
      (hadvance : Commits folder (accepted folder) (nextWindow folder config key stats) t
        (.ok (c, key')))
      (hitems : Delivers folder c.added t' (.ok ())) (hmore : c.hasMore = true)
      (hadded : c.added ≠ [])
      (hnext : Windows folder config cancellable key' (addWindow stats c) t'' r) :
      Windows folder config cancellable key stats (checks cancellable ++ (t ++ (t' ++ t''))) r

variable {config : SyncConfig} {cancellable : Bool}

theorem runs_isCancelled {r : Except Failure Bool}
    (h : Plan.Runs (isCancelled cancellable).run t r) :
    (t = [.asked .cancelled true] ∧ r = .ok true ∧ cancellable = true) ∨
      t = checks cancellable ∧ r = .ok false := by
  cases cancellable with
  | false =>
    obtain ⟨rfl, rfl⟩ := Plan.runs_done_iff.1 h
    exact .inr ⟨rfl, rfl⟩
  | true =>
    obtain ⟨raised, t', rfl, h'⟩ := Plan.runs_ask_iff.1 h
    obtain ⟨rfl, rfl⟩ := Plan.runs_done_iff.1 h'
    cases raised with
    | true => exact .inl ⟨rfl, rfl, rfl⟩
    | false => exact .inr ⟨rfl, rfl⟩

/-- The windows of a sync, by what is left of the budget. -/
theorem windows_of_runs {key : String} {stats : SyncStats} {r : Except Failure SyncStats}
    (h : Plan.Runs (windows folder config cancellable key stats).run t r) :
    Windows folder config cancellable key stats t r := by
  -- on what is left of the budget, which is what the loop ends by
  induction hn : config.visibleLimit.toNat - stats.messages using Nat.strongRecOn
    generalizing key stats t with
  | ind n ih =>
    rw [windows] at h
    split at h
    case isFalse hlt =>
      obtain ⟨rfl, rfl⟩ := Plan.runs_done_iff.1 h
      exact .spent (Nat.le_of_not_lt hlt)
    case isTrue hlt =>
    obtain ⟨t₀, t₁, raised, rfl, h₀, h₁⟩ | ⟨e, rfl, h₀⟩ := Job.runs_bind_cases h
    case inr =>
      obtain ⟨-, hr, -⟩ | ⟨-, hr⟩ := runs_isCancelled h₀ <;> cases hr
    obtain ⟨rfl, hr, hc⟩ | ⟨rfl, hr⟩ := runs_isCancelled h₀
    · cases hr
      obtain ⟨rfl, rfl⟩ := Plan.runs_done_iff.1 h₁
      exact .cancelled hlt hc
    cases hr
    simp only [Bool.false_eq_true, ↓reduceIte] at h₁
    obtain ⟨t₂, t₃, p, rfl, h₂, h₃⟩ | ⟨e, rfl, h₂⟩ := Job.runs_bind_cases h₁
    case inr => exact .fails hlt (commits_of_runs_advance h₂)
    obtain ⟨c, key'⟩ := p
    have hadvance := commits_of_runs_advance h₂
    obtain ⟨t₄, t₅, _, rfl, h₄, h₅⟩ | ⟨e, rfl, h₄⟩ := Job.runs_bind_cases h₃
    case inr => exact .undelivered hlt hadvance (delivers_of_runs h₄)
    have hitems := delivers_of_runs h₄
    by_cases hmore : c.hasMore = true
    · by_cases hadded : c.added = []
      · simp only [hmore, hadded] at h₅
        obtain ⟨rfl, rfl⟩ := Plan.runs_done_iff.1 h₅
        rw [List.append_nil]
        exact .empty hlt hadvance hitems hmore hadded
      · -- the window has brought something, so less is left for the next
        have hpos := List.length_pos_iff.2 hadded
        simp only [hmore, hadded, not_true_eq_false, ↓reduceIte, ↓reduceDIte] at h₅
        refine .next hlt hadvance hitems hmore hadded (ih _ ?_ h₅ rfl)
        simp only [addWindow]
        omega
    · simp only [hmore, Bool.false_eq_true, not_false_eq_true, ↓reduceIte] at h₅
      obtain ⟨rfl, rfl⟩ := Plan.runs_done_iff.1 h₅
      rw [List.append_nil]
      exact .last hlt hadvance hitems (Bool.not_eq_true _ ▸ hmore)

/-! ### A whole sync -/

/-- The courses of a pull. -/
inductive Pulls (folder : String) (config : SyncConfig) (cancellable : Bool) :
    List Plan.Step → Except Failure SyncStats → Prop
  /-- The key cannot be read. -/
  | unread (e : Failure) :
      Pulls folder config cancellable [readStep folder (.error e)]
        (.error (e.within s!"Failed to read sync key for folder {folder}"))
  /-- The folder is known to the server. -/
  | known {stored : Option String} {t : List Plan.Step} {r : Except Failure SyncStats}
      (hkey : stored.getD Wire.initialKey ≠ Wire.initialKey)
      (h : Windows folder config cancellable (stored.getD Wire.initialKey) {} t r) :
      Pulls folder config cancellable (readStep folder (.ok stored) :: t) r
  /-- The folder cannot be introduced to the server. -/
  | refused {stored : Option String} {t : List Plan.Step} {e : Failure}
      (hkey : stored.getD Wire.initialKey = Wire.initialKey)
      (hadvance : Commits folder (accepted folder)
        (Wire.Sync.handshake folder Wire.initialKey) t (.error e)) :
      Pulls folder config cancellable (readStep folder (.ok stored) :: t) (.error e)
  /-- The folder is introduced to the server. -/
  | introduced {stored : Option String} {c : Wire.Collection} {key : String}
      {t t' : List Plan.Step} {r : Except Failure SyncStats}
      (hkey : stored.getD Wire.initialKey = Wire.initialKey)
      (hadvance : Commits folder (accepted folder)
        (Wire.Sync.handshake folder Wire.initialKey) t (.ok (c, key)))
      (h : Windows folder config cancellable key { roundTrips := 1, handshake := true } t' r) :
      Pulls folder config cancellable (readStep folder (.ok stored) :: (t ++ t')) r

theorem pulls_of_runs {r : Except Failure SyncStats}
    (h : Plan.Runs (pull folder config cancellable).run t r) :
    Pulls folder config cancellable t r := by
  obtain ⟨t₁, t₂, key, rfl, h₁, h₂⟩ | ⟨e, rfl, h₁⟩ := Job.runs_bind_cases h
  case inr =>
    obtain ⟨e, rfl, hr⟩ | ⟨stored, -, hr⟩ := runs_readKey h₁
    · cases hr
      exact .unread e
    · cases hr
  obtain ⟨e, -, hr⟩ | ⟨stored, rfl, hr⟩ := runs_readKey h₁
  · cases hr
  cases hr
  rw [establish] at h₂
  split at h₂
  · rename_i hkey
    rw [hkey] at h₂
    obtain ⟨t₃, t₄, p, rfl, h₃, h₄⟩ | ⟨e, rfl, h₃⟩ := Job.runs_bind_cases h₂
    · obtain ⟨t₅, t₆, q, rfl, h₅, h₆⟩ | ⟨e, hr, -⟩ := Job.runs_bind_cases h₃
      case inr => cases hr
      obtain ⟨c, key⟩ := q
      obtain ⟨rfl, hr⟩ := Plan.runs_done_iff.1 h₆
      cases hr
      rw [List.append_nil]
      exact .introduced (t := t₅) hkey (commits_of_runs_advance h₅) (windows_of_runs h₄)
    · obtain ⟨t₅, t₆, q, rfl, h₅, h₆⟩ | ⟨e', hr, h₅⟩ := Job.runs_bind_cases h₃
      · obtain ⟨-, hr⟩ := Plan.runs_done_iff.1 h₆
        cases hr
      · cases hr
        exact .refused hkey (commits_of_runs_advance h₅)
  · rename_i hkey
    exact .known hkey (windows_of_runs h₂)

/-- A sync is a pull between two notices. -/
theorem runs_sync_cases {r : Except Failure SyncStats}
    (h : Plan.Runs (sync folder config cancellable) t r) :
    ∃ t', t = .asked (.notify (.started folder)) () ::
      (t' ++ [.asked (.notify (lastNotice folder r)) ()]) ∧ Pulls folder config cancellable t' r := by
  obtain ⟨_, t₁, rfl, h₁⟩ := Plan.runs_ask_iff.1 h
  change Plan.Runs ((pull folder config cancellable).run >>= _) t₁ r at h₁
  obtain ⟨t₂, t₃, x, rfl, h₂, h₃⟩ := Plan.runs_bind_iff.1 h₁
  cases x with
  | ok stats =>
    obtain ⟨_, t₄, rfl, h₄⟩ := Plan.runs_ask_iff.1 h₃
    obtain ⟨rfl, rfl⟩ := Plan.runs_done_iff.1 h₄
    exact ⟨t₂, rfl, pulls_of_runs h₂⟩
  | error e =>
    obtain ⟨_, t₄, rfl, h₄⟩ := Plan.runs_ask_iff.1 h₃
    obtain ⟨rfl, rfl⟩ := Plan.runs_done_iff.1 h₄
    exact ⟨t₂, rfl, pulls_of_runs h₂⟩

/-- A sync of a folder that is known to the server, and that has one window left to take. -/
theorem runs_one_window (config : SyncConfig) {items : List Wire.Item}
    (hlimit : 0 < config.visibleLimit.toNat)
    (h : Plan.Runs (deliverAll folder items).run t (.ok ())) :
    ∃ stats, Plan.Runs (sync folder config false)
      (.asked (.notify (.started folder)) () :: (readStep folder (.ok (some "1")) ::
        (advanceSteps folder "P" (nextWindow folder config "1" {}) (.accepting "2" items) "2" ++
          t) ++ [.asked (.notify (.finished folder stats)) ()])) (.ok stats) := by
  have hwindow : Plan.Runs (windows folder config false ((some "1").getD Wire.initialKey) {}).run
      (advanceSteps folder "P" (nextWindow folder config "1" {}) (.accepting "2" items) "2" ++ t)
      _ :=
    runs_windows_last hlimit rfl rfl rfl rfl h
  exact ⟨_, runs_sync (runs_pull_known (by decide) hwindow)⟩

end FolderSync

namespace MessageFetch

open Exchange

variable {folder id : String} {t : List Plan.Step}

/-- The courses of a fetch. -/
inductive Fetches (folder id : String) : List Plan.Step → Except Failure Message → Prop
  /-- The key cannot be read. -/
  | unread (e : Failure) :
      Fetches folder id [readStep folder (.error e)]
        (.error (e.within s!"Failed to read sync key for folder {folder}"))
  /-- The response does not come, or its key is not stored. -/
  | fails {stored : Option String} {t : List Plan.Step} {e : Failure}
      (h : Commits folder (accepted id)
        (Wire.Sync.fetch folder (stored.getD Wire.initialKey) id) t (.error e)) :
      Fetches folder id (readStep folder (.ok stored) :: t) (.error e)
  /-- No item of the response answers the request. -/
  | missing {stored : Option String} {c : Wire.Collection} {key : String} {t : List Plan.Step}
      (h : Commits folder (accepted id)
        (Wire.Sync.fetch folder (stored.getD Wire.initialKey) id) t (.ok (c, key)))
      (hnone : c.fetched.find? (answers id) = none) :
      Fetches folder id (readStep folder (.ok stored) :: t) (.error (.ofCause (.messageNotFound id)))
  /-- An item of the response answers the request. -/
  | found {stored : Option String} {c : Wire.Collection} {key : String} {t : List Plan.Step}
      {item : Wire.Item}
      (h : Commits folder (accepted id)
        (Wire.Sync.fetch folder (stored.getD Wire.initialKey) id) t (.ok (c, key)))
      (hitem : c.fetched.find? (answers id) = some item) :
      Fetches folder id (readStep folder (.ok stored) :: t) (.ok (materialize folder id item))

theorem fetches_of_runs {r : Except Failure Message} (h : Plan.Runs (fetch folder id) t r) :
    Fetches folder id t r := by
  change Plan.Runs (fetchJob folder id).run t r at h
  obtain ⟨t₁, t₂, key, rfl, h₁, h₂⟩ | ⟨e, rfl, h₁⟩ := Job.runs_bind_cases h
  case inr =>
    obtain ⟨e, rfl, hr⟩ | ⟨stored, -, hr⟩ := runs_readKey h₁
    · cases hr
      exact .unread e
    · cases hr
  obtain ⟨e, -, hr⟩ | ⟨stored, rfl, hr⟩ := runs_readKey h₁
  · cases hr
  cases hr
  obtain ⟨e, rfl, h₃⟩ | ⟨c, key, t₃, t₄, rfl, h₃, h₄⟩ := commits_of_runs h₂
  · exact .fails h₃
  · cases hitem : c.fetched.find? (answers id) with
    | none =>
      rw [hitem] at h₄
      obtain ⟨rfl, rfl⟩ := Plan.runs_done_iff.1 h₄
      rw [List.append_nil]
      exact .missing h₃ hitem
    | some item =>
      rw [hitem] at h₄
      obtain ⟨rfl, rfl⟩ := Plan.runs_done_iff.1 h₄
      rw [List.append_nil]
      exact .found h₃ hitem

end MessageFetch

end MailSync
