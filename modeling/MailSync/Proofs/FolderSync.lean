import MailSync.Proofs.Exchange
import MailSync.Sync.Folder

/-!
# What a folder sync keeps

Rules for the parts of a folder sync, over any contract that lets an operation deal with the device,
the listener and the cancel flag as it likes.

* `FolderSync.keeps_windows` : what holds before a window and is kept by every window holds when the
  sync ends, whatever ends it.
-/

namespace MailSync

namespace FolderSync

open Exchange

variable {σ : Type} {C : Plan.Contract σ} {s : σ} {bad : Failure → σ → Prop} {folder : String}

theorem collection_of_accepted {response : Wire.Sync} {c : Wire.Collection}
    (h : accepted folder response = .ok c) :
    response.collection? = some c ∧ c.status = some Wire.statusOk := by
  unfold accepted at h
  split at h
  · cases h
  · rename_i c' hc
    split at h
    · rename_i hstatus
      cases h
      exact ⟨hc, hstatus⟩
    · cases h

/-- An exchange that moves the folder on: a reply that is not accepted changes nothing but what any
reply changes, and an accepted one leads to the write of its key. -/
theorem keeps_advance (hC : C.Lenient) {J : σ → Prop} {d : Wire.Sync}
    {ok : Wire.Collection × String → σ → Prop} (hs : J s) (hsend : ∀ s, J s → C.maySend s d)
    (hreply : ∀ s r, J s → C.admits s (.sent d r) → J (C.after s (.sent d r)))
    (hbad : ∀ e s, J s → bad e s)
    (hwrite : ∀ s response c key, J s → C.admits s (.sent d (.ok response)) →
      response.Accepted c → c.syncKey = some key →
        Job.Keeps C (fun _ s' => ok (c, key) s') bad (writeKey folder key)
          (C.after s (.sent d (.ok response)))) :
    Job.Keeps C ok bad (advance folder d) s :=
  keeps_commit hC hs (fun _ _ => collection_of_accepted) hsend hreply hbad hwrite

theorem keeps_deliver (hC : C.Lenient) {item : Wire.Item} {ok : Unit → σ → Prop}
    (hnone : item.serverId = none → ∀ e, bad e s)
    (hsome : ∀ id, item.serverId = some id →
      Job.Keeps C ok bad
        (Job.attempt (Plan.query (.save (materialize folder id item) (!item.truncated)))) s) :
    Job.Keeps C ok bad (deliver folder item) s := by
  unfold deliver
  split
  · rename_i h
    exact hnone h _
  · rename_i id h
    rw [Job.keeps_bind]
    exact (hsome id h).mono (fun _ _ hok => Job.keeps_plain hC rfl fun _ => hok) fun _ _ h => h

/-- Items that are delivered one after the other: `I` says what holds while the given ones
remain. -/
theorem keeps_deliverAll {I : List Wire.Item → σ → Prop} {items : List Wire.Item}
    (hs : I items s)
    (hitem : ∀ item rest s, I (item :: rest) s →
      Job.Keeps C (fun _ s' => I rest s') bad (deliver folder item) s) :
    Job.Keeps C (fun _ s' => I [] s') bad (deliverAll folder items) s := by
  induction items generalizing s with
  | nil => exact hs
  | cons item rest ih =>
    rw [deliverAll, Job.keeps_bind]
    exact (hitem item rest s hs).mono (fun _ _ h => ih h) fun _ _ h => h

theorem keeps_isCancelled (hC : C.Lenient) {cancellable : Bool} {ok : Bool → σ → Prop}
    (h : ∀ b, ok b s) : Job.Keeps C ok bad (isCancelled cancellable) s := by
  unfold isCancelled
  split
  · exact Job.keeps_plain hC rfl h
  · exact h false

/-- The loop: `I` says what holds between two windows, at a sync key and with statistics. -/
theorem keeps_windows (hC : C.Lenient) {I : String → SyncStats → σ → Prop} {config : SyncConfig}
    {cancellable : Bool} {ok : SyncStats → σ → Prop} {key : String} {stats : SyncStats}
    (hs : I key stats s)
    (hwindow : ∀ key stats s, I key stats s → stats.messages < config.visibleLimit.toNat →
      Job.Keeps C
        (fun p s' => Job.Keeps C (fun _ s'' => I p.2 (addWindow stats p.1) s'') bad
          (deliverAll folder p.1.added) s') bad
        (advance folder (Wire.Sync.window folder key
          (min (config.visibleLimit.toNat - stats.messages) Wire.maxWindow)
          config.maxDownloadSize)) s)
    (hok : ∀ key stats s, I key stats s →
      ok stats s ∧ ok { stats with cancelled := true } s)
    (hbad : ∀ key stats e s, I key stats s → bad e s) :
    Job.Keeps C ok bad (windows folder config cancellable key stats) s := by
  -- on what is left of the budget
  induction hn : config.visibleLimit.toNat - stats.messages using Nat.strongRecOn
    generalizing key stats s with
  | ind n ih =>
    rw [windows]
    split
    · rename_i hlt
      rw [Job.keeps_bind]
      refine keeps_isCancelled hC fun b => ?_
      cases b with
      | true => exact (hok key stats s hs).2
      | false =>
        simp only [Bool.false_eq_true, ↓reduceIte]
        rw [Job.keeps_bind]
        refine (hwindow key stats s hs hlt).mono (fun p s' hp => ?_) fun _ _ h => h
        obtain ⟨c, key'⟩ := p
        rw [Job.keeps_bind]
        refine hp.mono (fun _ s'' hI => ?_) fun _ _ h => h
        by_cases hmore : c.hasMore = true
        · by_cases hadded : c.added = []
          · simp only [hmore, hadded]
            exact hbad _ _ _ s'' hI
          · -- the window has brought something, so less is left for the next
            have hpos := List.length_pos_iff.2 hadded
            simp only [hmore, hadded, not_true_eq_false, ↓reduceIte, ↓reduceDIte]
            refine ih _ ?_ hI rfl
            simp only [addWindow]
            omega
        · simp only [hmore, Bool.false_eq_true, not_false_eq_true, ↓reduceIte]
          exact (hok _ _ s'' hI).1
    · exact (hok key stats s hs).1

theorem keeps_establish {key : String} {ok : String × SyncStats → σ → Prop}
    (hnew : key = Wire.initialKey →
      Job.Keeps C (fun p s' => ok (p.2, { roundTrips := 1, handshake := true }) s') bad
        (advance folder (Wire.Sync.handshake folder Wire.initialKey)) s)
    (hold : key ≠ Wire.initialKey → ok (key, {}) s) :
    Job.Keeps C ok bad (establish folder key) s := by
  unfold establish
  split
  · rename_i hkey
    subst hkey
    rw [Job.keeps_bind]
    exact hnew rfl
  · rename_i hkey
    exact hold hkey

/-- A pull: `I` holds once the key has been read, and the handshake and every window keep it. -/
theorem keeps_pull (hC : C.Lenient) {I : String → SyncStats → σ → Prop} {config : SyncConfig}
    {cancellable : Bool} {ok : SyncStats → σ → Prop}
    (hread : Job.Keeps C (fun key s' => I key {} s') bad (readKey folder) s)
    (hhandshake : ∀ s, I Wire.initialKey {} s →
      Job.Keeps C (fun p s' => I p.2 { roundTrips := 1, handshake := true } s') bad
        (advance folder (Wire.Sync.handshake folder Wire.initialKey)) s)
    (hwindow : ∀ key stats s, I key stats s → stats.messages < config.visibleLimit.toNat →
      Job.Keeps C
        (fun p s' => Job.Keeps C (fun _ s'' => I p.2 (addWindow stats p.1) s'') bad
          (deliverAll folder p.1.added) s') bad
        (advance folder (Wire.Sync.window folder key
          (min (config.visibleLimit.toNat - stats.messages) Wire.maxWindow)
          config.maxDownloadSize)) s)
    (hok : ∀ key stats s, I key stats s →
      ok stats s ∧ ok { stats with cancelled := true } s)
    (hbad : ∀ key stats e s, I key stats s → bad e s) :
    Job.Keeps C ok bad (pull folder config cancellable) s := by
  have hwindows : ∀ key stats s, I key stats s →
      Job.Keeps C ok bad (windows folder config cancellable key stats) s :=
    fun key stats s hs => keeps_windows hC hs hwindow hok hbad
  rw [pull, Job.keeps_bind]
  refine hread.mono (fun key s' hs => ?_) fun _ _ h => h
  rw [Job.keeps_bind]
  refine keeps_establish (fun hkey => ?_) fun _ => hwindows key {} s' hs
  subst hkey
  exact (hhandshake s' hs).mono (fun p s'' hp => hwindows p.2 _ s'' hp) fun _ _ h => h

/-- A sync is a pull between two notices. -/
theorem keeps_sync (hC : C.Lenient) {config : SyncConfig} {cancellable : Bool}
    {ok : SyncStats → σ → Prop} (h : Job.Keeps C ok bad (pull folder config cancellable) s) :
    Plan.Keeps C (Job.Ends ok bad) (sync folder config cancellable) s := by
  refine Plan.keeps_plain hC rfl fun _ => ?_
  refine (Plan.keeps_bind (pull folder config cancellable).run _ s).2 ?_
  refine Plan.Keeps.mono h fun r s' hr => ?_
  cases r with
  | ok stats => exact Plan.keeps_plain hC rfl fun _ => hr
  | error e => exact Plan.keeps_plain hC rfl fun _ => hr

/-! ### A sync that goes well -/

variable {config : SyncConfig} {response : Wire.Sync} {c : Wire.Collection}
  {policyKey key key' : String} {t : List Plan.Step}

/-- The steps of an exchange that moves a folder on. -/
def advanceSteps (folder policyKey : String) (d response : Wire.Sync) (key : String) :
    List Plan.Step :=
  [.asked .policyKey (some policyKey), .sent d (.ok response),
    .asked (.writeExtra folder Store.syncKeyName key) (.ok ())]

theorem runs_advance {d : Wire.Sync} (hdemand : response.provisioningDemand? = none)
    (hc : accepted folder response = .ok c) (hkey : c.syncKey = some key) :
    Plan.Runs (advance folder d).run (advanceSteps folder policyKey d response key)
      (.ok (c, key)) := by
  refine Job.runs_bind (runs_roundTrip hdemand) ?_
  rw [hc]
  refine Job.runs_bind (t := []) (a := c) (.done _) ?_
  rw [newKey, hkey]
  exact .ask (.done _)

/-- A window that announces no more is the last one, whether its items are all delivered or not. -/
theorem runs_windows_last {stats : SyncStats} {r : Except Failure Unit}
    (hlt : stats.messages < config.visibleLimit.toNat)
    (hdemand : response.provisioningDemand? = none) (hc : accepted folder response = .ok c)
    (hkey : c.syncKey = some key') (hmore : c.hasMore = false)
    (h : Plan.Runs (deliverAll folder c.added).run t r) :
    Plan.Runs (windows folder config false key stats).run
      (advanceSteps folder policyKey (Wire.Sync.window folder key
        (min (config.visibleLimit.toNat - stats.messages) Wire.maxWindow) config.maxDownloadSize)
        response key' ++ t)
      (r.map fun _ => addWindow stats c) := by
  rw [windows, dif_pos hlt]
  refine Job.runs_bind (t := []) (a := false) (.done _) ?_
  refine Job.runs_bind (runs_advance hdemand hc hkey) ?_
  cases r with
  | error e => exact Job.runs_bind_error h
  | ok _ =>
    rw [← List.append_nil t]
    refine Job.runs_bind h ?_
    simp only [hmore, Bool.false_eq_true, not_false_eq_true, ↓reduceIte]
    exact .done _

/-- A window that announces more and brings something is followed by the next. -/
theorem runs_windows_next {stats : SyncStats} {t' : List Plan.Step} {r : Except Failure SyncStats}
    (hlt : stats.messages < config.visibleLimit.toNat)
    (hdemand : response.provisioningDemand? = none) (hc : accepted folder response = .ok c)
    (hkey : c.syncKey = some key') (hmore : c.hasMore = true) (hadded : c.added ≠ [])
    (h : Plan.Runs (deliverAll folder c.added).run t (.ok ()))
    (hnext : Plan.Runs (windows folder config false key' (addWindow stats c)).run t' r) :
    Plan.Runs (windows folder config false key stats).run
      (advanceSteps folder policyKey (Wire.Sync.window folder key
        (min (config.visibleLimit.toNat - stats.messages) Wire.maxWindow) config.maxDownloadSize)
        response key' ++ (t ++ t')) r := by
  rw [windows, dif_pos hlt]
  refine Job.runs_bind (t := []) (a := false) (.done _) ?_
  refine Job.runs_bind (runs_advance hdemand hc hkey) ?_
  refine Job.runs_bind h ?_
  simp only [hmore, hadded, not_true_eq_false, ↓reduceIte, ↓reduceDIte]
  exact hnext

variable {stored : Option String}

/-- A folder without a key is introduced first. -/
theorem runs_pull_first {r : Except Failure SyncStats}
    (hstored : stored.getD Wire.initialKey = Wire.initialKey)
    (hdemand : response.provisioningDemand? = none) (hc : accepted folder response = .ok c)
    (hkey : c.syncKey = some key)
    (h : Plan.Runs (windows folder config false key { roundTrips := 1, handshake := true }).run t
      r) :
    Plan.Runs (pull folder config false).run
      (.asked (.readExtra folder Store.syncKeyName) (.ok stored) ::
        (advanceSteps folder policyKey (Wire.Sync.handshake folder Wire.initialKey) response key ++
          t)) r := by
  refine .ask ?_
  refine Job.runs_bind (j := establish folder (stored.getD Wire.initialKey))
    (a := (key, { roundTrips := 1, handshake := true })) ?_ h
  rw [hstored]
  exact Job.runs_bind (runs_advance hdemand hc hkey) (.done _)

/-- A folder with a key goes on from there. -/
theorem runs_pull_known {cancellable : Bool} {r : Except Failure SyncStats}
    (hstored : stored.getD Wire.initialKey ≠ Wire.initialKey)
    (h : Plan.Runs (windows folder config cancellable (stored.getD Wire.initialKey) {}).run t r) :
    Plan.Runs (pull folder config cancellable).run
      (.asked (.readExtra folder Store.syncKeyName) (.ok stored) :: t) r := by
  refine .ask ?_
  refine Job.runs_bind (j := establish folder (stored.getD Wire.initialKey)) (t := [])
    (a := (stored.getD Wire.initialKey, {})) ?_ h
  rw [establish, if_neg hstored]
  exact .done _

/-- What the listener hears last. -/
def lastNotice (folder : String) : Except Failure SyncStats → Notice
  | .ok stats => .finished folder stats
  | .error e => .failed folder e.message

theorem runs_sync {cancellable : Bool} {r : Except Failure SyncStats}
    (h : Plan.Runs (pull folder config cancellable).run t r) :
    Plan.Runs (sync folder config cancellable)
      (.asked (.notify (.started folder)) () :: (t ++ [.asked (.notify (lastNotice folder r)) ()]))
      r := by
  refine .ask ?_
  refine Plan.Runs.bind (p := (pull folder config cancellable).run) h ?_
  cases r with
  | ok stats => exact .ask (.done _)
  | error e => exact .ask (.done _)

/-- The steps that deliver one item, by the outcome of saving it. -/
def deliverSteps (folder id : String) (item : Wire.Item) (outcome : Except Failure Unit) :
    List Plan.Step :=
  .asked (.save (materialize folder id item) (!item.truncated)) outcome ::
    match outcome with
    | .ok _ => [.asked (.notify (.newMessage folder id false)) ()]
    | .error _ => []

/-- The steps of the first sync of a folder in which one item waits, by the outcome of saving it and
that of the sync. -/
def firstSyncSteps (folder policyKey : String) (config : SyncConfig) (id : String)
    (item : Wire.Item) (outcome : Except Failure Unit) (r : Except Failure SyncStats) :
    List Plan.Step :=
  .asked (.notify (.started folder)) () ::
    .asked (.readExtra folder Store.syncKeyName) (.ok none) ::
    (advanceSteps folder policyKey (Wire.Sync.handshake folder Wire.initialKey)
      (.accepting "1" []) "1" ++
    (advanceSteps folder policyKey (Wire.Sync.window folder "1"
      (min config.visibleLimit.toNat Wire.maxWindow) config.maxDownloadSize)
      (.accepting "2" [item]) "2" ++
    deliverSteps folder id item outcome) ++
    [.asked (.notify (lastNotice folder r)) ()])

theorem runs_first_sync {id : String} {item : Wire.Item} (hlimit : 0 < config.visibleLimit.toNat)
    (hid : item.serverId = some id) (outcome : Except Failure Unit) :
    ∃ r, Plan.Runs (sync folder config false)
      (firstSyncSteps folder policyKey config id item outcome r) r := by
  have hdeliver : Plan.Runs (deliverAll folder [item]).run (deliverSteps folder id item outcome)
      outcome := by
    rw [deliverAll, deliver, hid]
    cases outcome with
    | ok _ => exact .ask (.ask (.done _))
    | error e => exact .ask (.done _)
  have hwindow : Plan.Runs
      (windows folder config false "1" { roundTrips := 1, handshake := true }).run
      (advanceSteps folder policyKey (Wire.Sync.window folder "1"
        (min config.visibleLimit.toNat Wire.maxWindow) config.maxDownloadSize)
        (.accepting "2" [item]) "2" ++ deliverSteps folder id item outcome) _ :=
    runs_windows_last hlimit rfl rfl rfl rfl hdeliver
  exact ⟨_, runs_sync (runs_pull_first rfl rfl rfl rfl hwindow)⟩

end FolderSync

end MailSync
