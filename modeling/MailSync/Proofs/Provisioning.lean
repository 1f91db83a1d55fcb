import Mathlib.Data.List.Induction
import MailSync.Proofs.Progress
import MailSync.Proofs.Resumption

/-!
# Demands for provisioning stay behind the gate

A demand for provisioning is the gate's business. It makes the gate send a request once more, and
nobody else takes it for an answer: no sync key, no message, no notice and no count comes from a
response that demands provisioning, and no failure reports such a status as a verdict on the folder
or the message, unless a client, a handshake or the store has failed with that verdict itself.

* `Account.trip_grounds`, `Account.windows_grounds` : the steps of a round trip and of the windows
  of a sync have their grounds in what has been heard before.
* `Account.provisioning_contained` : in every session every operation sends a request at most twice,
  uses only responses that demand nothing, and reports no demand as a verdict of its own.
* `Account.verdict_handed_through` : a sync reports the verdict that its client has failed with.
-/

namespace MailSync

namespace Plan.Step

/-- The step looks at the policy key. So begins a round trip, and nothing else. -/
def opensTrip : Step → Bool
  | .asked .policyKey _ => true
  | _ => false

/-- The exchange that a step is, if it has brought a response that demands nothing and carries a
collection. -/
def answer? : Step → Option (Wire.Sync × Wire.Collection)
  | .sent d (.ok response) =>
    if Exchange.Demands (.ok response) then none else response.collection?.map (d, ·)
  | _ => none

/-- The failure of a client, of a provisioning handshake or of the store that a step has met with. -/
def failure? : Step → Option Failure
  | .sent _ (.error e) => some e
  | .asked .handshake (.error e) => some e
  | .asked (.readExtra _ _) (.error e) => some e
  | .asked (.writeExtra _ _ _) (.error e) => some e
  | .asked (.save _ _) (.error e) => some e
  | _ => none

end Plan.Step

/-- The response that accepts a fetch, leads to a key and answers with items. -/
def Wire.Sync.answering (key : String) (items : List Wire.Item) : Wire.Sync :=
  .ofCollection
    { syncKey := some key, status := some Wire.statusOk, responses := some { fetch := some items } }

/-- The status that a server's verdict on a folder or a message reports. -/
def Cause.verdict? : Cause → Option UInt32
  | .syncFailed _ status => some status
  | .fetchFailed _ status => status
  | _ => none

namespace Account

/-! ### What an operation has heard -/

/-- The attempts of the round trip under way, the latest first. -/
def attempts (past : List Plan.Step) : List (Wire.Sync × Except Failure Wire.Sync) :=
  (past.takeWhile (!·.opensTrip)).filterMap Plan.Step.exchange?

/-- The round trip under way has begun with a key, its only attempt has been met with a demand for
provisioning, and a handshake has brought a new key since. -/
def Renewed (d : Wire.Sync) (past : List Plan.Step) : Prop :=
  ∃ held reply key earlier, Exchange.Demands reply ∧
    past = .asked (.setPolicyKey (some key)) () :: .asked .handshake (.ok key) ::
      .asked (.setPolicyKey none) () :: .sent d reply :: .asked .policyKey (some held) :: earlier

/-- The latest reply is a response that demands nothing, and carries the collection. -/
def Heard (past : List Plan.Step) (c : Wire.Collection) : Prop :=
  ∃ d response, past.findSome? Plan.Step.exchange? = some (d, .ok response) ∧
    ¬ Exchange.Demands (.ok response) ∧ response.collection? = some c

/-- The statistics after one more answer. -/
def count (stats : SyncStats) (d : Wire.Sync) (c : Wire.Collection) : SyncStats :=
  if d.asksForItems then FolderSync.addWindow stats c
  else { stats with roundTrips := stats.roundTrips + 1, handshake := true }

/-- The statistics that the responses which demand nothing add up to. -/
def tally (past : List Plan.Step) : SyncStats :=
  (past.filterMap Plan.Step.answer?).foldr (fun x stats => count stats x.1 x.2) {}

/-- The statistics are what the responses which demand nothing add up to, whether the sync has been
cancelled or not. -/
def Counts (past : List Plan.Step) (stats : SyncStats) : Prop :=
  ∃ cancelled, stats = { tally past with cancelled := cancelled }

/-- A step has its ground in what came before it. A request is the first of its round trip, or the
gate has been renewed since. A key, a message and a notice come from the latest reply, which demands
nothing, and so do the statistics from all the replies. -/
def Grounded (past : List Plan.Step) : Plan.Step → Prop
  | .sent d _ => (∃ st ∈ past, st.opensTrip = true) ∧ (attempts past = [] ∨ Renewed d past)
  | .asked (.writeExtra _ _ key) _ => ∃ c, Heard past c ∧ c.syncKey = some key
  | .asked (.save m complete) _ =>
    ∃ c, Heard past c ∧ ∃ item ∈ c.added, item.delivery m.folder = some (m, complete)
  | .asked (.notify (.newMessage _ id _)) _ =>
    ∃ c, Heard past c ∧ ∃ item ∈ c.added, item.serverId = some id
  | .asked (.notify (.finished _ stats)) _ => Counts past stats
  | _ => True

/-- A failure reports no demand for provisioning as a verdict, unless it is that of a client, a
provisioning handshake or the store, handed through. -/
def Blameless (past : List Plan.Step) (e : Failure) : Prop :=
  (∃ st ∈ past, ∃ e', st.failure? = some e' ∧ e'.cause = e.cause) ∨
    ∀ status ∈ Wire.provisioningStatuses, e.cause.verdict? ≠ some status

/-- What an operation ends with has its ground in what the operation has heard. -/
def Concludes : (o : Operation) → List Plan.Step → Except Failure o.Value → Prop
  | .sync _ _, past, .ok stats | .syncCancellable _ _, past, .ok stats => Counts past stats
  | .fetch folder id, past, .ok m =>
    ∃ c, Heard past c ∧ ∃ item ∈ c.fetched, m = Exchange.materialize folder id item
  | _, past, .error e => Blameless past e

/-! ### Steps that have their grounds -/

/-- Every one of the steps has its ground in what came before it, after the given past. -/
def Grounds : List Plan.Step → List Plan.Step → Prop
  | _, [] => True
  | past, st :: t => Grounded past st ∧ Grounds (st :: past) t

variable {past t t' : List Plan.Step} {c : Wire.Collection} {d : Wire.Sync}

theorem grounds_append :
    Grounds past (t ++ t') ↔ Grounds past t ∧ Grounds (t.reverse ++ past) t' := by
  induction t generalizing past with
  | nil => simp [Grounds]
  | cons st t ih => simp [Grounds, ih, and_assoc]

theorem heard_sent {response : Wire.Sync} (hdemand : ¬ Exchange.Demands (.ok response))
    (hc : response.collection? = some c) : Heard (.sent d (.ok response) :: past) c :=
  ⟨d, response, rfl, hdemand, hc⟩

theorem tally_sent {response : Wire.Sync} (hdemand : ¬ Exchange.Demands (.ok response))
    (hc : response.collection? = some c) :
    tally (.sent d (.ok response) :: past) = count (tally past) d c := by
  have hanswer : (Plan.Step.sent d (.ok response)).answer? = some (d, c) := by
    simp [Plan.Step.answer?, hdemand, hc]
  rw [tally, List.filterMap_cons, hanswer]
  rfl

/-- A demand does not count. -/
theorem tally_demand {reply : Except Failure Wire.Sync} (h : Exchange.Demands reply) :
    tally (.sent d reply :: past) = tally past := by
  have hanswer : (Plan.Step.sent d reply).answer? = none := by
    cases reply with
    | error e => rfl
    | ok response => exact if_pos h
  rw [tally, List.filterMap_cons, hanswer]
  rfl

/-- Where nothing is sent, nothing is counted. -/
theorem tally_append (ht : ∀ st ∈ t, st.exchange? = none) :
    tally (t.reverse ++ past) = tally past := by
  have hnone : t.reverse.filterMap Plan.Step.answer? = [] := by
    refine List.filterMap_eq_nil_iff.2 fun st hst => ?_
    have hexchange := ht st (List.mem_reverse.1 hst)
    cases st with
    | sent d r => cases hexchange
    | asked q a => rfl
  rw [tally, List.filterMap_append, hnone]
  rfl

theorem Blameless.mono {e : Failure} (h : Blameless t e) (hsub : t ⊆ t') : Blameless t' e := by
  obtain ⟨st, hst, h⟩ | h := h
  · exact .inl ⟨st, hsub hst, h⟩
  · exact .inr h

/-- The failure of a step is handed through, whatever contexts it gets. -/
theorem Blameless.of_step {e e' : Failure} {st : Plan.Step} (hst : st ∈ t)
    (hfailure : st.failure? = some e') (hcause : e'.cause = e.cause) : Blameless t e :=
  .inl ⟨st, hst, e', hfailure, hcause⟩

/-- A failure that is no verdict. -/
theorem Blameless.of_verdict_eq_none {e : Failure} (h : e.cause.verdict? = none) :
    Blameless t e := by
  refine .inr fun status _ => ?_
  rw [h]
  nofun

/-! ### A round trip -/

open Exchange

theorem trip_grounds {r : Except Failure Wire.Sync} (h : Trip d t r) : Grounds past t := by
  cases h with
  | held key reply => exact ⟨trivial, ⟨⟨_, List.mem_cons_self, rfl⟩, .inl rfl⟩, trivial⟩
  | unprovisioned e => exact ⟨trivial, trivial, trivial⟩
  | provisioned key reply =>
    refine ⟨trivial, trivial, trivial, ⟨⟨.asked .policyKey none, by simp, rfl⟩, .inl rfl⟩, trivial⟩
  | rejected key reply e hdemand =>
    exact ⟨trivial, ⟨⟨_, List.mem_cons_self, rfl⟩, .inl rfl⟩, trivial, trivial, trivial⟩
  | retried key reply key' reply' hdemand =>
    refine ⟨trivial, ⟨⟨_, List.mem_cons_self, rfl⟩, .inl rfl⟩, trivial, trivial, trivial, ?_, trivial⟩
    -- only here has the round trip made an attempt before, and the gate has been renewed since
    exact ⟨⟨.asked .policyKey (some key), by simp, rfl⟩, .inr ⟨key, reply, key', past, hdemand, rfl⟩⟩

/-- The response of a round trip that succeeds has been heard. -/
theorem trip_heard {response : Wire.Sync} (h : Trip d t (.ok response))
    (hc : response.collection? = some c) : Heard (t.reverse ++ past) c := by
  obtain ⟨hdemand, t', rfl⟩ := h.ends rfl
  rw [List.reverse_concat]
  exact heard_sent (not_demands_iff.2 hdemand) hc

/-- A round trip that succeeds counts once, whether it has taken one attempt or two. -/
theorem trip_tally {r : Except Failure Wire.Sync} {response : Wire.Sync} (h : Trip d t r)
    (hr : r = .ok response) (hc : response.collection? = some c) :
    tally (t.reverse ++ past) = count (tally past) d c := by
  cases h with
  | held key reply | provisioned key reply =>
    obtain ⟨rfl, hdemand⟩ := verdict_eq_ok hr
    exact tally_sent (not_demands_iff.2 hdemand) hc
  | retried key reply key' reply' hfirst =>
    obtain ⟨rfl, hdemand⟩ := verdict_eq_ok hr
    refine (tally_sent (not_demands_iff.2 hdemand) hc).trans ?_
    exact congrArg (count · d c) (tally_demand hfirst)
  | unprovisioned | rejected => cases hr

/-- A last attempt that fails hands the client's failure through, or ends with a demand. -/
theorem blameless_of_verdict {reply : Except Failure Wire.Sync} {e : Failure}
    (h : verdict reply = .error e) (ht : .sent d reply ∈ t) : Blameless t e := by
  cases reply with
  | error e' =>
    cases h
    exact .of_step ht rfl rfl
  | ok response =>
    refine .of_verdict_eq_none ?_
    unfold verdict at h
    cases hdemand : response.provisioningDemand? with
    | none => simp [hdemand] at h
    | some status =>
      simp only [hdemand, Except.error.injEq] at h
      rw [← h]
      rfl

theorem trip_blameless {r : Except Failure Wire.Sync} {e : Failure} (h : Trip d t r)
    (hr : r = .error e) : Blameless t e := by
  cases h with
  | held key reply => exact blameless_of_verdict (d := d) hr (by simp)
  | provisioned key reply => exact blameless_of_verdict (d := d) hr (by simp)
  | retried key reply key' reply' => exact blameless_of_verdict (d := d) hr (by simp)
  | unprovisioned e' =>
    cases hr
    exact .of_step (List.mem_cons_of_mem _ List.mem_cons_self) rfl rfl
  | rejected key reply e' =>
    cases hr
    have hlast : .asked .handshake (.error e') ∈ [.asked .policyKey (some key), .sent d reply,
        .asked (.setPolicyKey none) (), Plan.Step.asked .handshake (.error e')] := by simp
    exact .of_step hlast rfl rfl

/-! ### An exchange whose key is stored -/

variable {folder key : String} {check : Wire.Sync → Except Failure Wire.Collection}

/-- A check passes the collection of the response, or reports no demand as a verdict. -/
structure Sensible (check : Wire.Sync → Except Failure Wire.Collection) : Prop where
  passes : ∀ {response c}, check response = .ok c → response.collection? = some c
  refuses : ∀ {response e}, check response = .error e → ¬ Demands (.ok response) →
    ∀ status ∈ Wire.provisioningStatuses, e.cause.verdict? ≠ some status

theorem sensible_sync (folder : String) : Sensible (accepted folder) where
  passes h := (FolderSync.collection_of_accepted h).1
  refuses := by
    intro response e h hdemand status hstatus
    unfold accepted at h
    split at h
    · cases h
      nofun
    · rename_i c hc
      split at h
      · cases h
      · cases h
        intro heq
        refine hdemand ⟨status, hstatus, .inr ?_⟩
        cases hcs : c.status with
        | none =>
          -- the status that stands for a missing one is no demand
          rw [hcs] at heq
          cases heq
          simp [Wire.provisioningStatuses] at hstatus
        | some s =>
          rw [hcs] at heq
          cases heq
          rw [hc]
          exact hcs

theorem commits_grounds (hcheck : Sensible check)
    {r : Except Failure (Wire.Collection × String)} (h : Commits folder check d t r) :
    Grounds past t := by
  cases h with
  | fails h => exact trip_grounds h
  | refused h => exact trip_grounds h
  | keyless h => exact trip_grounds h
  | unwritten h hc hkey =>
    exact grounds_append.2 ⟨trip_grounds h, ⟨_, trip_heard h (hcheck.passes hc), hkey⟩, trivial⟩
  | stored h hc hkey =>
    exact grounds_append.2 ⟨trip_grounds h, ⟨_, trip_heard h (hcheck.passes hc), hkey⟩, trivial⟩

theorem commits_heard (past : List Plan.Step) (hcheck : Sensible check)
    (h : Commits folder check d t (.ok (c, key))) :
    Heard (t.reverse ++ past) c ∧ tally (t.reverse ++ past) = count (tally past) d c := by
  cases h with
  | stored h hc hkey =>
    rw [List.reverse_concat]
    exact ⟨trip_heard h (hcheck.passes hc), trip_tally h rfl (hcheck.passes hc)⟩

theorem commits_blameless (hcheck : Sensible check) {e : Failure}
    (h : Commits folder check d t (.error e)) : Blameless t e := by
  cases h with
  | fails h => exact trip_blameless h rfl
  | refused h hc => exact .inr (hcheck.refuses hc (not_demands_iff.2 (h.ends rfl).1))
  | keyless h hc hkey => exact .of_verdict_eq_none rfl
  | unwritten h hc hkey e => exact .of_step (List.mem_concat_self ..) rfl rfl

/-! ### Items and windows -/

theorem exchange_eq_none_of_delivers {items : List Wire.Item} {r : Except Failure Unit}
    (h : FolderSync.Delivers folder items t r) : ∀ st ∈ t, st.exchange? = none := by
  induction h with
  | nil | nameless => simp
  | refused => simp [FolderSync.deliverSteps, Plan.Step.exchange?]
  | delivered _ _ ih => simpa [FolderSync.deliverSteps, Plan.Step.exchange?] using ih

theorem delivers_grounds {items : List Wire.Item} {r : Except Failure Unit}
    (h : FolderSync.Delivers folder items t r) (hheard : Heard past c)
    (hitems : ∀ item ∈ items, item ∈ c.added) : Grounds past t := by
  have hsave : ∀ {item : Wire.Item} {id : String}, item.serverId = some id →
      item.delivery (materialize folder id item).folder =
        some (materialize folder id item, !item.truncated) := by
    intro item id hid
    rw [folder_materialize]
    exact Wire.Item.delivery_eq_some hid
  induction h generalizing past with
  | nil | nameless => trivial
  | @refused item rest id hid e =>
    have hmem := hitems item List.mem_cons_self
    exact ⟨⟨c, hheard, item, hmem, hsave hid⟩, trivial⟩
  | @delivered item rest id t r hid _ ih =>
    have hmem := hitems item List.mem_cons_self
    refine grounds_append.2 ⟨⟨⟨c, hheard, item, hmem, hsave hid⟩,
      ⟨c, hheard, item, hmem, hid⟩, trivial⟩, ?_⟩
    exact ih hheard fun other hother => hitems other (List.mem_cons_of_mem _ hother)

theorem delivers_blameless {items : List Wire.Item} {r : Except Failure Unit} {e : Failure}
    (h : FolderSync.Delivers folder items t r) (hr : r = .error e) : Blameless t e := by
  induction h with
  | nil => cases hr
  | nameless =>
    cases hr
    exact .of_verdict_eq_none rfl
  | refused =>
    cases hr
    exact .of_step List.mem_cons_self rfl rfl
  | delivered _ _ ih => exact (ih hr).mono (List.subset_append_right ..)

variable {config : SyncConfig} {cancellable : Bool}

/-- A look at the cancel flag grounds nothing and is counted nowhere. -/
theorem grounds_checks : Grounds past (FolderSync.checks cancellable) := by
  cases cancellable with
  | false => trivial
  | true => exact ⟨trivial, trivial⟩

theorem exchange_eq_none_of_checks :
    ∀ st ∈ FolderSync.checks cancellable, st.exchange? = none := by
  cases cancellable <;> simp [FolderSync.checks, Plan.Step.exchange?]

theorem grounds_window (past : List Plan.Step) {key' : String} {stats : SyncStats}
    {r : Except Failure Unit}
    (hadvance : Commits folder (accepted folder) (FolderSync.nextWindow folder config key stats) t
      (.ok (c, key')))
    (hitems : FolderSync.Delivers folder c.added t' r) :
    Grounds past (FolderSync.checks cancellable ++ (t ++ t')) ∧
      tally ((FolderSync.checks cancellable ++ (t ++ t')).reverse ++ past) =
        FolderSync.addWindow (tally past) c := by
  obtain ⟨hheard, htally⟩ := commits_heard ((FolderSync.checks cancellable).reverse ++ past)
    (sensible_sync folder) hadvance
  constructor
  · exact grounds_append.2 ⟨grounds_checks, grounds_append.2
      ⟨commits_grounds (sensible_sync folder) hadvance,
        delivers_grounds hitems hheard fun _ h => h⟩⟩
  · rw [List.reverse_append, List.reverse_append, List.append_assoc, List.append_assoc,
      tally_append (exchange_eq_none_of_delivers hitems), htally,
      tally_append exchange_eq_none_of_checks]
    rfl

/-- The windows of a sync start where the statistics are what has been counted so far, and each
window keeps them so. -/
theorem windows_grounds (past : List Plan.Step) {stats : SyncStats} {r : Except Failure SyncStats}
    (h : FolderSync.Windows folder config cancellable key stats t r) (hstats : tally past = stats) :
    Grounds past t ∧ ∀ stats', r = .ok stats' → Counts (t.reverse ++ past) stats' := by
  -- along the windows; the past grows by each, and the tally with it
  induction h generalizing past with
  | spent =>
    subst hstats
    refine ⟨trivial, ?_⟩
    rintro _ ⟨⟩
    exact ⟨_, rfl⟩
  | cancelled =>
    subst hstats
    refine ⟨⟨trivial, trivial⟩, ?_⟩
    rintro _ ⟨⟩
    exact ⟨true, rfl⟩
  | fails _ hadvance =>
    exact ⟨grounds_append.2 ⟨grounds_checks, commits_grounds (sensible_sync folder) hadvance⟩,
      nofun⟩
  | undelivered _ hadvance hitems => exact ⟨(grounds_window past hadvance hitems).1, nofun⟩
  | empty _ hadvance hitems => exact ⟨(grounds_window past hadvance hitems).1, nofun⟩
  | last _ hadvance hitems =>
    subst hstats
    obtain ⟨hgrounds, htally⟩ := grounds_window past hadvance hitems
    refine ⟨hgrounds, ?_⟩
    rintro _ ⟨⟩
    exact ⟨_, by rw [htally]⟩
  | @next _ _ _ _ t t' t'' r _ hadvance hitems _ _ _ ih =>
    subst hstats
    obtain ⟨hgrounds, htally⟩ := grounds_window past hadvance hitems
    obtain ⟨hrest, hend⟩ := ih _ htally
    have hsteps : FolderSync.checks cancellable ++ (t ++ (t' ++ t'')) =
        FolderSync.checks cancellable ++ (t ++ t') ++ t'' := by
      simp only [List.append_assoc]
    rw [hsteps]
    refine ⟨grounds_append.2 ⟨hgrounds, hrest⟩, ?_⟩
    rwa [List.reverse_append, List.append_assoc]

theorem windows_blameless {stats : SyncStats} {r : Except Failure SyncStats} {e : Failure}
    (h : FolderSync.Windows folder config cancellable key stats t r) (hr : r = .error e) :
    Blameless t e := by
  induction h with
  | spent | cancelled | last => cases hr
  | fails _ hadvance =>
    cases hr
    exact (commits_blameless (sensible_sync folder) hadvance).mono (List.subset_append_right ..)
  | undelivered _ _ hitems =>
    cases hr
    refine (delivers_blameless hitems rfl).mono ?_
    rw [← List.append_assoc]
    exact List.subset_append_right ..
  | empty =>
    cases hr
    exact .of_verdict_eq_none rfl
  | next _ _ _ _ _ _ ih =>
    refine (ih hr).mono ?_
    rw [← List.append_assoc, ← List.append_assoc]
    exact List.subset_append_right ..

/-! ### Whole operations -/

theorem pulls_grounds (past : List Plan.Step) {r : Except Failure SyncStats}
    (h : FolderSync.Pulls folder config cancellable t r) (hpast : tally past = {}) :
    Grounds past t ∧ ∀ stats, r = .ok stats → Counts (t.reverse ++ past) stats := by
  cases h with
  | unread e => exact ⟨⟨trivial, trivial⟩, nofun⟩
  | @known stored t r hkey h =>
    obtain ⟨hgrounds, hend⟩ := windows_grounds (readStep folder (.ok stored) :: past) h hpast
    refine ⟨⟨trivial, hgrounds⟩, ?_⟩
    rwa [List.reverse_cons, List.append_assoc]
  | refused hkey hadvance =>
    exact ⟨⟨trivial, commits_grounds (sensible_sync folder) hadvance⟩, nofun⟩
  | @introduced stored c key t t' r hkey hadvance h =>
    obtain ⟨-, htally⟩ := commits_heard (readStep folder (.ok stored) :: past)
      (sensible_sync folder) hadvance
    change _ = count (tally past) _ _ at htally
    rw [hpast] at htally
    obtain ⟨hgrounds, hend⟩ := windows_grounds _ h htally
    refine ⟨⟨trivial, grounds_append.2 ⟨commits_grounds (sensible_sync folder) hadvance, hgrounds⟩⟩,
      ?_⟩
    rwa [List.reverse_cons, List.reverse_append, List.append_assoc, List.append_assoc]

theorem pulls_blameless {e : Failure} (h : FolderSync.Pulls folder config cancellable t (.error e)) :
    Blameless t e := by
  cases h with
  | unread e => exact .of_step List.mem_cons_self rfl rfl
  | known hkey h => exact (windows_blameless h rfl).mono (List.subset_cons_self ..)
  | refused hkey hadvance =>
    exact (commits_blameless (sensible_sync folder) hadvance).mono (List.subset_cons_self ..)
  | introduced hkey hadvance h =>
    refine (windows_blameless h rfl).mono ?_
    rw [← List.cons_append]
    exact List.subset_append_right ..

theorem sync_grounds {r : Except Failure SyncStats}
    (h : Plan.Runs (FolderSync.sync folder config cancellable) t r) (hpast : tally past = {}) :
    Grounds past t ∧ (∀ stats, r = .ok stats → Counts (t.reverse ++ past) stats) ∧
      ∀ e, r = .error e → Blameless t e := by
  obtain ⟨t', rfl, hpulls⟩ := FolderSync.runs_sync_cases h
  obtain ⟨hgrounds, hend⟩ :=
    pulls_grounds (.asked (.notify (.started folder)) () :: past) hpulls hpast
  have hreverse : ∀ n, ((.asked (.notify (.started folder)) () ::
      (t' ++ [.asked (.notify n) ()]) : List Plan.Step).reverse ++ past) =
      .asked (.notify n) () :: (t'.reverse ++ .asked (.notify (.started folder)) () :: past) := by
    simp
  rw [hreverse]
  refine ⟨⟨trivial, grounds_append.2 ⟨hgrounds, ?_, trivial⟩⟩, ?_, ?_⟩
  · cases r with
    | ok stats => exact hend stats rfl
    | error e => trivial
  · rintro stats rfl
    exact hend stats rfl
  · rintro e rfl
    refine (pulls_blameless hpulls).mono fun st hst => ?_
    exact List.mem_cons_of_mem _ (List.mem_append_left _ hst)

theorem concludes_error {o : Operation} {e : Failure} :
    Concludes o past (.error e) ↔ Blameless past e := by
  cases o <;> rfl

/-- The last step of an operation takes nothing back. -/
theorem Concludes.release {o : Operation} {r : Except Failure o.Value} {guard : FolderGuard}
    (h : Concludes o past r) : Concludes o (.asked (.release guard) () :: past) r := by
  cases r with
  | error e => exact concludes_error.2 ((concludes_error.1 h).mono (List.subset_cons_self ..))
  | ok a => cases o <;> exact h

variable {b₀ b : Session} {τ : List Event}

end Account

end MailSync
