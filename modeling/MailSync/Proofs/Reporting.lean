import Mathlib.Data.List.Forall2
import MailSync.Proofs.Fidelity
import MailSync.Proofs.Handshake

/-!
# What a sync reports

A sync tells its listener what it does while it does it: that it starts, each message as soon as it
is stored, and at last how it went. The statistics that it ends with agree with what it has told,
with what the windows have brought, and with whether it has introduced the folder.

* `Account.Relays` : which windows a part of a sync has been granted, and which of their items it
  has stored and announced.
* `Account.windows_relay` : the windows of a sync, and the statistics that they add up to.
* `Account.sync_reported` : what the listener hears of every sync that has obtained its folder, and
  what the statistics say.
-/

namespace MailSync

/-- What a step tells the listener. -/
def Plan.Step.notice? : Plan.Step → Option Notice
  | .asked (.notify n) _ => some n
  | _ => none

namespace Account

open Exchange FolderSync

/-- The windows that the server has granted: the collections of the responses to requests for items
that demand nothing. -/
def granted (t : List Plan.Step) : List Wire.Collection :=
  ((t.filterMap Plan.Step.answer?).filter (·.1.asksForItems)).map (·.2)

/-- The items that these windows have added. -/
def offered (t : List Plan.Step) : List Wire.Item :=
  (granted t).flatMap (·.added)

/-- Every message is announced right after it has been stored, and nothing else is. -/
inductive Announced (folder : String) : List Plan.Step → Prop
  | nil : Announced folder []
  | stored (m : Message) (complete : Bool) {t : List Plan.Step} (h : Announced folder t) :
      Announced folder (.asked (.save m complete) (.ok ()) ::
        .asked (.notify (.newMessage folder m.id false)) () :: t)
  | quiet {st : Plan.Step} {t : List Plan.Step} (hsaved : st.saved? = none)
      (hnotice : st.notice? = none) (h : Announced folder t) : Announced folder (st :: t)

/-- The statistics agree with the steps. -/
structure Agrees (folder : String) (t : List Plan.Step) (stats : SyncStats) : Prop where
  announced : stats.messages = (t.filterMap Plan.Step.notice?).length
  offered : stats.messages = (offered t).length
  sum : stats.messages = stats.partials + stats.completes
  partials : stats.partials = (Account.offered t).countP fun item =>
    (item.applicationData.bind (·.body)).bind (·.truncated) = some 1
  handshake : stats.handshake = true ↔ ∃ reply, .sent (.introduction folder) reply ∈ t
  more : stats.moreAvailable = true ↔
    ∃ c, (granted t).getLast? = some c ∧ c.moreAvailable = some true

/-- The steps have been granted the windows, and have stored and announced the items. -/
structure Relays (folder : String) (windows : List Wire.Collection) (done : List Wire.Item)
    (t : List Plan.Step) : Prop where
  granted : granted t = windows
  announced : Announced folder t
  stored : List.Forall₂ (fun item p => item.delivery folder = some p) done
    (t.filterMap Plan.Step.saved?)

variable {t t' : List Plan.Step} {d : Wire.Sync} {c : Wire.Collection} {folder key : String}
  {config : SyncConfig} {cancellable : Bool} {stats : SyncStats} {ws ws' : List Wire.Collection}
  {done done' : List Wire.Item}

/-! ### Parts of a sync -/

theorem granted_append (t t' : List Plan.Step) : granted (t ++ t') = granted t ++ granted t' := by
  rw [granted, List.filterMap_append, List.filter_append, List.map_append]
  rfl

theorem Announced.append (h : Announced folder t) (h' : Announced folder t') :
    Announced folder (t ++ t') := by
  induction h with
  | nil => exact h'
  | stored m complete _ ih => exact .stored m complete ih
  | quiet hsaved hnotice _ ih => exact .quiet hsaved hnotice ih

/-- What the listener hears is which messages have been stored. -/
theorem Announced.notices (h : Announced folder t) : t.filterMap Plan.Step.notice? =
    (t.filterMap Plan.Step.saved?).map fun p => .newMessage folder p.1.id false := by
  induction h with
  | nil => rfl
  | stored m complete _ ih => exact congrArg (.newMessage folder m.id false :: ·) ih
  | quiet hsaved hnotice _ ih =>
    rwa [List.filterMap_cons_none hnotice, List.filterMap_cons_none hsaved]

theorem Relays.append (h : Relays folder ws done t) (h' : Relays folder ws' done' t') :
    Relays folder (ws ++ ws') (done ++ done') (t ++ t') where
  granted := by rw [granted_append, h.granted, h'.granted]
  announced := h.announced.append h'.announced
  stored := by
    rw [List.filterMap_append]
    exact List.rel_append h.stored h'.stored

/-- Where nothing is stored and nobody is told anything, windows may have been granted. -/
theorem relays_quiet (ht : ∀ st ∈ t, st.saved? = none ∧ st.notice? = none) :
    Relays folder (granted t) [] t := by
  refine ⟨rfl, ?_, ?_⟩
  · induction t with
    | nil => exact .nil
    | cons st t ih =>
      obtain ⟨hst, hrest⟩ := List.forall_mem_cons.1 ht
      exact .quiet hst.1 hst.2 (ih hrest)
  · rw [List.filterMap_eq_nil_iff.2 fun st hst => (ht st hst).1]
    exact .nil

theorem trip_quiet {r : Except Failure Wire.Sync} (h : Trip d t r) :
    ∀ st ∈ t, st.saved? = none ∧ st.notice? = none := by
  cases h <;> simp [Plan.Step.saved?, Plan.Step.notice?]

theorem commits_quiet {check : Wire.Sync → Except Failure Wire.Collection}
    {r : Except Failure (Wire.Collection × String)} (h : Commits folder check d t r) :
    ∀ st ∈ t, st.saved? = none ∧ st.notice? = none := by
  cases h with
  | fails h | refused h | keyless h => exact trip_quiet h
  | unwritten h | stored h =>
    exact List.forall_mem_append.2 ⟨trip_quiet h, by simp [writeStep, Plan.Step.saved?,
      Plan.Step.notice?]⟩

theorem checks_relay : Relays folder [] [] (checks cancellable) := by
  cases cancellable with
  | false => exact ⟨rfl, .nil, .nil⟩
  | true => exact ⟨rfl, .quiet rfl rfl .nil, .nil⟩

/-- A demand grants nothing. -/
theorem granted_demand {reply : Except Failure Wire.Sync} (h : Demands reply) :
    granted (.sent d reply :: t) = granted t := by
  have hanswer : (Plan.Step.sent d reply).answer? = none := by
    cases reply with
    | error e => rfl
    | ok response => exact if_pos h
  rw [granted, List.filterMap_cons_none hanswer]
  rfl

/-- A response that demands nothing grants its collection, if items have been asked for. -/
theorem granted_sent {response : Wire.Sync} (hdemand : response.provisioningDemand? = none)
    (hc : response.collection? = some c) :
    granted [.sent d (.ok response)] = if d.asksForItems then [c] else [] := by
  have hanswer : (Plan.Step.sent d (.ok response)).answer? = some (d, c) := by
    simp [Plan.Step.answer?, not_demands_iff.2 hdemand, hc]
  rw [granted, List.filterMap_cons_some hanswer, List.filterMap_nil, List.filter_singleton]
  cases d.asksForItems <;> rfl

/-- A round trip that goes well has been granted its window, if it has asked for one. -/
theorem trip_granted {r : Except Failure Wire.Sync} {response : Wire.Sync} (h : Trip d t r)
    (hr : r = .ok response) (hc : response.collection? = some c) :
    granted t = if d.asksForItems then [c] else [] := by
  cases h with
  | held key reply | provisioned key reply =>
    obtain ⟨rfl, hdemand⟩ := verdict_eq_ok hr
    exact granted_sent hdemand hc
  | retried key reply key' reply' hfirst =>
    obtain ⟨rfl, hdemand⟩ := verdict_eq_ok hr
    exact (granted_demand hfirst).trans (granted_sent hdemand hc)
  | unprovisioned | rejected => cases hr

theorem commits_relay (h : Commits folder (accepted folder) d t (.ok (c, key))) :
    Relays folder (if d.asksForItems then [c] else []) [] t := by
  have hgranted : granted t = if d.asksForItems then [c] else [] := by
    cases h with
    | stored h hcheck =>
      rw [granted_append, trip_granted h rfl (collection_of_accepted hcheck).1]
      exact List.append_nil _
  rw [← hgranted]
  exact relays_quiet (commits_quiet h)

/-- Items are stored and announced one by one, and all of them if all goes well. -/
theorem delivers_relay {items : List Wire.Item} {r : Except Failure Unit}
    (h : Delivers folder items t r) :
    ∃ done left, items = done ++ left ∧ Relays folder [] done t ∧ (r = .ok () → left = []) := by
  induction h with
  | nil => exact ⟨[], [], rfl, ⟨rfl, .nil, .nil⟩, fun _ => rfl⟩
  | @nameless item rest hid => exact ⟨[], item :: rest, rfl, ⟨rfl, .nil, .nil⟩, nofun⟩
  | @refused item rest id hid e =>
    exact ⟨[], item :: rest, rfl, ⟨rfl, .quiet rfl rfl .nil, .nil⟩, nofun⟩
  | @delivered item rest id t r hid _ ih =>
    obtain ⟨done, left, rfl, hrelay, hleft⟩ := ih
    have hone : Announced folder (deliverSteps folder id item (.ok ())) := by
      have hstored := Announced.stored (materialize folder id item) (!item.truncated)
        (.nil : Announced folder [])
      rwa [id_materialize] at hstored
    have hfirst : Relays folder [] [item] (deliverSteps folder id item (.ok ())) :=
      ⟨rfl, hone, .cons (Wire.Item.delivery_eq_some hid) .nil⟩
    exact ⟨item :: done, left, rfl, hfirst.append hrelay, hleft⟩

/-- A window whose key has been stored has been granted, and its items have been stored and
announced up to some point. -/
theorem window_relay (cancellable : Bool) {key' : String} {r : Except Failure Unit}
    (h : Commits folder (accepted folder) (nextWindow folder config key stats) t (.ok (c, key')))
    (hitems : Delivers folder c.added t' r) :
    ∃ done left, c.added = done ++ left ∧
      Relays folder [c] done (checks cancellable ++ (t ++ t')) ∧ (r = .ok () → left = []) := by
  obtain ⟨done, left, hadded, hrelay, hleft⟩ := delivers_relay hitems
  exact ⟨done, left, hadded, checks_relay.append ((commits_relay h).append hrelay), hleft⟩

/-! ### Windows -/

/-- The steps have been granted windows, and have stored and announced their items up to some point,
which is the end if all goes well. Then the statistics are those of the windows. -/
def Recounts (folder : String) (stats : SyncStats) (t : List Plan.Step)
    (r : Except Failure SyncStats) : Prop :=
  ∃ ws done left, ws.flatMap (·.added) = done ++ left ∧ Relays folder ws done t ∧
    ∀ stats', r = .ok stats' → left = [] ∧
      ∃ cancelled, stats' = { ws.foldl addWindow stats with cancelled := cancelled }

/-- The windows of a sync relay what they are granted, and add up to the statistics. -/
theorem windows_relay {r : Except Failure SyncStats}
    (h : Windows folder config cancellable key stats t r) : Recounts folder stats t r := by
  -- along the windows: each but the last adds all of its items before the next is asked for
  induction h with
  | @spent _ stats =>
    refine ⟨[], [], [], rfl, ⟨rfl, .nil, .nil⟩, ?_⟩
    rintro _ ⟨⟩
    exact ⟨rfl, stats.cancelled, rfl⟩
  | cancelled =>
    refine ⟨[], [], [], rfl, ⟨rfl, .quiet rfl rfl .nil, .nil⟩, ?_⟩
    rintro _ ⟨⟩
    exact ⟨rfl, true, rfl⟩
  | @fails _ _ t _ _ hadvance =>
    exact ⟨_, [], _, (List.nil_append _).symm,
      checks_relay.append (relays_quiet (commits_quiet hadvance)), nofun⟩
  | @undelivered _ _ _ c _ _ _ _ hadvance hitems | @empty _ _ _ c _ _ _ hadvance hitems =>
    obtain ⟨done, left, hadded, hrelay, -⟩ := window_relay cancellable hadvance hitems
    refine ⟨[c], done, left, ?_, hrelay, nofun⟩
    rw [List.flatMap_singleton, hadded]
  | @last _ _ stats c _ _ _ hadvance hitems =>
    obtain ⟨done, left, hadded, hrelay, hleft⟩ := window_relay cancellable hadvance hitems
    refine ⟨[c], done, left, ?_, hrelay, ?_⟩
    · rw [List.flatMap_singleton, hadded]
    · rintro _ ⟨⟩
      exact ⟨hleft rfl, stats.cancelled, rfl⟩
  | @next _ _ _ c t t' t'' _ _ hadvance hitems _ _ _ ih =>
    obtain ⟨first, left, hadded, hfirst, hleft⟩ := window_relay cancellable hadvance hitems
    obtain ⟨ws, done, rest, hws, hrelay, hend⟩ := ih
    rw [← List.append_assoc t, ← List.append_assoc]
    refine ⟨c :: ws, first ++ done, rest, ?_, hfirst.append hrelay, hend⟩
    rw [List.flatMap_cons, hadded, hleft rfl, hws, List.append_nil, List.append_assoc]

/-- The statistics after some windows, field by field. -/
theorem foldl_addWindow (ws : List Wire.Collection) (stats : SyncStats) :
    ws.foldl addWindow stats =
      { stats with
        roundTrips := stats.roundTrips + ws.length
        messages := stats.messages + (ws.flatMap (·.added)).length
        partials := stats.partials + (ws.flatMap (·.added)).countP (·.truncated)
        completes := stats.completes + (ws.flatMap (·.added)).countP (!·.truncated)
        moreAvailable := (ws.getLast?.map (·.hasMore)).getD stats.moreAvailable } := by
  induction ws generalizing stats with
  | nil => rfl
  | cons c ws ih =>
    rw [List.foldl_cons, ih, List.getLast?_cons]
    simp only [addWindow, List.length_cons, List.flatMap_cons, List.length_append,
      List.countP_append, SyncStats.mk.injEq, true_and]
    refine ⟨by omega, by omega, by omega, by omega, ?_, trivial⟩
    cases ws.getLast? <;> rfl

/-! ### Whole syncs -/

/-- What comes first and is granted nothing leaves what is recounted as it is. -/
theorem Recounts.after {r : Except Failure SyncStats} (h : Recounts folder stats t' r)
    (ht : Relays folder [] [] t) : Recounts folder stats (t ++ t') r := by
  obtain ⟨ws, done, left, hws, hrelay, hend⟩ := h
  exact ⟨ws, done, left, hws, ht.append hrelay, hend⟩

/-- Where a sync fails, it is enough that nothing has been stored and nobody been told anything. -/
theorem recounts_quiet {e : Failure} (ht : ∀ st ∈ t, st.saved? = none ∧ st.notice? = none) :
    Recounts folder stats t (.error e) :=
  ⟨_, [], _, (List.nil_append _).symm, relays_quiet ht, nofun⟩

theorem read_relay (found : Except Failure (Option String)) :
    Relays folder [] [] [readStep folder found] :=
  ⟨rfl, .quiet rfl rfl .nil, .nil⟩

theorem trip_sends {r : Except Failure Wire.Sync} {d' : Wire.Sync}
    {reply : Except Failure Wire.Sync} (h : Trip d t r) (hsent : .sent d' reply ∈ t) : d' = d := by
  cases h <;> simp at hsent
  case retried => exact hsent.elim And.left And.left
  all_goals exact hsent.1

theorem commits_sends {check : Wire.Sync → Except Failure Wire.Collection}
    {r : Except Failure (Wire.Collection × String)} {d' : Wire.Sync}
    {reply : Except Failure Wire.Sync} (h : Commits folder check d t r)
    (hsent : .sent d' reply ∈ t) : d' = d := by
  cases h with
  | fails h | refused h | keyless h => exact trip_sends h hsent
  | unwritten h | stored h =>
    obtain hsent | hsent := List.mem_append.1 hsent
    · exact trip_sends h hsent
    · simp [writeStep] at hsent

/-- The windows of a sync introduce no folder. -/
theorem windows_introduce_nothing {r : Except Failure SyncStats} {reply : Except Failure Wire.Sync}
    (h : Windows folder config cancellable key stats t r) :
    .sent (.introduction folder) reply ∉ t := by
  have hunsent : ∀ {t : List Plan.Step}, (∀ st ∈ t, st.exchange? = none) →
      .sent (.introduction folder) reply ∉ t := fun ht hsent => nomatch ht _ hsent
  have hwindow : ∀ {key stats t r}, Commits folder (accepted folder)
      (nextWindow folder config key stats) t r → .sent (.introduction folder) reply ∉ t := by
    intro key stats t r hadvance hsent
    exact ne_introduction rfl (commits_sends hadvance hsent).symm
  induction h with
  | spent => exact List.not_mem_nil
  | cancelled => simp
  | fails _ hadvance => simp [hunsent exchange_eq_none_of_checks, hwindow hadvance]
  | undelivered _ hadvance hitems | last _ hadvance hitems | empty _ hadvance hitems =>
    simp [hunsent exchange_eq_none_of_checks, hwindow hadvance,
      hunsent (exchange_eq_none_of_delivers hitems)]
  | next _ hadvance hitems _ _ _ ih =>
    simp [hunsent exchange_eq_none_of_checks, hwindow hadvance,
      hunsent (exchange_eq_none_of_delivers hitems), ih]

/-- A pull starts from empty statistics, or from those of a handshake if it has made one. -/
theorem pulls_recount {r : Except Failure SyncStats} (h : Pulls folder config cancellable t r) :
    ∃ introduced : Bool,
      Recounts folder { roundTrips := introduced.toNat, handshake := introduced } t r ∧
        ∀ stats, r = .ok stats →
          (introduced = true ↔ ∃ reply, .sent (.introduction folder) reply ∈ t) := by
  cases h with
  | unread e =>
    exact ⟨false, recounts_quiet (List.forall_mem_singleton.2 ⟨rfl, rfl⟩), nofun⟩
  | known hkey h =>
    refine ⟨false, (windows_relay h).after (read_relay _), fun stats _ => ?_⟩
    refine iff_of_false Bool.false_ne_true ?_
    rintro ⟨reply, hsent⟩
    obtain hsent | hsent := List.mem_cons.1 hsent
    · cases hsent
    · exact windows_introduce_nothing h hsent
  | refused hkey hadvance =>
    refine ⟨true, recounts_quiet (List.forall_mem_cons.2 ⟨⟨rfl, rfl⟩, ?_⟩), nofun⟩
    exact commits_quiet hadvance
  | introduced hkey hadvance h =>
    refine ⟨true, ((windows_relay h).after (commits_relay hadvance)).after (read_relay _),
      fun stats _ => iff_of_true rfl ?_⟩
    cases hadvance with
    | @stored t response _ _ htrip =>
      obtain ⟨-, t', rfl⟩ := htrip.ends rfl
      refine ⟨.ok response, List.mem_cons_of_mem _ (List.mem_append_left _ ?_)⟩
      exact List.mem_append_left _ List.mem_concat_self

/-- Where the steps recount the statistics, the statistics agree with the steps. -/
theorem Recounts.agrees {introduced : Bool} (h : Recounts folder
      { roundTrips := introduced.toNat, handshake := introduced } t (.ok stats))
    (hintroduced : introduced = true ↔ ∃ reply, .sent (.introduction folder) reply ∈ t) :
    Agrees folder t stats := by
  obtain ⟨ws, done, left, hws, hrelay, hend⟩ := h
  obtain ⟨rfl, cancelled, rfl⟩ := hend stats rfl
  have hgranted := hrelay.granted
  have hoffered : offered t = ws.flatMap (·.added) := by rw [offered, hgranted]
  rw [foldl_addWindow]
  refine ⟨?_, ?_, ?_, ?_, hintroduced, ?_⟩
  · -- as many have been announced as stored, which are all that have been added
    rw [hrelay.announced.notices, List.length_map, ← hrelay.stored.length_eq, hws, List.append_nil]
    exact Nat.zero_add _
  · rw [hoffered]
    exact Nat.zero_add _
  · have hsum := List.length_eq_countP_add_countP (·.truncated) (l := ws.flatMap (·.added))
    simp only [Bool.not_eq_true, Bool.decide_eq_false] at hsum
    simpa using hsum
  · rw [hoffered]
    exact Nat.zero_add _
  · rw [hgranted]
    cases hlast : ws.getLast? with
    | none => simp
    | some c => simp [Wire.Collection.hasMore]

/-- A sync is refused its folder, or pulls between its first and its last notice. -/
theorem course_of_sync {r : Except Failure SyncStats}
    (h : Plan.Runs (exclusively folder (FolderSync.sync folder config cancellable)) t r) :
    (∃ e, t = [.asked (.acquire folder) (.error e)] ∧ r = .error e) ∨
      ∃ guard t', t = .asked (.acquire folder) (.ok guard) ::
          .asked (.notify (.started folder)) () ::
          (t' ++ [.asked (.notify (lastNotice folder r)) (),
            .asked (.release ⟨guard.folder⟩) ()]) ∧
        Pulls folder config cancellable t' r := by
  have hcourse : (∃ e, t = [.asked (.acquire folder) (.error e)] ∧ r = .error e) ∨
      ∃ guard t', t = .asked (.acquire folder) (.ok guard) ::
          (t' ++ [.asked (.release ⟨guard.folder⟩) ()]) ∧
        Plan.Runs (FolderSync.sync folder config cancellable) t' r := by
    cases cancellable with
    | false => exact course_of_runs (o := .sync folder config) h
    | true => exact course_of_runs (o := .syncCancellable folder config) h
  obtain hrefused | ⟨guard, t', rfl, hsync⟩ := hcourse
  · exact .inl hrefused
  · obtain ⟨t'', rfl, hpulls⟩ := runs_sync_cases hsync
    exact .inr ⟨guard, t'', by simp, hpulls⟩

/-- **What a sync reports**: the listener of a sync that has obtained its folder hears that the sync
starts before anything else happens, and at last how it has gone, with the statistics or with the
whole text of the failure. In between it hears of each message right after the message has been
stored, and of nothing else. The messages stored are those of the items that the windows have added,
in their order, up to some point. If the sync has gone well they are all, and its statistics agree
with what has happened. -/
theorem sync_reported {r : Except Failure SyncStats} {guard : FolderGuard}
    (h : Plan.Runs (exclusively folder (FolderSync.sync folder config cancellable)) t r)
    (hguard : t.head? = some (.asked (.acquire folder) (.ok guard))) :
    ∃ t', t = .asked (.acquire folder) (.ok guard) :: .asked (.notify (.started folder)) () ::
        (t' ++ [.asked (.notify (lastNotice folder r)) (), .asked (.release ⟨guard.folder⟩) ()]) ∧
      Announced folder t' ∧
      (∃ done left, offered t' = done ++ left ∧
        List.Forall₂ (fun item p => item.delivery folder = some p) done
          (t'.filterMap Plan.Step.saved?) ∧
        List.Forall₂ (fun item n => ∃ id, item.serverId = some id ∧ n = .newMessage folder id false)
          done (t'.filterMap Plan.Step.notice?)) ∧
      ∀ stats, r = .ok stats → Agrees folder t' stats := by
  obtain ⟨e, rfl, -⟩ | ⟨guard', t', rfl, hpulls⟩ := course_of_sync h
  · cases hguard
  cases hguard
  obtain ⟨introduced, hrecounts, hintroduced⟩ := pulls_recount hpulls
  refine ⟨t', rfl, ?_, ?_, ?_⟩
  · obtain ⟨ws, done, left, -, hrelay, -⟩ := hrecounts
    exact hrelay.announced
  · obtain ⟨ws, done, left, hws, hrelay, -⟩ := hrecounts
    refine ⟨done, left, by rw [offered, hrelay.granted, hws], hrelay.stored, ?_⟩
    rw [hrelay.announced.notices, List.forall₂_map_right_iff]
    exact hrelay.stored.imp fun item p hp => ⟨p.1.id, (Wire.Item.makes_of_delivery hp).id, rfl⟩
  · rintro stats rfl
    exact hrecounts.agrees (hintroduced stats rfl)

/-- A sync that is brought one item reports one message, which it has announced. -/
theorem sync_reported_one_item : ∃ t' stats,
    Plan.Runs (Account.sync "inbox" ⟨1, 0⟩) (.asked (.acquire "inbox") (.ok ⟨"inbox"⟩) ::
        .asked (.notify (.started "inbox")) () ::
        (t' ++ [.asked (.notify (.finished "inbox" stats)) (),
          .asked (.release ⟨"inbox"⟩) ()])) (.ok stats) ∧
      Announced "inbox" t' ∧ Agrees "inbox" t' stats ∧ stats.messages = 1 := by
  have hdeliver : Plan.Runs (deliverAll "inbox" [{ serverId := some "5:1" }]).run
      (deliverSteps "inbox" "5:1" { serverId := some "5:1" } (.ok ())) (.ok ()) :=
    .ask (.ask (.done _))
  obtain ⟨stats, hsync⟩ := runs_one_window ⟨1, 0⟩ (by decide) hdeliver
  have hruns : Plan.Runs (exclusively "inbox" (FolderSync.sync "inbox" ⟨1, 0⟩ false)) _ _ :=
    runs_plan (o := .sync "inbox" ⟨1, 0⟩) hsync
  obtain ⟨t', ht, hannounced, -, hagrees⟩ := sync_reported hruns rfl
  have hagrees := hagrees stats rfl
  rw [ht] at hruns
  refine ⟨t', stats, hruns, hannounced, hagrees, ?_⟩
  -- all the steps between the first and the last notice
  have hsteps := (List.cons.inj (List.cons.inj ht).2).2
  change (readStep "inbox" (.ok (some "1")) :: (advanceSteps "inbox" "P"
    (nextWindow "inbox" ⟨1, 0⟩ "1" {}) (.accepting "2" [{ serverId := some "5:1" }]) "2" ++
      deliverSteps "inbox" "5:1" { serverId := some "5:1" } (.ok ()))) ++ [_, _] = _ at hsteps
  rw [hagrees.offered, ← List.append_cancel_right hsteps]
  rfl

end Account

end MailSync
