import MailSync.Proofs.Provisioning

/-!
# How much a window asks for

At every point of a sync less has been brought than its budget allows, so there is something left to
ask for, and the next window asks for just that, up to the greatest window. A sync that is not
cancelled ends well only with its budget spent or nothing left to take, and what it delivers beyond
its budget is what the last reply has brought beyond its request.

* `Account.asksFor_nextWindow` : the request for the next window asks for what is left.
* `Account.windows_sized` : so does every request for items in the windows of a sync.
* `Account.window_arithmetic` : all of this at every point of every sync, and at its end.
-/

namespace MailSync

namespace Account

open Exchange FolderSync

/-! ### What has been brought -/

/-- The number of items in the responses so far that demand nothing and were asked for items. -/
def brought (t : List Plan.Step) : Nat :=
  ((t.filterMap Plan.Step.answer?).flatMap fun x =>
    if x.1.asksForItems then x.2.added else []).length

/-- The number of items that the latest reply has brought beyond the window size of its request. -/
def overrun (past : List Plan.Step) : Nat :=
  let beyond : Option Nat := do
    let (d, reply) ← past.findSome? Plan.Step.exchange?
    let size ← d.collection?.bind (·.windowSize)
    let c ← reply.toOption.bind (·.collection?)
    return c.added.length - size.toNat
  beyond.getD 0

/-- The request asks for what is left of the budget where `k` items have been brought, up to the
greatest window, with bodies up to the size of the configuration. The size of its window is written
as it is: neither its bounds nor its width change it. -/
structure AsksFor (folder : String) (config : SyncConfig) (k : Nat) (d : Wire.Sync) : Prop where
  left : k < config.visibleLimit.toNat
  request : ∃ key, d = Wire.Sync.window folder key (min 30 (config.visibleLimit.toNat - k))
    config.maxDownloadSize
  size : ∃ size, d.collection?.bind (·.windowSize) = some size ∧
    size.toNat = min 30 (config.visibleLimit.toNat - k) ∧ 1 ≤ size.toNat ∧ size.toNat ≤ 30
  truncation : ((d.collection?.bind (·.options)).bind (·.bodyPreference)).bind (·.truncationSize) =
    some config.maxDownloadSize

variable {past t t' : List Plan.Step} {d : Wire.Sync} {folder key : String} {config : SyncConfig}
  {cancellable : Bool} {stats : SyncStats}

/-- The messages that are counted are the items that have been brought. -/
theorem messages_tally (past : List Plan.Step) : (tally past).messages = brought past := by
  unfold tally brought
  induction past.filterMap Plan.Step.answer? with
  | nil => rfl
  | cons x xs ih =>
    rw [List.foldr_cons, List.flatMap_cons, List.length_append, ← ih, count]
    split
    · exact Nat.add_comm ..
    · exact (Nat.zero_add _).symm

theorem brought_append (t t' : List Plan.Step) : brought (t ++ t') = brought t + brought t' := by
  rw [brought, List.filterMap_append, List.flatMap_append, List.length_append]
  rfl

@[simp] theorem brought_reverse (t : List Plan.Step) : brought t.reverse = brought t := by
  induction t with
  | nil => rfl
  | cons st t ih =>
    rw [List.reverse_cons, brought_append, ih, Nat.add_comm, ← brought_append]
    rfl

/-- The request for the next window asks for what is left. -/
theorem asksFor_nextWindow (hlt : stats.messages < config.visibleLimit.toNat) :
    AsksFor folder config stats.messages (nextWindow folder config key stats) := by
  have hcomm : min (config.visibleLimit.toNat - stats.messages) Wire.maxWindow =
      min 30 (config.visibleLimit.toNat - stats.messages) := Nat.min_comm ..
  have hsize := Wire.windowSize_of_le
    (n := min 30 (config.visibleLimit.toNat - stats.messages)) (by omega) (Nat.min_le_left ..)
  refine ⟨hlt, ⟨key, by rw [nextWindow, hcomm]⟩, ⟨_, rfl, ?_, ?_, ?_⟩, rfl⟩
  all_goals rw [hcomm, hsize]
  · omega
  · omega

/-! ### Every request -/

/-- The request introduces the folder, or asks for what is left where `k` items have been brought.
-/
def Due (folder : String) (config : SyncConfig) (k : Nat) (d : Wire.Sync) : Prop :=
  d = Wire.Sync.handshake folder Wire.initialKey ∨ AsksFor folder config k d

/-- A request is due after all that has been brought before it. -/
def Sized (folder : String) (config : SyncConfig) (past : List Plan.Step) : Plan.Step → Prop
  | .sent d _ => Due folder config (brought past) d
  | _ => True

/-- Where nothing is sent, no request is out of order. -/
theorem sized_of_unsent (ht : ∀ st ∈ t, st.exchange? = none) :
    Plan.Throughout (Sized folder config) past t := by
  induction t generalizing past with
  | nil => trivial
  | cons st t ih =>
    obtain ⟨hst, hrest⟩ := List.forall_mem_cons.1 ht
    cases st with
    | sent => cases hst
    | asked => exact ⟨trivial, ih hrest⟩

/-- A demand has brought nothing, so a request that is sent once more asks for the same. -/
theorem brought_demand {reply : Except Failure Wire.Sync} (h : Demands reply) :
    brought (.sent d reply :: past) = brought past := by
  rw [← messages_tally, tally_demand h, messages_tally]

theorem trip_sized {r : Except Failure Wire.Sync}
    (hd : Due folder config (brought past) d) (h : Trip d t r) :
    Plan.Throughout (Sized folder config) past t := by
  cases h with
  | unprovisioned => exact ⟨trivial, trivial, trivial⟩
  | held => exact ⟨trivial, hd, trivial⟩
  | provisioned => exact ⟨trivial, trivial, trivial, hd, trivial⟩
  | rejected => exact ⟨trivial, hd, trivial, trivial, trivial⟩
  | @retried held reply key' reply' hdemand =>
    refine ⟨trivial, hd, trivial, trivial, trivial, ?_, trivial⟩
    have hbrought : brought (.asked (.setPolicyKey (some key')) () ::
        .asked .handshake (.ok key') :: .asked (.setPolicyKey none) () :: .sent d reply ::
          .asked .policyKey (some held) :: past) = brought past := brought_demand hdemand
    rwa [Sized, hbrought]

theorem commits_sized {r : Except Failure (Wire.Collection × String)}
    (hd : Due folder config (brought past) d) (h : Commits folder (accepted folder) d t r) :
    Plan.Throughout (Sized folder config) past t := by
  cases h with
  | fails h | refused h | keyless h => exact trip_sized hd h
  | unwritten h | stored h => exact Plan.throughout_append.2 ⟨trip_sized hd h, trivial, trivial⟩

/-- The request for the next window asks for what is left, where the statistics count what has been
brought. -/
theorem window_sized {r : Except Failure (Wire.Collection × String)}
    (hpast : brought past = stats.messages) (hlt : stats.messages < config.visibleLimit.toNat)
    (h : Commits folder (accepted folder) (nextWindow folder config key stats) t r) :
    Plan.Throughout (Sized folder config) past (checks cancellable ++ t) := by
  refine Plan.throughout_append.2 ⟨sized_of_unsent exchange_eq_none_of_checks,
    commits_sized (.inr ?_) h⟩
  rw [← messages_tally, tally_append exchange_eq_none_of_checks, messages_tally, hpast]
  exact asksFor_nextWindow hlt

theorem window_sized_delivered {r : Except Failure (Wire.Collection × String)}
    {items : List Wire.Item} {r' : Except Failure Unit}
    (hpast : brought past = stats.messages) (hlt : stats.messages < config.visibleLimit.toNat)
    (h : Commits folder (accepted folder) (nextWindow folder config key stats) t r)
    (hitems : Delivers folder items t' r') :
    Plan.Throughout (Sized folder config) past (checks cancellable ++ (t ++ t')) := by
  rw [← List.append_assoc]
  exact Plan.throughout_append.2 ⟨window_sized hpast hlt h,
    sized_of_unsent (exchange_eq_none_of_delivers hitems)⟩

/-- Every request for items in the windows of a sync asks for what is left. -/
theorem windows_sized {r : Except Failure SyncStats} (hpast : brought past = stats.messages)
    (h : Windows folder config cancellable key stats t r) :
    Plan.Throughout (Sized folder config) past t := by
  -- along the windows: the statistics count what each of them brings
  induction h generalizing past with
  | spent => trivial
  | cancelled => exact ⟨trivial, trivial⟩
  | fails hlt hadvance => exact window_sized hpast hlt hadvance
  | undelivered hlt hadvance hitems | last hlt hadvance hitems | empty hlt hadvance hitems =>
    exact window_sized_delivered hpast hlt hadvance hitems
  | @next _ _ _ c t t' t'' _ hlt hadvance hitems _ _ _ ih =>
    rw [← List.append_assoc t, ← List.append_assoc]
    refine Plan.throughout_append.2 ⟨window_sized_delivered hpast hlt hadvance hitems, ih ?_⟩
    rw [← messages_tally, (grounds_window past hadvance hitems).2, addWindow, messages_tally, hpast]
    rfl

theorem pulls_sized {r : Except Failure SyncStats} (hpast : brought past = 0)
    (h : Pulls folder config cancellable t r) : Plan.Throughout (Sized folder config) past t := by
  cases h with
  | unread e => exact ⟨trivial, trivial⟩
  | @known stored t r hkey h =>
    have hpast' : brought (readStep folder (.ok stored) :: past) = ({} : SyncStats).messages :=
      hpast
    exact ⟨trivial, windows_sized hpast' h⟩
  | refused hkey hadvance => exact ⟨trivial, commits_sized (.inl rfl) hadvance⟩
  | @introduced stored c key t t' r hkey hadvance h =>
    refine ⟨trivial, Plan.throughout_append.2 ⟨commits_sized (.inl rfl) hadvance,
      windows_sized ?_ h⟩⟩
    -- what a response to a handshake adds is not counted
    obtain ⟨-, htally⟩ := commits_heard (readStep folder (.ok stored) :: past)
      (sensible_sync folder) hadvance
    rw [← messages_tally, htally]
    exact (messages_tally past).trans hpast

theorem sync_sized {r : Except Failure SyncStats}
    (h : Plan.Runs (FolderSync.sync folder config cancellable) t r) :
    Plan.Throughout (Sized folder config) [] t := by
  obtain ⟨t', rfl, hpulls⟩ := runs_sync_cases h
  exact ⟨trivial, Plan.throughout_append.2 ⟨pulls_sized rfl hpulls, trivial, trivial⟩⟩

/-! ### The end of a sync -/

@[simp] theorem overrun_asked {q : Query} (a : q.Answer) (past : List Plan.Step) :
    overrun (.asked q a :: past) = overrun past := rfl

theorem overrun_sent {response : Wire.Sync} {c : Wire.Collection} {size : UInt32}
    (past : List Plan.Step) (hsize : d.collection?.bind (·.windowSize) = some size)
    (hc : response.collection? = some c) :
    overrun (.sent d (.ok response) :: past) = c.added.length - size.toNat := by
  rw [overrun, List.findSome?_cons]
  simp [Plan.Step.exchange?, Except.toOption, hsize, hc]

theorem overrun_append (ht : ∀ st ∈ t, st.exchange? = none) :
    overrun (t.reverse ++ past) = overrun past := by
  have hnone : t.reverse.findSome? Plan.Step.exchange? = none :=
    List.findSome?_eq_none_iff.2 fun st hst => ht st (List.mem_reverse.1 hst)
  rw [overrun, List.findSome?_append, hnone]
  rfl

/-- The reply to the request for a window has brought so many items beyond its size. -/
theorem overrun_window (past : List Plan.Step) {c : Wire.Collection} {key' : String}
    (hlt : stats.messages < config.visibleLimit.toNat)
    (h : Commits folder (accepted folder) (nextWindow folder config key stats) t (.ok (c, key'))) :
    overrun (t.reverse ++ past) =
      c.added.length - min 30 (config.visibleLimit.toNat - stats.messages) := by
  have hasks : AsksFor folder config stats.messages (nextWindow folder config key stats) :=
    asksFor_nextWindow hlt
  obtain ⟨size, hwindow, hsize, -⟩ := hasks.size
  cases h with
  | @stored t response _ _ htrip hcheck =>
    obtain ⟨-, t', rfl⟩ := htrip.ends rfl
    rw [List.reverse_concat, List.reverse_concat, ← hsize]
    exact overrun_sent (t'.reverse ++ past) hwindow (collection_of_accepted hcheck).1

/-- A window leaves the messages beyond the budget, if any, to be what the reply has brought beyond
its request. -/
theorem overrun_delivered (past : List Plan.Step) {c : Wire.Collection} {key' : String}
    {r : Except Failure Unit} (hlt : stats.messages < config.visibleLimit.toNat)
    (h : Commits folder (accepted folder) (nextWindow folder config key stats) t (.ok (c, key')))
    (hitems : Delivers folder c.added t' r) :
    (addWindow stats c).messages - config.visibleLimit.toNat ≤
      overrun ((checks cancellable ++ (t ++ t')).reverse ++ past) := by
  rw [List.reverse_append, List.reverse_append, List.append_assoc, List.append_assoc,
    overrun_append (exchange_eq_none_of_delivers hitems), overrun_window _ hlt h]
  simp only [addWindow]
  omega

/-- The windows of a sync that end well and have not been cancelled have taken all that there is or
spent the budget, and have gone beyond it by no more than the last reply has gone beyond its
request. -/
theorem windows_result {r : Except Failure SyncStats} {stats' : SyncStats} (past : List Plan.Step)
    (hpast : stats.messages - config.visibleLimit.toNat ≤ overrun past)
    (h : Windows folder config cancellable key stats t r) (hr : r = .ok stats') :
    (stats'.cancelled = false →
      stats'.moreAvailable = false ∨ config.visibleLimit.toNat ≤ stats'.messages) ∧
    stats'.messages - config.visibleLimit.toNat ≤ overrun (t.reverse ++ past) := by
  induction h generalizing past with
  | spent hspent =>
    cases hr
    exact ⟨fun _ => .inr hspent, hpast⟩
  | cancelled =>
    cases hr
    exact ⟨nofun, hpast⟩
  | last hlt hadvance hitems hmore =>
    cases hr
    exact ⟨fun _ => .inl hmore, overrun_delivered past hlt hadvance hitems⟩
  | fails | undelivered | empty => cases hr
  | @next _ _ _ c t t' t'' _ hlt hadvance hitems _ _ _ ih =>
    rw [← List.append_assoc t, ← List.append_assoc, List.reverse_append, List.append_assoc]
    exact ih _ (overrun_delivered past hlt hadvance hitems) hr

theorem sync_result (h : Plan.Runs (FolderSync.sync folder config cancellable) t (.ok stats)) :
    (stats.cancelled = false →
      stats.moreAvailable = false ∨ config.visibleLimit.toNat ≤ stats.messages) ∧
    stats.messages = brought t ∧
    stats.messages - config.visibleLimit.toNat ≤ overrun t.reverse := by
  have hmessages : stats.messages = brought t := by
    have hnone : tally [] = {} := rfl
    obtain ⟨cancelled, hstats⟩ := (sync_grounds h hnone).2.1 stats rfl
    rw [hstats, ← brought_reverse t, ← messages_tally, List.append_nil]
  obtain ⟨t', rfl, hpulls⟩ := runs_sync_cases h
  have hnotify : ∀ n, overrun (.asked (.notify (.started folder)) () ::
      (t' ++ [.asked (.notify n) ()]) : List Plan.Step).reverse =
        overrun (t'.reverse ++ [.asked (.notify (.started folder)) ()]) := by
    intro n
    rw [List.reverse_cons, List.reverse_concat, List.cons_append, overrun_asked]
  rw [hnotify]
  cases hpulls with
  | @known stored t _ hkey h =>
    obtain ⟨hend, hover⟩ := windows_result
      [readStep folder (.ok stored), .asked (.notify (.started folder)) ()] (by simp) h rfl
    refine ⟨hend, hmessages, ?_⟩
    rwa [List.reverse_cons, List.append_assoc]
  | @introduced stored c key t t'' _ hkey hadvance h =>
    obtain ⟨hend, hover⟩ := windows_result
      (t.reverse ++ [readStep folder (.ok stored), .asked (.notify (.started folder)) ()]) (by simp)
      h rfl
    refine ⟨hend, hmessages, ?_⟩
    rwa [List.reverse_cons, List.reverse_append, List.append_assoc, List.append_assoc]

/-- **The arithmetic of windows**: at every point of every sync at which a request is sent that does
not introduce the folder, less has been brought than the budget allows, and what is left is what is
asked for, up to the greatest window. A sync that ends well has taken all that there is or spent its
budget, unless it has been cancelled, and it goes beyond its budget by no more than the last reply
goes beyond its request. -/
theorem window_arithmetic (folder : String) (config : SyncConfig) (cancellable : Bool) :
    (∀ t d k, Plan.Reaches (FolderSync.sync folder config cancellable) t (.send d k) →
      d = Wire.Sync.handshake folder Wire.initialKey ∨ AsksFor folder config (brought t) d) ∧
    ∀ t stats, Plan.Runs (FolderSync.sync folder config cancellable) t (.ok stats) →
      (stats.cancelled = false →
        stats.moreAvailable = false ∨ config.visibleLimit.toNat ≤ stats.messages) ∧
      stats.messages = brought t ∧
      stats.messages - config.visibleLimit.toNat ≤ overrun t.reverse := by
  refine ⟨fun t d k hreaches => ?_, fun t stats => sync_result⟩
  -- the request is sent, whatever the reply to it will be
  have hsent := hreaches.trans (.send (r := .error (.ofCause (.other ""))) (.refl _))
  obtain ⟨t', r, hruns⟩ := hsent.extends
  rw [List.append_assoc] at hruns
  have hsized := (Plan.throughout_append.1 (sync_sized hruns)).2.1
  rwa [Sized, List.append_nil, brought_reverse] at hsized

/-- A sync with a budget of one message asks for one item, is brought two, and delivers one message
beyond its budget. -/
theorem window_arithmetic_beyond : ∃ t d k t' stats,
    Plan.Reaches (FolderSync.sync "inbox" ⟨1, 0⟩ false) t (.send d k) ∧
      AsksFor "inbox" ⟨1, 0⟩ 0 d ∧
      Plan.Runs (FolderSync.sync "inbox" ⟨1, 0⟩ false) t' (.ok stats) ∧
      stats.moreAvailable = false ∧ stats.messages = 2 ∧ 1 ≤ overrun t'.reverse := by
  have hdeliver : Plan.Runs
      (deliverAll "inbox" [{ serverId := some "5:1" }, { serverId := some "5:2" }]).run
      (deliverSteps "inbox" "5:1" { serverId := some "5:1" } (.ok ()) ++
        deliverSteps "inbox" "5:2" { serverId := some "5:2" } (.ok ())) (.ok ()) :=
    .ask (.ask (.ask (.ask (.done _))))
  have hwindow : Plan.Runs (windows "inbox" ⟨1, 0⟩ false ((some "1").getD Wire.initialKey) {}).run
      (advanceSteps "inbox" "P" (Wire.Sync.window "inbox" "1" 1 0)
        (.accepting "2" [{ serverId := some "5:1" }, { serverId := some "5:2" }]) "2" ++
        (deliverSteps "inbox" "5:1" { serverId := some "5:1" } (.ok ()) ++
          deliverSteps "inbox" "5:2" { serverId := some "5:2" } (.ok ()))) _ :=
    runs_windows_last (by decide) rfl rfl rfl rfl hdeliver
  have hruns := runs_sync (runs_pull_known (by decide) hwindow)
  obtain ⟨hsends, hends⟩ := window_arithmetic "inbox" ⟨1, 0⟩ false
  -- the only request is the one behind the first three questions
  have hsplit : Plan.Runs (FolderSync.sync "inbox" ⟨1, 0⟩ false)
      ([_, _, .asked .policyKey (some "P")] ++ .sent _ _ :: _) _ := hruns
  obtain ⟨q, hreaches, hrest⟩ := hsplit.reaches
  cases hrest with
  | send _ =>
    obtain ⟨-, -, hover⟩ := hends _ _ hruns
    have hasks := (hsends _ _ _ hreaches).resolve_left (by decide)
    exact ⟨_, _, _, _, _, hreaches, hasks, hruns, rfl, rfl, hover⟩

end Account

end MailSync
