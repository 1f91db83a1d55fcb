import MailSync.Proofs.Budget
import MailSync.Proofs.WindowSizes

/-!
# Whether a sync keeps to its budget

A sync asks for no more items than its budget has left, and hands all that the reply brings to the
store. So it keeps to its budget as long as every reply fits into what is left of it, as those of a
server do that honours the window it is asked for. A reply that brings more is taken as it is, and
the sync goes beyond its budget.

* `Account.fitsIn_of_honours` : a reply that honours the window asked for fits.
* `Account.windows_handed_le`, `Account.windows_handed` : the windows of a sync hand over no more
  than fits, and if they end well all that has been brought.
* `Account.within_budget_iff` : a sync that ends well has kept to its budget if and only if every
  reply has fitted, and at no point has a sync gone beyond it where every reply has.
* `Account.long_window_exceeds_budget` : a reply of two items to a request for one.
-/

namespace MailSync

namespace Plan

namespace Step

/-- The step hands a message to the store, which takes it or refuses it. -/
def handsOver : Step → Bool
  | .asked (.save _ _) _ => true
  | _ => false

/-- A server honours the window that it is asked for: where it accepts the request, it adds no more
items. -/
def Honours : Step → Prop
  | .sent d (.ok response) => ∀ size c, d.collection?.bind (·.windowSize) = some size →
      response.Accepted c → c.added.length ≤ size.toNat
  | _ => True

end Step

end Plan

namespace Account

open Exchange FolderSync

/-- The number of messages that have been handed to the store. -/
def handed (t : List Plan.Step) : Nat :=
  t.countP (·.handsOver)

/-- An accepted reply to a request for items brings no more of them than are left of the budget. -/
def FitsIn (budget : Nat) (past : List Plan.Step) : Plan.Step → Prop
  | .sent d (.ok response) => d.asksForItems = true → ∀ c, response.Accepted c →
      brought past + c.added.length ≤ budget
  | _ => True

variable {past t t' : List Plan.Step} {d : Wire.Sync} {c : Wire.Collection} {folder key : String}
  {config : SyncConfig} {cancellable : Bool} {stats : SyncStats} {budget : Nat}

theorem handed_append (t t' : List Plan.Step) : handed (t ++ t') = handed t + handed t' :=
  List.countP_append

@[simp] theorem handed_read (found : Except Failure (Option String)) (t : List Plan.Step) :
    handed (readStep folder found :: t) = handed t := rfl

@[simp] theorem brought_read (found : Except Failure (Option String)) (t : List Plan.Step) :
    brought (readStep folder found :: t) = brought t := rfl

theorem brought_le (past t : List Plan.Step) : brought past ≤ brought (t ++ past) := by
  rw [brought_append]
  exact Nat.le_add_left ..

/-- An accepted reply to a request for items brings its items. -/
theorem brought_sent {response : Wire.Sync} (past : List Plan.Step) (hasks : d.asksForItems = true)
    (h : response.Accepted c) :
    brought (.sent d (.ok response) :: past) = brought past + c.added.length := by
  rw [← messages_tally, tally_sent (not_demands_iff.2 h.noDemand) h.collection, count, if_pos hasks,
    addWindow, messages_tally]

/-! ### What fits -/

/-- Where no more has been brought than the budget allows, every reply has fitted. -/
theorem fitsIn_of_brought_le (h : brought (t.reverse ++ past) ≤ budget) :
    Plan.Throughout (FitsIn budget) past t := by
  induction t generalizing past with
  | nil => trivial
  | cons st t ih =>
    rw [List.reverse_cons, List.append_assoc] at h
    refine ⟨?_, ih h⟩
    cases st with
    | asked q a => trivial
    | sent d reply =>
      cases reply with
      | error e => trivial
      | ok response =>
        intro hasks c haccepted
        rw [← brought_sent past hasks haccepted]
        exact Nat.le_trans (brought_le _ _) h

/-- A reply that honours the window asked for fits into what is left of the budget, as no more than
that has been asked for. -/
theorem fitsIn_of_honours {st : Plan.Step} (h : st.Honours) (hsized : Sized folder config past st) :
    FitsIn config.visibleLimit.toNat past st := by
  cases st with
  | asked q a => trivial
  | sent d reply =>
    cases reply with
    | error e => trivial
    | ok response =>
      intro hasks c haccepted
      rcases hsized with rfl | hasksFor
      · cases hasks
      · have hleft := hasksFor.left
        obtain ⟨size, hwindow, hsize, -, -⟩ := hasksFor.size
        have hlength := h size c hwindow haccepted
        omega

/-! ### What is handed over -/

theorem trip_handed {r : Except Failure Wire.Sync} (h : Trip d t r) : handed t = 0 := by
  cases h <;> rfl

theorem commits_handed {r : Except Failure (Wire.Collection × String)}
    (h : Commits folder (accepted folder) d t r) : handed t = 0 := by
  cases h with
  | fails h | refused h | keyless h => exact trip_handed h
  | unwritten h | stored h =>
    rw [handed_append, trip_handed h]
    rfl

theorem checks_handed : handed (checks cancellable) = 0 := by
  cases cancellable <;> rfl

/-- Items are handed over one by one, and all of them if all goes well. -/
theorem delivers_handed {items : List Wire.Item} {r : Except Failure Unit}
    (h : Delivers folder items t r) :
    handed t ≤ items.length ∧ (r = .ok () → handed t = items.length) := by
  induction h with
  | nil => exact ⟨Nat.le_refl _, fun _ => rfl⟩
  | nameless => exact ⟨Nat.zero_le _, nofun⟩
  | @refused item rest id hid e =>
    have hone : handed (deliverSteps folder id item (.error e)) = 1 := rfl
    rw [hone, List.length_cons]
    exact ⟨by omega, nofun⟩
  | @delivered item rest id t r hid _ ih =>
    have hone : handed (deliverSteps folder id item (.ok ())) = 1 := rfl
    obtain ⟨hle, heq⟩ := ih
    rw [handed_append, hone, List.length_cons]
    refine ⟨by omega, fun hr => ?_⟩
    rw [heq hr]
    exact Nat.add_comm ..

theorem window_handed (cancellable : Bool)
    {r : Except Failure (Wire.Collection × String)} {items : List Wire.Item}
    {r' : Except Failure Unit} (h : Commits folder (accepted folder) d t r)
    (hitems : Delivers folder items t' r') :
    handed (checks cancellable ++ (t ++ t')) ≤ items.length ∧
      (r' = .ok () → handed (checks cancellable ++ (t ++ t')) = items.length) := by
  rw [handed_append, handed_append, checks_handed, commits_handed h, Nat.zero_add, Nat.zero_add]
  exact delivers_handed hitems

/-- A window brings its items, whatever becomes of them. -/
theorem window_brought (cancellable : Bool) {key' : String} {r : Except Failure Unit}
    (past : List Plan.Step)
    (h : Commits folder (accepted folder) (nextWindow folder config key stats) t (.ok (c, key')))
    (hitems : Delivers folder c.added t' r) :
    brought ((checks cancellable ++ (t ++ t')).reverse ++ past) =
      brought past + c.added.length := by
  rw [← messages_tally, (grounds_window past h hitems).2, addWindow, messages_tally]

theorem brought_window (cancellable : Bool) {key' : String} {r : Except Failure Unit}
    (h : Commits folder (accepted folder) (nextWindow folder config key stats) t (.ok (c, key')))
    (hitems : Delivers folder c.added t' r) :
    brought (checks cancellable ++ (t ++ t')) = c.added.length := by
  have hwindow := window_brought cancellable [] h hitems
  rwa [List.append_nil, brought_reverse, show brought [] = 0 from rfl, Nat.zero_add] at hwindow

/-- The response of an exchange whose key has been stored has fitted, if all replies have. -/
theorem commits_fits {key' : String} (hasks : d.asksForItems = true)
    (h : Commits folder (accepted folder) d t (.ok (c, key')))
    (hfits : Plan.Throughout (FitsIn budget) past t) : brought past + c.added.length ≤ budget := by
  cases h with
  | @stored t response _ _ htrip hcheck =>
    obtain ⟨hdemand, t', rfl⟩ := htrip.ends rfl
    obtain ⟨hc, hstatus⟩ := collection_of_accepted hcheck
    rw [List.append_assoc] at hfits
    have hreply := (Plan.throughout_append.1 hfits).2.1 hasks c ⟨hdemand, hc, hstatus⟩
    have hbefore := brought_le past t'.reverse
    omega

/-- The items of a window have fitted, if all replies have. -/
theorem window_fits {key' : String}
    (h : Commits folder (accepted folder) (nextWindow folder config key stats) t (.ok (c, key')))
    (hfits : Plan.Throughout (FitsIn budget) past (checks cancellable ++ (t ++ t'))) :
    brought past + c.added.length ≤ budget := by
  have hbefore := brought_le past (checks cancellable).reverse
  have hwindow := commits_fits rfl h
    (Plan.throughout_append.1 (Plan.throughout_append.1 hfits).2).1
  omega

/-- The windows of a sync hand over no more than is left of the budget, if every reply fits. -/
theorem windows_handed_le {r : Except Failure SyncStats}
    (h : Windows folder config cancellable key stats t r) (hpast : brought past ≤ budget)
    (hfits : Plan.Throughout (FitsIn budget) past t) : brought past + handed t ≤ budget := by
  -- along the windows: what one of them has brought, it has handed over when the next is asked for
  induction h generalizing past with
  | spent | cancelled => exact hpast
  | fails _ hadvance =>
    rw [handed_append, checks_handed, commits_handed hadvance]
    exact hpast
  | @undelivered _ _ _ c _ _ _ _ hadvance hitems | @last _ _ _ c _ _ _ hadvance hitems
  | @empty _ _ _ c _ _ _ hadvance hitems =>
    have hle := (window_handed cancellable hadvance hitems).1
    have hwindow := window_fits hadvance hfits
    omega
  | @next _ _ _ c t t' t'' _ _ hadvance hitems _ _ _ ih =>
    rw [← List.append_assoc t, ← List.append_assoc] at hfits ⊢
    obtain ⟨hfirst, hrest⟩ := Plan.throughout_append.1 hfits
    have hbrought := window_brought cancellable past hadvance hitems
    have hwindow := window_fits hadvance hfirst
    have hnext := ih (by omega) hrest
    rw [handed_append, (window_handed cancellable hadvance hitems).2 rfl]
    omega

/-- The windows of a sync that end well have handed over all that they have brought. -/
theorem windows_handed {r : Except Failure SyncStats} {stats' : SyncStats}
    (h : Windows folder config cancellable key stats t r) (hr : r = .ok stats') :
    handed t = brought t := by
  induction h with
  | spent | cancelled => rfl
  | fails | undelivered | empty => cases hr
  | last _ hadvance hitems =>
    rw [(window_handed cancellable hadvance hitems).2 rfl,
      brought_window cancellable hadvance hitems]
  | @next _ _ _ c t t' t'' _ _ hadvance hitems _ _ _ ih =>
    rw [← List.append_assoc t, ← List.append_assoc, handed_append, brought_append,
      (window_handed cancellable hadvance hitems).2 rfl,
      brought_window cancellable hadvance hitems, ih hr]

/-! ### Whole syncs -/

/-- A handshake that goes well hands nothing over, and what its response adds does not count. -/
theorem handshake_brought {c : Wire.Collection} {key : String} (past : List Plan.Step)
    (h : Commits folder (accepted folder) (Wire.Sync.handshake folder Wire.initialKey) t
      (.ok (c, key))) : brought (t.reverse ++ past) = brought past := by
  obtain ⟨-, htally⟩ := commits_heard past (sensible_sync folder) h
  rw [← messages_tally, htally, ← messages_tally]
  rfl

theorem pulls_handed_le {r : Except Failure SyncStats} (h : Pulls folder config cancellable t r)
    (hpast : brought past = 0)
    (hfits : Plan.Throughout (FitsIn config.visibleLimit.toNat) past t) :
    handed t ≤ config.visibleLimit.toNat := by
  cases h with
  | unread => exact Nat.zero_le _
  | known hkey h =>
    have hle := windows_handed_le h (by rw [brought_read]; omega) hfits.2
    rwa [brought_read, hpast, Nat.zero_add] at hle
  | refused hkey hadvance =>
    rw [handed_read, commits_handed hadvance]
    exact Nat.zero_le _
  | @introduced stored c key t t' r hkey hadvance h =>
    have hpast' := (handshake_brought (readStep folder (.ok stored) :: past) hadvance).trans hpast
    have hle := windows_handed_le h (by omega) (Plan.throughout_append.1 hfits.2).2
    rw [handed_read, handed_append, commits_handed hadvance]
    omega

theorem pulls_handed {r : Except Failure SyncStats} (h : Pulls folder config cancellable t r)
    (hr : r = .ok stats) : handed t = brought t := by
  cases h with
  | unread | refused => cases hr
  | known hkey h =>
    rw [handed_read, brought_read]
    exact windows_handed h hr
  | @introduced stored c key t t' r hkey hadvance h =>
    have hbrought := handshake_brought [] hadvance
    rw [List.append_nil, brought_reverse] at hbrought
    rw [handed_read, brought_read, handed_append, brought_append, commits_handed hadvance, hbrought,
      windows_handed h hr]
    rfl

/-- The notices at the beginning and the end of a sync neither hand anything over nor bring
anything. -/
theorem handed_between (t : List Plan.Step) (n n' : Notice) :
    handed (.asked (.notify n) () :: (t ++ [.asked (.notify n') ()])) = handed t ∧
      brought (.asked (.notify n) () :: (t ++ [.asked (.notify n') ()])) = brought t :=
  ⟨handed_append t [.asked (.notify n') ()], brought_append t [.asked (.notify n') ()]⟩

/-- A sync hands over no more than its budget, if every reply fits. -/
theorem sync_handed_le {r : Except Failure SyncStats}
    (h : Plan.Runs (FolderSync.sync folder config cancellable) t r)
    (hfits : Plan.Throughout (FitsIn config.visibleLimit.toNat) [] t) :
    handed t ≤ config.visibleLimit.toNat := by
  obtain ⟨t', rfl, hpulls⟩ := runs_sync_cases h
  rw [(handed_between t' _ _).1]
  exact pulls_handed_le hpulls rfl (Plan.throughout_append.1 hfits.2).1

/-- A sync that ends well has handed over all that it has been brought. -/
theorem sync_handed (h : Plan.Runs (FolderSync.sync folder config cancellable) t (.ok stats)) :
    handed t = brought t := by
  obtain ⟨t', rfl, hpulls⟩ := runs_sync_cases h
  rw [(handed_between t' _ _).1, (handed_between t' _ _).2]
  exact pulls_handed hpulls rfl

/-- Where no request is served, nothing is brought that could fail to fit. -/
theorem fitsIn_of_unserved (ht : ∀ d response, .sent d (.ok response) ∉ t) :
    Plan.Throughout (FitsIn budget) past t := by
  refine Plan.throughout_of_forall_mem fun past st hst => ?_
  cases st with
  | asked q a => trivial
  | sent d reply =>
    cases reply with
    | error e => trivial
    | ok response => exact absurd hst (ht d response)

/-- **Keeping to the budget**: a sync that ends well has handed no more messages to the store than
its budget allows if and only if every accepted reply to a request for items has fitted into what
was left of the budget. At no point of any sync, however it ends, have more been handed over where
every reply so far has fitted, and every reply of a server that honours the windows asked for does.
-/
theorem within_budget_iff (folder : String) (config : SyncConfig) (cancellable : Bool) :
    (∀ t stats, Plan.Runs (FolderSync.sync folder config cancellable) t (.ok stats) →
      (handed t ≤ config.visibleLimit.toNat ↔
        Plan.Throughout (FitsIn config.visibleLimit.toNat) [] t)) ∧
    ∀ t rest, Plan.Reaches (FolderSync.sync folder config cancellable) t rest →
      (Plan.Throughout (FitsIn config.visibleLimit.toNat) [] t →
        handed t ≤ config.visibleLimit.toNat) ∧
      ((∀ st ∈ t, st.Honours) → Plan.Throughout (FitsIn config.visibleLimit.toNat) [] t) := by
  refine ⟨fun t stats hruns => ⟨?_, sync_handed_le hruns⟩, fun t rest hreaches => ?_⟩
  · intro hle
    rw [sync_handed hruns, ← brought_reverse, ← List.append_nil t.reverse] at hle
    exact fitsIn_of_brought_le hle
  -- the steps so far are the beginning of a run in which nothing more is brought
  obtain ⟨t', r, hruns, hunserved⟩ := hreaches.extends_unserved
  constructor
  · intro hfits
    have hle := sync_handed_le hruns
      (Plan.throughout_append.2 ⟨hfits, fitsIn_of_unserved hunserved⟩)
    rw [handed_append] at hle
    omega
  · intro hhonours
    have hsized := (Plan.throughout_append.1 (sync_sized hruns)).1
    exact hsized.imp fun past st hst => fitsIn_of_honours (hhonours st hst)

/-- A sync that is brought the one item it has asked for keeps to its budget, so the reply has
fitted. -/
theorem within_budget_one_item : ∃ t stats,
    Plan.Runs (FolderSync.sync "inbox" ⟨1, 0⟩ false) t (.ok stats) ∧ handed t = 1 ∧
      Plan.Throughout (FitsIn 1) [] t := by
  have hdeliver : Plan.Runs (deliverAll "inbox" [{ serverId := some "5:1" }]).run
      (deliverSteps "inbox" "5:1" { serverId := some "5:1" } (.ok ())) (.ok ()) :=
    .ask (.ask (.done _))
  obtain ⟨stats, hruns⟩ := runs_one_window ⟨1, 0⟩ (by decide) hdeliver
  refine ⟨_, stats, hruns, rfl, ?_⟩
  exact ((within_budget_iff "inbox" ⟨1, 0⟩ false).1 _ stats hruns).1 (Nat.le_refl 1)

/-- A sync with a budget of one message is brought two items, and hands over both. -/
theorem long_window_exceeds_budget : ¬ ∀ folder config cancellable t stats,
    Plan.Runs (FolderSync.sync folder config cancellable) t (.ok stats) →
      handed t ≤ config.visibleLimit.toNat := by
  intro hbound
  have hdeliver : Plan.Runs
      (deliverAll "inbox" [{ serverId := some "5:1" }, { serverId := some "5:2" }]).run
      (deliverSteps "inbox" "5:1" { serverId := some "5:1" } (.ok ()) ++
        deliverSteps "inbox" "5:2" { serverId := some "5:2" } (.ok ())) (.ok ()) :=
    .ask (.ask (.ask (.ask (.done _))))
  obtain ⟨stats, hruns⟩ := runs_one_window ⟨1, 0⟩ (by decide) hdeliver
  have hle : 2 ≤ 1 := hbound _ _ _ _ _ hruns
  exact absurd hle (by decide)

end Account

end MailSync
