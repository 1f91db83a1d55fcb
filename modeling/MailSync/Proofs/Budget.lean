import MailSync.Proofs.Handshake
import MailSync.Proofs.Interleaving

/-!
# What a budget pays for

A sync ends, whatever it is told. A window that announces more has to bring something, so each
window but the last uses up some of the budget, and the budget alone bounds the round trips of a
sync. With them it bounds the requests, of which a round trip sends at most two, and how often the
device is provisioned. Where the server fills its windows, they are as few as the budget can be cut
into.

* `Plan.Surroundings.exists_runs`, `Plan.exists_not_reaches` : every plan has an end in any
  surroundings, and none goes on for ever.
* `Account.windows_costs` : what the windows of a sync cost, by what is left of the budget.
* `Account.sync_ends` : every sync ends, within its budget at every point.
-/

namespace MailSync

namespace Plan

variable {α : Type} {p q : Plan α} {t : List Step}

/-- What an operation meets with: a reply to every request and an answer to every question, by the
steps before it, the latest first. They never run out. -/
structure Surroundings where
  /-- The reply to a request. -/
  reply : List Step → Wire.Sync → Except Failure Wire.Sync
  /-- The answer to a question. -/
  answer : List Step → (q : Query) → q.Answer

namespace Surroundings

/-- The step has turned out as its surroundings have it. -/
def Grants (S : Surroundings) (past : List Step) : Step → Prop
  | .sent d r => r = S.reply past d
  | .asked q a => a = S.answer past q

/-- A plan comes to an end in any surroundings. -/
theorem exists_runs (S : Surroundings) (p : Plan α) (past : List Step) :
    ∃ t a, Runs p t a ∧ Throughout S.Grants past t := by
  induction p generalizing past with
  | done a => exact ⟨[], a, .done a, trivial⟩
  | send d k ih =>
    obtain ⟨t, a, hruns, hgrants⟩ := ih (S.reply past d) (.sent d (S.reply past d) :: past)
    exact ⟨_, a, .send hruns, rfl, hgrants⟩
  | ask q k ih =>
    obtain ⟨t, a, hruns, hgrants⟩ := ih (S.answer past q) (.asked q (S.answer past q) :: past)
    exact ⟨_, a, .ask hruns, rfl, hgrants⟩

/-- Surroundings in which no request is served. -/
noncomputable def unserving : Surroundings where
  reply _ _ := .error (.ofCause (.other ""))
  answer _ q := Classical.choice (inferInstanceAs (Nonempty q.Answer))

end Surroundings

/-- No plan goes on for ever: of any endless steps it takes only so many. -/
theorem exists_not_reaches (p : Plan α) (steps : Nat → Step) :
    ∃ n, ∀ q, ¬ Reaches p ((List.range n).map steps) q := by
  have hsucc : ∀ (steps : Nat → Step) n, (List.range (n + 1)).map steps =
      steps 0 :: (List.range n).map (steps ∘ Nat.succ) := by
    intro steps n
    rw [List.range_succ_eq_map, List.map_cons, List.map_map]
  -- along the plan: it takes the first step and goes on with less, or cannot take it
  induction p generalizing steps with
  | done a => exact ⟨1, fun q h => by cases h⟩
  | send d k ih =>
    by_cases hfirst : ∃ r, steps 0 = .sent d r
    · obtain ⟨r, hfirst⟩ := hfirst
      obtain ⟨n, hn⟩ := ih r (steps ∘ Nat.succ)
      refine ⟨n + 1, fun q h => ?_⟩
      rw [hsucc, hfirst] at h
      cases h with
      | send h => exact hn q h
    · refine ⟨1, fun q h => hfirst ?_⟩
      change Reaches _ [steps 0] q at h
      generalize steps 0 = st at h ⊢
      cases h with
      | send h => exact ⟨_, rfl⟩
  | ask q' k ih =>
    by_cases hfirst : ∃ a, steps 0 = .asked q' a
    · obtain ⟨a, hfirst⟩ := hfirst
      obtain ⟨n, hn⟩ := ih a (steps ∘ Nat.succ)
      refine ⟨n + 1, fun q h => ?_⟩
      rw [hsucc, hfirst] at h
      cases h with
      | ask h => exact hn q h
    · refine ⟨1, fun q h => hfirst ?_⟩
      change Reaches _ [steps 0] q at h
      generalize steps 0 = st at h ⊢
      cases h with
      | ask h => exact ⟨_, rfl⟩

theorem Runs.reaches_done {a : α} (h : Runs p t a) : Reaches p t (.done a) := by
  induction h with
  | done a => exact .refl _
  | send _ ih => exact .send ih
  | ask _ ih => exact .ask ih

/-- What holds throughout holds of each step, after some past. -/
theorem Throughout.of_mem {P : List Step → Step → Prop} {past : List Step} {st : Step}
    (h : Throughout P past t) (hst : st ∈ t) : ∃ before, P before st := by
  induction t generalizing past with
  | nil => cases hst
  | cons st' t ih =>
    obtain rfl | hst := List.mem_cons.1 hst
    · exact ⟨past, h.1⟩
    · exact ih h.2 hst

/-- The steps taken so far are the beginning of a run in which no further request is served. -/
theorem Reaches.extends_unserved (h : Reaches p t q) :
    ∃ t' a, Runs p (t ++ t') a ∧ ∀ d response, .sent d (.ok response) ∉ t' := by
  obtain ⟨t', a, hruns, hgrants⟩ := Surroundings.unserving.exists_runs q []
  refine ⟨t', a, h.runs hruns, fun d response hmem => ?_⟩
  obtain ⟨before, hreply⟩ := hgrants.of_mem hmem
  cases hreply

namespace Step

/-- The step asks the server for a new policy key. -/
def provisions : Step → Bool
  | .asked .handshake _ => true
  | _ => false

/-- The sync key that a step has found, if it has looked for one. -/
def found? : Step → Option (Option String)
  | .asked (.readExtra _ _) (.ok found) => some found
  | _ => none

/-- A window that announces more is full: the server has accepted the request, and has added as many
items as it was asked for or more. -/
def Fills : Step → Prop
  | .sent d (.ok response) => ∀ size c, d.collection?.bind (·.windowSize) = some size →
      response.Accepted c → c.hasMore = true → size.toNat ≤ c.added.length
  | _ => True

end Step

end Plan

namespace Account

open Exchange FolderSync

/-! ### What steps cost -/

/-- The number of times that the device has been provisioned, or was to be. -/
def provisionings (t : List Plan.Step) : Nat :=
  t.countP (·.provisions)

/-- The requests of the round trips so far, the latest first. A round trip that has sent nothing has
none, and one that has sent its request twice has one. -/
def tripRequests : List Plan.Step → List Wire.Sync
  | [] => []
  | .sent d _ :: past => if attempts past = [] then d :: tripRequests past else tripRequests past
  | .asked _ _ :: past => tripRequests past

/-- The steps come to a number of round trips at most, of which so many ask for items and so many do
not. -/
structure Costs (introductions windows : Nat) (t : List Plan.Step) : Prop where
  roundTrips : roundTrips t ≤ introductions + windows
  requests : requests t ≤ 2 * (introductions + windows)
  provisionings : provisionings t ≤ introductions + windows
  trips : ∀ past, ∃ ds, tripRequests (t.reverse ++ past) = ds ++ tripRequests past ∧
    ds.countP (!·.asksForItems) ≤ introductions ∧ ds.countP (·.asksForItems) ≤ windows

variable {t t' : List Plan.Step} {d : Wire.Sync} {folder key : String} {config : SyncConfig}
  {cancellable : Bool} {stats : SyncStats}

theorem Costs.append {i i' w w' : Nat} (h : Costs i w t) (h' : Costs i' w' t') :
    Costs (i + i') (w + w') (t ++ t') where
  roundTrips := by
    have hle := h.roundTrips
    have hle' := h'.roundTrips
    unfold Account.roundTrips at *
    rw [List.countP_append]
    omega
  requests := by
    have hle := h.requests
    have hle' := h'.requests
    unfold Account.requests at *
    rw [List.countP_append]
    omega
  provisionings := by
    have hle := h.provisionings
    have hle' := h'.provisionings
    unfold Account.provisionings at *
    rw [List.countP_append]
    omega
  trips past := by
    obtain ⟨ds, hds, hi, hw⟩ := h.trips past
    obtain ⟨ds', hds', hi', hw'⟩ := h'.trips (t.reverse ++ past)
    refine ⟨ds' ++ ds, ?_, ?_, ?_⟩
    · rw [List.reverse_append, List.append_assoc, hds', hds, List.append_assoc]
    · rw [List.countP_append]
      omega
    · rw [List.countP_append]
      omega

theorem Costs.mono {i i' w w' : Nat} (h : Costs i w t) (hi : i ≤ i') (hw : w ≤ w') :
    Costs i' w' t where
  roundTrips := h.roundTrips.trans (by omega)
  requests := h.requests.trans (by omega)
  provisionings := h.provisionings.trans (by omega)
  trips past := by
    obtain ⟨ds, hds, hi', hw'⟩ := h.trips past
    exact ⟨ds, hds, hi'.trans hi, hw'.trans hw⟩

theorem costs_nil : Costs 0 0 [] :=
  ⟨Nat.le_refl _, Nat.le_refl _, Nat.le_refl _, fun _ => ⟨[], rfl, Nat.le_refl _, Nat.le_refl _⟩⟩

/-- A question that no round trip asks costs nothing. -/
theorem costs_asked {q : Query} (a : q.Answer) (hkey : q ≠ .policyKey) (hnew : q ≠ .handshake) :
    Costs 0 0 [.asked q a] where
  roundTrips := by cases q <;> first | exact absurd rfl hkey | exact Nat.le_refl _
  requests := Nat.le_refl _
  provisionings := by cases q <;> first | exact absurd rfl hnew | exact Nat.le_refl _
  trips _ := ⟨[], rfl, Nat.le_refl _, Nat.le_refl _⟩

theorem costs_notify (n : Notice) : Costs 0 0 [.asked (.notify n) ()] :=
  costs_asked _ nofun nofun

/-- A round trip costs one, whichever course it takes. -/
theorem trip_costs {r : Except Failure Wire.Sync} (h : Trip d t r) :
    Costs ([d].countP (!·.asksForItems)) ([d].countP (·.asksForItems)) t := by
  have hone : [d].countP (!·.asksForItems) + [d].countP (·.asksForItems) = 1 := by
    cases hd : d.asksForItems <;> simp [hd]
  refine ⟨?_, ?_, ?_, fun past => ?_⟩
  · rw [hone]
    cases h <;> simp [roundTrips, Plan.Step.opensTrip]
  · rw [hone]
    cases h <;> simp [requests, Plan.Step.exchange?]
  · rw [hone]
    cases h <;> simp [provisionings, Plan.Step.provisions]
  · cases h with
    | unprovisioned => exact ⟨[], rfl, Nat.zero_le _, Nat.zero_le _⟩
    | held | provisioned | rejected | retried =>
      exact ⟨[d], rfl, Nat.le_refl _, Nat.le_refl _⟩

theorem commits_costs {r : Except Failure (Wire.Collection × String)}
    (h : Commits folder (accepted folder) d t r) :
    Costs ([d].countP (!·.asksForItems)) ([d].countP (·.asksForItems)) t := by
  cases h with
  | fails h | refused h | keyless h => exact trip_costs h
  | unwritten h | stored h => exact (trip_costs h).append (costs_asked _ (by nofun) (by nofun))

theorem delivers_costs {items : List Wire.Item} {r : Except Failure Unit}
    (h : Delivers folder items t r) : Costs 0 0 t := by
  induction h with
  | nil | nameless => exact costs_nil
  | refused => exact costs_asked _ (by nofun) (by nofun)
  | delivered _ _ ih =>
    have hsave : ∀ m complete, Costs 0 0 [.asked (.save m complete) (.ok ())] :=
      fun _ _ => costs_asked _ nofun nofun
    exact (hsave _ _).append ((costs_notify _).append ih)

theorem checks_costs : Costs 0 0 (checks cancellable) := by
  cases cancellable with
  | false => exact costs_nil
  | true => exact costs_asked _ (by nofun) (by nofun)

/-! ### What a sync costs -/

/-- An exchange whose key has been stored has been accepted. -/
theorem commits_accepted {c : Wire.Collection}
    (h : Commits folder (accepted folder) d t (.ok (c, key))) :
    ∃ response, .sent d (.ok response) ∈ t ∧ response.Accepted c := by
  cases h with
  | @stored t response _ _ htrip hcheck =>
    obtain ⟨hdemand, t', rfl⟩ := htrip.ends rfl
    obtain ⟨hc, hstatus⟩ := collection_of_accepted hcheck
    exact ⟨response, by simp, hdemand, hc, hstatus⟩

/-- A window costs one round trip, whatever comes of it. -/
theorem window_costs {r : Except Failure (Wire.Collection × String)}
    (h : Commits folder (accepted folder) (nextWindow folder config key stats) t r) :
    Costs 0 1 (checks cancellable ++ t) :=
  checks_costs.append (commits_costs h)

theorem window_costs_delivered {r : Except Failure (Wire.Collection × String)}
    {items : List Wire.Item} {r' : Except Failure Unit}
    (h : Commits folder (accepted folder) (nextWindow folder config key stats) t r)
    (hitems : Delivers folder items t' r') : Costs 0 1 (checks cancellable ++ (t ++ t')) := by
  rw [← List.append_assoc]
  exact (window_costs h).append (delivers_costs hitems)

/-- A full window that announces more brings all that its request asks for. -/
theorem length_added_of_fills {c : Wire.Collection} {key' : String}
    (hlt : stats.messages < config.visibleLimit.toNat)
    (h : Commits folder (accepted folder) (nextWindow folder config key stats) t (.ok (c, key')))
    (hmore : c.hasMore = true) (hfills : ∀ st ∈ t, st.Fills) :
    min (config.visibleLimit.toNat - stats.messages) Wire.maxWindow ≤ c.added.length := by
  obtain ⟨response, hmem, haccepted⟩ := commits_accepted h
  have hle := hfills _ hmem _ c rfl haccepted hmore
  have hmax : Wire.maxWindow = 30 := rfl
  rwa [Wire.windowSize_of_le (by omega) (Nat.min_le_right ..)] at hle

/-- The windows of a sync cost at most what is left of the budget, and no more than have to share it
if the server fills them. -/
theorem windows_costs {r : Except Failure SyncStats}
    (h : Windows folder config cancellable key stats t r) :
    ∃ n, Costs 0 n t ∧ n ≤ config.visibleLimit.toNat - stats.messages ∧
      ((∀ st ∈ t, st.Fills) → n ≤ (config.visibleLimit.toNat - stats.messages + 29) / 30) := by
  -- along the windows: each but the last brings something, so less is left for those after it
  induction h with
  | spent => exact ⟨0, costs_nil, Nat.zero_le _, fun _ => Nat.zero_le _⟩
  | cancelled =>
    exact ⟨0, costs_asked _ (by nofun) (by nofun), Nat.zero_le _, fun _ => Nat.zero_le _⟩
  | fails hlt hadvance => exact ⟨1, window_costs hadvance, by omega, fun _ => by omega⟩
  | undelivered hlt hadvance hitems | last hlt hadvance hitems | empty hlt hadvance hitems =>
    exact ⟨1, window_costs_delivered hadvance hitems, by omega, fun _ => by omega⟩
  | @next key key' stats c t t' t'' r hlt hadvance hitems hmore hadded _ ih =>
    obtain ⟨n, hcosts, hle, hfull⟩ := ih
    have hpos : 0 < c.added.length := List.length_pos_iff.2 hadded
    simp only [addWindow] at hle hfull
    refine ⟨1 + n, ?_, by omega, fun hfills => ?_⟩
    · rw [← List.append_assoc t, ← List.append_assoc]
      exact (window_costs_delivered hadvance hitems).append hcosts
    · have hwindow : ∀ st ∈ t, st.Fills := fun st hst => hfills st (by simp [hst])
      have hrest : ∀ st ∈ t'', st.Fills := fun st hst => hfills st (by simp [hst])
      have hbrought := length_added_of_fills hlt hadvance hmore hwindow
      have hfew := hfull hrest
      unfold Wire.maxWindow at hbrought
      omega

/-- The sync has found a key, so the folder needs no introduction. -/
def FindsKey (t : List Plan.Step) : Prop :=
  ∃ found, t.findSome? Plan.Step.found? = some found ∧
    found.getD Wire.initialKey ≠ Wire.initialKey

/-- What a sync costs is what its budget pays for: the introduction of a folder without a key, and
windows. -/
structure Affords (budget introductions windows : Nat) (t : List Plan.Step) : Prop where
  costs : Costs introductions windows t
  once : introductions ≤ 1
  known : FindsKey t → introductions = 0
  paid : windows ≤ budget
  full : (∀ st ∈ t, st.Fills) → windows ≤ (budget + 29) / 30

theorem costs_read (found : Except Failure (Option String)) : Costs 0 0 [readStep folder found] :=
  costs_asked _ nofun nofun

/-- Where the windows of a sync begin, nothing has been paid for but the introduction of a folder
without a key. -/
theorem affords_of_windows {found : Option String} {i : Nat} {r : Except Failure SyncStats}
    (hcosts : Costs i 0 t) (honce : i ≤ 1)
    (hknown : found.getD Wire.initialKey ≠ Wire.initialKey → i = 0) (hzero : stats.messages = 0)
    (h : Windows folder config cancellable key stats t' r) :
    ∃ i w, Affords config.visibleLimit.toNat i w (readStep folder (.ok found) :: (t ++ t')) := by
  obtain ⟨n, hwindows, hle, hfull⟩ := windows_costs h
  rw [hzero] at hle hfull
  refine ⟨i, n, ?_, honce, ?_, hle, fun hfills => hfull fun st hst => hfills st (by simp [hst])⟩
  · exact ((costs_read _).append (hcosts.append hwindows)).mono (by omega) (by omega)
  · rintro ⟨_, ⟨⟩, hkey⟩
    exact hknown hkey

theorem pulls_costs {r : Except Failure SyncStats} (h : Pulls folder config cancellable t r) :
    ∃ i w, Affords config.visibleLimit.toNat i w t := by
  cases h with
  | unread e =>
    exact ⟨0, 0, costs_read _, Nat.zero_le _, fun _ => rfl, Nat.zero_le _, fun _ => Nat.zero_le _⟩
  | known hkey h => exact affords_of_windows costs_nil (Nat.zero_le _) (fun _ => rfl) rfl h
  | @refused stored t e hkey hadvance =>
    have hintroduction : Costs 1 0 t := commits_costs hadvance
    refine ⟨1, 0, (costs_read _).append hintroduction, Nat.le_refl _, ?_, Nat.zero_le _,
      fun _ => Nat.zero_le _⟩
    rintro ⟨_, ⟨⟩, hne⟩
    exact absurd hkey hne
  | introduced hkey hadvance h =>
    exact affords_of_windows (commits_costs hadvance) (Nat.le_refl _)
      (fun hne => absurd hkey hne) rfl h

/-- What a sync costs is what its budget pays for. -/
theorem sync_costs {r : Except Failure SyncStats}
    (h : Plan.Runs (FolderSync.sync folder config cancellable) t r) :
    ∃ i w, Affords config.visibleLimit.toNat i w t := by
  obtain ⟨t', rfl, hpulls⟩ := runs_sync_cases h
  obtain ⟨i, w, hcosts, honce, hknown, hle, hfull⟩ := pulls_costs hpulls
  refine ⟨i, w, ?_, honce, ?_, hle, fun hfills => hfull fun st hst => hfills st (by simp [hst])⟩
  · exact ((costs_notify _).append (hcosts.append (costs_notify _))).mono (by omega) (by omega)
  · rintro ⟨found, hfound, hkey⟩
    -- no notice has found a key
    rw [List.findSome?_cons, List.findSome?_append, List.findSome?_singleton] at hfound
    exact hknown ⟨found, by simpa [Plan.Step.found?] using hfound, hkey⟩

/-! ### Budgets -/

/-- Steps of a sync that keep within a budget. At most one round trip introduces the folder, and
none does where a key has been found; at most as many ask for items as the budget has messages; and
what round trips take is bounded with them. Where the server fills its windows, there are no more of
them than have to share the budget. -/
structure WithinBudget (budget : Nat) (t : List Plan.Step) : Prop where
  roundTrips : roundTrips t ≤ budget + 1
  known : FindsKey t → Account.roundTrips t ≤ budget
  introductions : (tripRequests t.reverse).countP (!·.asksForItems) ≤ 1
  windows : (tripRequests t.reverse).countP (·.asksForItems) ≤ budget
  requests : requests t ≤ 2 * (budget + 1)
  provisionings : provisionings t ≤ budget + 1
  full : (∀ st ∈ t, st.Fills) → Account.roundTrips t ≤ (budget + 29) / 30 + 1

theorem tripRequests_suffix (t past : List Plan.Step) :
    tripRequests past <:+ tripRequests (t ++ past) := by
  induction t with
  | nil => exact List.suffix_rfl
  | cons st t ih =>
    cases st with
    | asked => exact ih
    | sent d r =>
      rw [List.cons_append, tripRequests]
      split
      · exact ih.trans (List.suffix_cons ..)
      · exact ih

/-- Steps cost no less than those at their beginning. -/
theorem Costs.of_append {i w : Nat} (h : Costs i w (t ++ t')) :
    Account.roundTrips t ≤ i + w ∧ Account.requests t ≤ 2 * (i + w) ∧
      Account.provisionings t ≤ i + w ∧ (tripRequests t.reverse).countP (!·.asksForItems) ≤ i ∧
      (tripRequests t.reverse).countP (·.asksForItems) ≤ w := by
  obtain ⟨hroundTrips, hrequests, hprovisionings, htrips⟩ := h
  obtain ⟨ds, hds, hi, hw⟩ := htrips []
  have hsub : tripRequests t.reverse <:+ ds := by
    have hsuffix := tripRequests_suffix t'.reverse t.reverse
    rwa [← List.reverse_append, ← List.append_nil (t ++ t').reverse, hds, tripRequests,
      List.append_nil] at hsuffix
  unfold Account.roundTrips Account.requests Account.provisionings at *
  rw [List.countP_append] at hroundTrips hrequests hprovisionings
  exact ⟨by omega, by omega, by omega, hsub.sublist.countP_le.trans hi,
    hsub.sublist.countP_le.trans hw⟩

/-- At every point a sync has kept within its budget. -/
theorem withinBudget_of_reaches {rest : Plan (Except Failure SyncStats)}
    (h : Plan.Reaches (FolderSync.sync folder config cancellable) t rest) :
    WithinBudget config.visibleLimit.toNat t := by
  obtain ⟨t', r, hruns, hunserved⟩ := h.extends_unserved
  obtain ⟨i, w, hcosts, honce, hknown, hle, hfull⟩ := sync_costs hruns
  obtain ⟨hroundTrips, hrequests, hprovisionings, hintroductions, hwindows⟩ := hcosts.of_append
  refine ⟨by omega, ?_, by omega, by omega, by omega, by omega, fun hfills => ?_⟩
  · rintro ⟨found, hfound, hkey⟩
    have hzero := hknown ⟨found, by rw [List.findSome?_append, hfound]; rfl, hkey⟩
    omega
  · have hfew := hfull fun st hst => by
      obtain hst | hst := List.mem_append.1 hst
      · exact hfills st hst
      · -- what has been added to complete the run brings no window
        cases st with
        | asked => trivial
        | sent d reply =>
          cases reply with
          | error e => trivial
          | ok response => exact absurd hst (hunserved d response)
    omega

/-- **A sync always ends, within its budget**: in any surroundings it comes to an end, no endless
steps are ever all taken, and at every point it has kept within its budget. -/
theorem sync_ends (folder : String) (config : SyncConfig) (cancellable : Bool) :
    (∀ S : Plan.Surroundings, ∃ t r, Plan.Runs (FolderSync.sync folder config cancellable) t r ∧
      Plan.Throughout S.Grants [] t ∧ WithinBudget config.visibleLimit.toNat t) ∧
    (∀ steps : Nat → Plan.Step, ∃ n, ∀ rest,
      ¬ Plan.Reaches (FolderSync.sync folder config cancellable) ((List.range n).map steps) rest) ∧
    ∀ t rest, Plan.Reaches (FolderSync.sync folder config cancellable) t rest →
      WithinBudget config.visibleLimit.toNat t := by
  refine ⟨fun S => ?_, Plan.exists_not_reaches _, fun t rest => withinBudget_of_reaches⟩
  obtain ⟨t, r, hruns, hgrants⟩ := S.exists_runs (FolderSync.sync folder config cancellable) []
  exact ⟨t, r, hruns, hgrants, withinBudget_of_reaches hruns.reaches_done⟩

/-- The first sync of a folder takes as many round trips as a budget of one message allows. -/
theorem sync_ends_first_sync : ∃ t r,
    Plan.Runs (FolderSync.sync "inbox" ⟨1, 0⟩ false) t r ∧ WithinBudget 1 t ∧
      roundTrips t = 1 + 1 := by
  have hruns : ∃ r, Plan.Runs (FolderSync.sync "inbox" ⟨1, 0⟩ false)
      (firstSyncSteps "inbox" "P" ⟨1, 0⟩ "5:1" { serverId := some "5:1" } (.ok ()) r) r :=
    runs_first_sync (by decide) rfl _
  obtain ⟨r, hr⟩ := hruns
  exact ⟨_, r, hr, (sync_ends "inbox" ⟨1, 0⟩ false).2.2 _ _ hr.reaches_done, rfl⟩

end Account

end MailSync
