import MailSync.Proofs.Interleaving
import MailSync.Proofs.Reporting

/-!
# How many requests a sync has sent

A sync counts its round trips, and the gate that a round trip goes through drops the policy key and
sends the request again where the server demands it. So the statistics of a sync count its requests
if and only if no request has been met with a demand for provisioning, and else they count too few:
as many as the policy key has been dropped.

* `Account.trip_counted` : a round trip that goes well sends its request once, or once more after a
  demand.
* `Account.windows_counted` : the windows of a sync, and the round trips that they count.
* `Account.requests_counted_iff` : when the statistics of a sync count its requests.
-/

namespace MailSync

namespace Plan.Step

/-- The step is a request that has been met with a demand for provisioning. -/
def repeats : Step → Bool
  | .sent _ reply => decide (Exchange.Demands reply)
  | _ => false

/-- The step drops the policy key. -/
def drops : Step → Bool
  | .asked (.setPolicyKey none) _ => true
  | _ => false

end Plan.Step

namespace Account

open Exchange FolderSync

/-- The number of requests that have been met with a demand for provisioning. -/
def repeated (t : List Plan.Step) : Nat :=
  t.countP (·.repeats)

/-- How often the policy key has been dropped. -/
def dropped (t : List Plan.Step) : Nat :=
  t.countP (·.drops)

/-- The steps make up `n` round trips, each of one request, and of no more than one before it that
has been met with a demand for provisioning. The policy key is dropped upon such a demand. -/
structure Counted (n : Nat) (t : List Plan.Step) : Prop where
  trips : roundTrips t = n
  sent : requests t = n + repeated t
  again : repeated t ≤ n
  dropped : dropped t = repeated t

variable {t t' : List Plan.Step} {d : Wire.Sync} {c : Wire.Collection} {folder key : String}
  {config : SyncConfig} {cancellable : Bool} {stats : SyncStats} {n n' : Nat}

theorem repeated_eq_zero_iff :
    repeated t = 0 ↔ ∀ d reply, .sent d reply ∈ t → ¬ Demands reply := by
  rw [repeated, List.countP_eq_zero]
  constructor
  · intro h d reply hsent
    simpa [Plan.Step.repeats] using h _ hsent
  · intro h st hst
    cases st with
    | asked q a => exact Bool.false_ne_true
    | sent d reply => simpa [Plan.Step.repeats] using h d reply hst

/-! ### Parts of a sync -/

theorem repeated_le (t : List Plan.Step) : repeated t ≤ requests t := by
  refine List.countP_mono_left fun st _ hst => ?_
  cases st with
  | asked q a => cases hst
  | sent d reply => rfl

theorem repeated_append (t t' : List Plan.Step) :
    repeated (t ++ t') = repeated t + repeated t' :=
  List.countP_append

theorem Counted.append (h : Counted n t) (h' : Counted n' t') : Counted (n + n') (t ++ t') where
  trips := by
    have htrips : roundTrips (t ++ t') = roundTrips t + roundTrips t' := List.countP_append
    rw [htrips, h.trips, h'.trips]
  sent := by
    have hsent : requests (t ++ t') = requests t + requests t' := List.countP_append
    rw [hsent, h.sent, h'.sent, repeated_append]
    omega
  again := by
    rw [repeated_append]
    exact Nat.add_le_add h.again h'.again
  dropped := by
    have hdropped : Account.dropped (t ++ t') = Account.dropped t + Account.dropped t' :=
      List.countP_append
    rw [hdropped, h.dropped, h'.dropped, repeated_append]

/-- Where no round trip begins, nothing is sent and no key dropped, there is nothing to count. -/
theorem counted_zero (htrips : roundTrips t = 0) (hsent : requests t = 0)
    (hdropped : dropped t = 0) : Counted 0 t := by
  have hrepeated : repeated t = 0 := Nat.le_zero.1 (hsent ▸ repeated_le t)
  exact ⟨htrips, by omega, by omega, by omega⟩

theorem Counted.after (h : Counted n t') (ht : Counted 0 t) : Counted n (t ++ t') := by
  have hboth := ht.append h
  rwa [Nat.zero_add] at hboth

/-- A round trip that goes well sends a request that is not met with a demand, and may have sent one
before that has been. -/
theorem trip_counted {r : Except Failure Wire.Sync} {response : Wire.Sync} (h : Trip d t r)
    (hr : r = .ok response) : Counted 1 t := by
  have hlast : ∀ {reply}, verdict reply = .ok response → ¬ Demands reply := by
    intro reply hverdict
    obtain ⟨rfl, hdemand⟩ := verdict_eq_ok hverdict
    exact not_demands_iff.2 hdemand
  have hcounted : ∀ {t : List Plan.Step} {n : Nat}, repeated t = n → n ≤ 1 → roundTrips t = 1 →
      requests t = 1 + n → dropped t = n → Counted 1 t := by
    rintro t n rfl hle htrips hsent hdropped
    exact ⟨htrips, hsent, hle, hdropped⟩
  cases h with
  | held key reply hdemand =>
    refine hcounted ?_ (Nat.zero_le 1) rfl rfl rfl
    simp [repeated, Plan.Step.repeats, hdemand]
  | provisioned key reply =>
    have hdemand := hlast hr
    refine hcounted ?_ (Nat.zero_le 1) rfl rfl rfl
    simp [repeated, Plan.Step.repeats, hdemand]
  | retried key reply key' reply' hfirst =>
    have hdemand := hlast hr
    refine hcounted ?_ (Nat.le_refl 1) rfl rfl rfl
    simp [repeated, Plan.Step.repeats, hfirst, hdemand]
  | unprovisioned | rejected => cases hr

theorem commits_counted {check : Wire.Sync → Except Failure Wire.Collection}
    (h : Commits folder check d t (.ok (c, key))) : Counted 1 t := by
  cases h with
  | stored h => exact (trip_counted h rfl).append (counted_zero rfl rfl rfl)

theorem delivers_counted {items : List Wire.Item} {r : Except Failure Unit}
    (h : Delivers folder items t r) : Counted 0 t := by
  induction h with
  | nil | nameless | refused => exact counted_zero rfl rfl rfl
  | delivered _ _ ih => exact ih.after (counted_zero rfl rfl rfl)

theorem checks_counted : Counted 0 (checks cancellable) := by
  cases cancellable with
  | false | true => exact counted_zero rfl rfl rfl

/-- A window whose items are delivered is one round trip. -/
theorem window_counted (cancellable : Bool) {key' : String} {r : Except Failure Unit}
    (h : Commits folder (accepted folder) (nextWindow folder config key stats) t (.ok (c, key')))
    (hitems : Delivers folder c.added t' r) : Counted 1 (checks cancellable ++ (t ++ t')) :=
  ((commits_counted h).append (delivers_counted hitems)).after checks_counted

/-! ### Whole syncs -/

/-- The windows of a sync that ends well are as many round trips as the statistics count more than
before. -/
theorem windows_counted {r : Except Failure SyncStats} {stats' : SyncStats}
    (h : Windows folder config cancellable key stats t r) (hr : r = .ok stats') :
    ∃ n, Counted n t ∧ stats'.roundTrips = stats.roundTrips + n := by
  -- along the windows: each is one round trip, and the statistics count one for it
  induction h with
  | spent | cancelled =>
    cases hr
    exact ⟨0, counted_zero rfl rfl rfl, rfl⟩
  | last _ hadvance hitems =>
    cases hr
    exact ⟨1, window_counted cancellable hadvance hitems, rfl⟩
  | next _ hadvance hitems _ _ _ ih =>
    obtain ⟨n, hcounted, hstats⟩ := ih hr
    have hwindow := window_counted cancellable hadvance hitems
    refine ⟨1 + n, by simpa using hwindow.append hcounted, ?_⟩
    rw [hstats, addWindow, Nat.add_assoc]
  | fails | undelivered | empty => cases hr

/-- A pull that ends well counts its round trips. -/
theorem pulls_counted (h : Pulls folder config cancellable t (.ok stats)) :
    Counted stats.roundTrips t := by
  have hread : ∀ found, Counted 0 [readStep folder found] := fun _ => counted_zero rfl rfl rfl
  cases h with
  | known hkey h =>
    obtain ⟨n, hcounted, hstats⟩ := windows_counted h rfl
    rw [hstats, Nat.zero_add]
    exact hcounted.after (hread _)
  | introduced hkey hadvance h =>
    obtain ⟨n, hcounted, hstats⟩ := windows_counted h rfl
    rw [hstats]
    exact ((commits_counted hadvance).append hcounted).after (hread _)

/-- A sync that ends well counts its round trips. -/
theorem sync_counted
    (h : Plan.Runs (exclusively folder (FolderSync.sync folder config cancellable)) t
      (.ok stats)) : Counted stats.roundTrips t := by
  obtain ⟨e, -, hr⟩ | ⟨guard, t', rfl, hpulls⟩ := course_of_sync h
  · cases hr
  · have hcounted := (pulls_counted hpulls).append
      (counted_zero rfl rfl rfl : Counted 0 [.asked (.notify (lastNotice folder (.ok stats))) (),
        .asked (.release ⟨guard.folder⟩) ()])
    exact hcounted.after (counted_zero rfl rfl rfl : Counted 0
      [.asked (.acquire folder) (.ok guard), .asked (.notify (.started folder)) ()])

/-- **What the statistics count**: a sync that ends well counts its round trips, and each of them
sends its request once, or once more after the policy key has been dropped upon a demand for
provisioning. So the statistics count the requests if and only if no reply demands provisioning. -/
theorem requests_counted_iff
    (h : Plan.Runs (exclusively folder (FolderSync.sync folder config cancellable)) t
      (.ok stats)) :
    stats.roundTrips = roundTrips t ∧ requests t = stats.roundTrips + repeated t ∧
      repeated t ≤ stats.roundTrips ∧ dropped t = repeated t ∧
      (stats.roundTrips = requests t ↔ ∀ d reply, .sent d reply ∈ t → ¬ Demands reply) := by
  have hcounted := sync_counted h
  refine ⟨hcounted.trips.symm, hcounted.sent, hcounted.again, hcounted.dropped, ?_⟩
  rw [← repeated_eq_zero_iff, hcounted.sent]
  omega

/-- A first sync without a budget introduces its folder, and that is all. -/
theorem runs_introduction (h : Plan.Runs (advance folder (.introduction folder)).run t
      (.ok (c, key))) :
    Plan.Runs (Account.sync folder ⟨0, 0⟩)
      (.asked (.acquire folder) (.ok ⟨folder⟩) :: (.asked (.notify (.started folder)) () ::
          (readStep folder (.ok none) :: t ++
            [.asked (.notify (.finished folder { roundTrips := 1, handshake := true })) ()]) ++
        [.asked (.release ⟨folder⟩) ()]))
      (.ok { roundTrips := 1, handshake := true }) := by
  have hestablish : Plan.Runs (establish folder Wire.initialKey).run t
      (.ok (key, { roundTrips := 1, handshake := true })) := by
    rw [establish, if_pos rfl, ← List.append_nil t]
    exact Job.runs_bind h (.done _)
  have hwindows : Plan.Runs
      (windows folder ⟨0, 0⟩ false key { roundTrips := 1, handshake := true }).run []
      (.ok { roundTrips := 1, handshake := true }) := by
    rw [windows, dif_neg (by decide)]
    exact .done _
  have hpull : Plan.Runs (pull folder ⟨0, 0⟩ false).run (readStep folder (.ok none) :: t)
      (.ok { roundTrips := 1, handshake := true }) := by
    rw [← List.append_nil t]
    exact .ask (Job.runs_bind (j := establish folder Wire.initialKey) hestablish hwindows)
  exact runs_plan (o := .sync folder ⟨0, 0⟩) (runs_sync hpull)

/-- A first sync that meets with no demand for provisioning counts its one request. -/
theorem requests_counted_undisturbed : ∃ t stats,
    Plan.Runs (Account.sync "inbox" ⟨0, 0⟩) t (.ok stats) ∧ stats.handshake = true ∧
      requests t = 1 ∧ stats.roundTrips = requests t := by
  have hadvance : Plan.Runs (advance "inbox" (.introduction "inbox")).run
      (advanceSteps "inbox" "P" (.introduction "inbox") (.accepting "1" []) "1") (.ok (_, "1")) :=
    runs_advance rfl rfl rfl
  have hruns := runs_introduction hadvance
  obtain ⟨-, -, -, -, hiff⟩ := requests_counted_iff hruns
  refine ⟨_, _, hruns, rfl, rfl, hiff.2 fun d reply hsent => ?_⟩
  obtain ⟨-, rfl⟩ : d = .introduction "inbox" ∧ reply = .ok (.accepting "1" []) := by
    simpa [advanceSteps, readStep] using hsent
  decide

/-- Where the device has to be provisioned anew during the handshake, the sync counts one request of
the two. -/
theorem repeated_request_uncounted : ¬ ∀ folder config cancellable t stats,
    Plan.Runs (exclusively folder (FolderSync.sync folder config cancellable)) t (.ok stats) →
      stats.roundTrips = requests t := by
  intro hcounts
  let demand : Failure := .ofCause (.provisionRequired 142)
  have htrip : Plan.Runs (roundTrip (.introduction "inbox")).run
      [.asked .policyKey (some "P"), .sent (.introduction "inbox") (.error demand),
        .asked (.setPolicyKey none) (), .asked .handshake (.ok "Q"),
        .asked (.setPolicyKey (some "Q")) (),
        .sent (.introduction "inbox") (.ok (.accepting "1" []))] (.ok (.accepting "1" [])) :=
    .ask (.send (.ask (.ask (.ask (.send (.done _))))))
  have hadvance : Plan.Runs (advance "inbox" (.introduction "inbox")).run
      (_ ++ [writeStep "inbox" "1" (.ok ())]) (.ok (_, "1")) :=
    Job.runs_bind htrip (.ask (.done _))
  have hcount : 1 = 2 := hcounts _ _ false _ _ (runs_introduction hadvance)
  exact absurd hcount (by decide)

end Account

end MailSync
