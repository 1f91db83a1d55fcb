import MailSync.Proofs.Session
import MailSync.Scenario.Run

/-!
# Scripts are sessions

A script lays down how requests are answered, which calls to the store fail and what is done while a
request is being answered. Whatever it lays down, its run is one way in which a session may go, as
long as no step writes a sync key past the operations.

* `Scenario.answers_answer` : scripted surroundings answer every question as those of a session may.
* `Scenario.Script.run_leads` : the run of a script leads a session from its start to its end.
-/

namespace MailSync

namespace Account.Session

variable {b b' b'' : Session} {e : Event}

/-- One state of a session may lead to another. -/
def Leads (b b' : Session) : Prop :=
  ∃ τ, b.Run τ b'

theorem Leads.refl (b : Session) : b.Leads b :=
  ⟨[], .nil⟩

theorem Leads.trans (h : b.Leads b') (h' : b'.Leads b'') : b.Leads b'' := by
  obtain ⟨τ, h⟩ := h
  obtain ⟨τ', h'⟩ := h'
  exact ⟨τ ++ τ', h.trans h'⟩

theorem Moves.leads (h : b.Moves e b') : b.Leads b' :=
  ⟨[] ++ [e], Run.nil.snoc h⟩

end Account.Session

namespace Scenario

open Account

/-- What operations share in scripted surroundings. -/
def World.shared (w : World) : Shared :=
  ⟨w.store, w.locks, w.desk.policyKey⟩

/-- A step writes no sync key past the operations. -/
def Step.sparesKeys : Step → Bool
  | .store (.writeExtra _ name _) => name ≠ Store.syncKeyName
  | _ => true

/-- No step that is still to come with a reply writes a sync key. -/
def World.SparesKeys (w : World) : Prop :=
  ∀ r ∈ w.replies, ∀ s ∈ r.steps, s.sparesKeys = true

variable {serve : Serve} {w : World} {ts : List Task}

/-! ### Questions -/

theorem callStore_cases {α : Type} (w : World) (call : Call) (e : Event)
    (effect : Store → α × Store) :
    (∃ failure w', w.callStore call e effect = (.error failure, w') ∧ w'.shared = w.shared ∧
        w'.replies = w.replies) ∨
      ∃ w', w.callStore call e effect = (.ok (effect w.store).1, w') ∧
        w'.shared = { w.shared with store := (effect w.store).2 } ∧ w'.replies = w.replies := by
  simp only [World.callStore]
  split
  · exact .inl ⟨_, _, rfl, rfl, rfl⟩
  · exact .inr ⟨_, rfl, rfl, rfl⟩

theorem hear_shared (w : World) (n : Notice) :
    (w.hear n).shared = w.shared ∧ (w.hear n).replies = w.replies := by
  unfold World.hear
  split
  · exact ⟨rfl, rfl⟩
  · split <;> exact ⟨rfl, rfl⟩

/-- Scripted surroundings answer as those of a session may, and use up no reply. -/
theorem answers_answer (q : Query) (w : World) :
    Answers w.shared q (World.answer q w).1 (World.answer q w).2.shared ∧
      (World.answer q w).2.replies = w.replies := by
  cases q with
  | policyKey => exact ⟨.policyKey _, rfl⟩
  | setPolicyKey key => exact ⟨.setPolicyKey _ _, rfl⟩
  | handshake => exact ⟨.handshake _ _, rfl⟩
  | readExtra folder name =>
    obtain ⟨failure, w', h, hw, hr⟩ | ⟨w', h, hw, hr⟩ := callStore_cases w .readExtra
      (.readExtra folder name) fun s => (s.extra? folder name, s)
    · simp only [World.answer, h, hw, hr, and_true]
      exact .readFails _ _ _ _
    · simp only [World.answer, h, hw, hr, and_true]
      exact .read _ _ _
  | writeExtra folder name value =>
    obtain ⟨failure, w', h, hw, hr⟩ | ⟨w', h, hw, hr⟩ := callStore_cases w .writeExtra
      (.writeExtra folder name value) fun s => ((), s.setExtra folder name value)
    · simp only [World.answer, h, hw, hr, and_true]
      exact .writeFails _ _ _ _ _
    · simp only [World.answer, h, hw, hr, and_true]
      exact .write _ _ _ _
  | save m complete =>
    obtain ⟨failure, w', h, hw, hr⟩ | ⟨w', h, hw, hr⟩ :=
      callStore_cases w (if complete then .saveComplete else .savePartial) (.save m complete)
        fun s => ((), s.save m complete)
    · simp only [World.answer, h, hw, hr, and_true]
      exact .saveFails _ _ _ _
    · simp only [World.answer, h, hw, hr, and_true]
      exact .save _ _ _
  | cancelled => exact ⟨.cancelled _ _, rfl⟩
  | notify n =>
    obtain ⟨hw, hr⟩ := hear_shared w n
    simp only [World.answer, hw, hr, and_true]
    exact .notify _ _
  | acquire folder =>
    cases hacquire : w.locks.acquire folder with
    | error e =>
      simp only [World.answer, hacquire, and_true]
      exact .refuse hacquire
    | ok p =>
      obtain ⟨guard, locks⟩ := p
      simp only [World.answer, hacquire, and_true]
      exact .acquire hacquire
  | release guard => exact ⟨.release _ _, rfl⟩

/-! ### Operations and steps -/

/-- Some surroundings may follow others in a session, whatever operations are in progress, and bring
no step that writes a sync key. -/
structure Follows (w w' : World) : Prop where
  spares : w.SparesKeys → w'.SparesKeys
  leads : w.SparesKeys → ∀ ts, Session.Leads ⟨w.shared, ts⟩ ⟨w'.shared, ts⟩

variable {w' w'' : World}

theorem Follows.trans (h : Follows w w') (h' : Follows w' w'') : Follows w w'' :=
  ⟨fun hw => h'.spares (h.spares hw),
    fun hw ts => (h.leads hw ts).trans (h'.leads (h.spares hw) ts)⟩

theorem follows_of_eq (hshared : w'.shared = w.shared) (hreplies : w'.replies = w.replies) :
    Follows w w' := by
  constructor
  · intro hw
    rwa [World.SparesKeys, hreplies]
  · intro _ ts
    rw [hshared]
    exact .refl _

/-- Changes that leave the locks and the sync keys alone may come from outside. -/
theorem follows_outside (hlocks : w'.locks = w.locks)
    (hkeys : ∀ f, w'.store.syncKey? f = w.store.syncKey? f) (hreplies : w'.replies = w.replies) :
    Follows w w' := by
  constructor
  · intro hw
    rwa [World.SparesKeys, hreplies]
  · exact fun _ ts => (Session.Moves.outside hlocks hkeys).leads

/-- An operation in progress goes on to its end. -/
theorem runPlan_leads (hserve : ∀ d w, Follows w (serve d w).2) {o : Operation}
    {p : Plan (Except Failure o.Value)} (hw : w.SparesKeys) (past : List Plan.Step)
    (ts : List Task) :
    (runPlan serve p w).2.SparesKeys ∧ ∃ past', Session.Leads
      ⟨w.shared, ⟨o, past, p, false⟩ :: ts⟩
      ⟨(runPlan serve p w).2.shared, ⟨o, past', .done (runPlan serve p w).1, false⟩ :: ts⟩ := by
  induction p generalizing w past with
  | done r => exact ⟨hw, past, .refl _⟩
  | send d k ih =>
    have hnext := hserve d w
    obtain ⟨hspares, past', h⟩ := ih (serve d w).1 (hnext.spares hw) (.sent d (serve d w).1 :: past)
    refine ⟨hspares, past', ?_⟩
    -- between the request and its reply the surroundings may move on under the waiting operation
    have hsends : Session.Leads ⟨w.shared, ⟨o, past, .send d k, false⟩ :: ts⟩
        ⟨w.shared, ⟨o, past, .send d k, true⟩ :: ts⟩ :=
      (Session.Moves.sends rfl rfl).leads
    have hhears : Session.Leads ⟨(serve d w).2.shared, ⟨o, past, .send d k, true⟩ :: ts⟩
        ⟨(serve d w).2.shared, ⟨o, _, k (serve d w).1, false⟩ :: ts⟩ :=
      (Session.Moves.hears (serve d w).1 rfl rfl).leads
    exact hsends.trans ((hnext.leads hw _).trans (hhears.trans h))
  | ask q k ih =>
    obtain ⟨ha, hreplies⟩ := answers_answer q w
    have hnext : (World.answer q w).2.SparesKeys := by
      rwa [World.SparesKeys, hreplies]
    obtain ⟨hspares, past', h⟩ :=
      ih (World.answer q w).1 hnext (.asked q (World.answer q w).1 :: past)
    exact ⟨hspares, past', (Session.Moves.asks rfl ha).leads.trans h⟩

theorem follows_operation (hserve : ∀ d w, Follows w (serve d w).2) (o : Operation) (w : World) :
    Follows w (runPlan serve o.plan w).2 := by
  constructor
  · exact fun hw => (runPlan_leads hserve hw [] []).1
  · intro hw ts
    obtain ⟨-, past', h⟩ := runPlan_leads hserve (p := o.plan) hw [] ts
    have hstarts : Session.Leads ⟨w.shared, ts⟩ ⟨w.shared, Task.start o :: ts⟩ :=
      (Session.Moves.starts o).leads
    exact hstarts.trans (h.trans (Session.Moves.returns rfl).leads)

theorem follows_sync (hserve : ∀ d w, Follows w (serve d w).2) (folder : String)
    (config : SyncConfig) (cancel : Option CancelPlan) (listener : Listener) (w : World) :
    Follows w (runSync serve folder config cancel listener w).2 := by
  have hin : Follows w { w with frames := frameOf cancel listener :: w.frames } :=
    follows_of_eq rfl rfl
  have hplan : ∀ p w, (p = Account.syncCancellable folder config ∨ p = Account.sync folder config) →
      Follows w (runPlan serve p w).2 := by
    rintro p w (rfl | rfl)
    · exact follows_operation hserve (.syncCancellable folder config) w
    · exact follows_operation hserve (.sync folder config) w
  have hrun := hplan (if cancel.isSome then Account.syncCancellable folder config
    else Account.sync folder config) { w with frames := frameOf cancel listener :: w.frames }
    (by split <;> simp)
  simp only [runSync]
  generalize runPlan serve _ { w with frames := frameOf cancel listener :: w.frames } = out
    at hrun ⊢
  obtain ⟨r, w'⟩ := out
  refine (hin.trans hrun).trans ?_
  cases r with
  | ok stats => exact follows_of_eq rfl rfl
  | error e => exact follows_of_eq rfl rfl

theorem follows_fetch (hserve : ∀ d w, Follows w (serve d w).2) (folder id : String) (save : Bool)
    (w : World) : Follows w (runFetch serve folder id save w).2 := by
  have hrun := follows_operation hserve (.fetch folder id) w
  simp only [runFetch]
  change Follows w (runPlan serve (Account.fetch folder id) w).2 at hrun
  generalize runPlan serve (Account.fetch folder id) w = out at hrun ⊢
  obtain ⟨r, w'⟩ := out
  refine hrun.trans ?_
  cases r with
  | error e => exact follows_of_eq rfl rfl
  | ok m =>
    cases save with
    | false => exact follows_of_eq rfl rfl
    | true => exact follows_outside rfl (fun f => w'.store.syncKey?_save m true f) rfl

/-- What a store step does to the sync keys. -/
theorem syncKey?_storeStep (s : StoreStep) (hs : (Step.store s).sparesKeys = true) (store : Store)
    (f : String) : (s.run store).2.syncKey? f = store.syncKey? f := by
  cases s with
  | writeExtra folder name value =>
    have hname : name ≠ Store.syncKeyName := by simpa [Step.sparesKeys] using hs
    simp [StoreStep.run, Store.syncKey?, Ne.symm hname]
  | save m complete => exact store.syncKey?_save m complete f
  | get folder id =>
    simp only [StoreStep.run]
    split <;> rfl
  | edit folder id column cell => exact store.syncKey?_edit folder id column cell f
  | _ => rfl

/-- Provisioning is a handshake, and the key that it brings is held. -/
theorem runPlan_provision (serve : Serve) (w : World) :
    runPlan serve Plan.device.provision w =
      match w.desk.nextOutcome with
      | .error e =>
        (.error (e.within "Device provisioning failed"), (World.answer .handshake w).2)
      | .ok key =>
        (.ok (),
          (World.answer (.setPolicyKey (some key)) (World.answer .handshake w).2).2) := by
  have hshake : Plan.device.handshake.run serve World.answer w =
      (w.desk.nextOutcome, (World.answer .handshake w).2) := rfl
  rw [runPlan, Device.provision, Plan.run_bind, hshake]
  cases w.desk.nextOutcome <;> rfl

theorem follows_perform (hserve : ∀ d w, Follows w (serve d w).2) (w : World) (s : Step)
    (hs : s.sparesKeys = true) : Follows w (perform serve w s).2 := by
  cases s with
  | sync folder config cancel listener => exact follows_sync hserve folder config cancel listener w
  | fetch folder id save => exact follows_fetch hserve folder id save w
  | busy folder => exact follows_of_eq rfl rfl
  | provision =>
    simp only [perform, runPlan_provision]
    cases w.desk.nextOutcome with
    | error e => exact follows_of_eq rfl rfl
    | ok key => exact follows_outside rfl (fun _ => rfl) rfl
  | invalidate => exact follows_outside rfl (fun _ => rfl) rfl
  | policy => exact follows_of_eq rfl rfl
  | store s => exact follows_outside rfl (fun f => syncKey?_storeStep s hs w.store f) rfl

theorem follows_runStep (hserve : ∀ d w, Follows w (serve d w).2) (w : World) (s : Step)
    (hs : s.sparesKeys = true) : Follows w (runStep serve w s).2 := by
  have hin : Follows w { w with log := [] } := follows_of_eq rfl rfl
  exact (hin.trans (follows_perform hserve _ s hs)).trans (follows_of_eq rfl rfl)

theorem follows_nest (hserve : ∀ d w, Follows w (serve d w).2) (steps : List Step)
    (hsteps : ∀ s ∈ steps, s.sparesKeys = true) (w : World) :
    Follows w (steps.foldl (nest serve) w) := by
  induction steps generalizing w with
  | nil => exact follows_of_eq rfl rfl
  | cons s steps ih =>
    have hstep := follows_runStep hserve w s (hsteps s List.mem_cons_self)
    have hnest : Follows w (nest serve w s) := hstep.trans (follows_of_eq rfl rfl)
    exact hnest.trans (ih (fun s hs => hsteps s (List.mem_cons_of_mem _ hs)) _)

/-- Taking a reply follows, and no step of the reply writes a sync key. -/
theorem follows_takeReply (d : Wire.Sync) (w : World) :
    Follows w (takeReply d w).2 ∧
      (w.SparesKeys → ∀ r ∈ (takeReply d w).1, ∀ s ∈ r.steps, s.sparesKeys = true) := by
  simp only [takeReply]
  split
  · exact ⟨follows_of_eq rfl rfl, fun _ r hr => by cases hr⟩
  · rename_i r rest hreplies
    change w.replies = r :: rest at hreplies
    have htaken : ∀ w' : World, w'.shared = w.shared → w'.replies = rest → Follows w w' := by
      intro w' hshared hrest
      constructor
      · intro hw r' hr'
        rw [hrest] at hr'
        exact hw r' (hreplies ▸ List.mem_cons_of_mem _ hr')
      · intro _ ts
        rw [hshared]
        exact .refl _
    constructor
    · simp only
      split
      · exact htaken _ rfl rfl
      · exact htaken _ rfl rfl
    · intro hw r' hr'
      cases hr'
      exact hw r (hreplies ▸ List.mem_cons_self)

theorem follows_serve (depth : Nat) (d : Wire.Sync) (w : World) :
    Follows w (Scenario.serve depth d w).2 := by
  induction depth generalizing d w with
  | zero =>
    obtain ⟨htake, -⟩ := follows_takeReply d w
    simp only [Scenario.serve]
    generalize takeReply d w = out at htake ⊢
    obtain ⟨r, w'⟩ := out
    cases r with
    | none => exact htake
    | some r => exact htake
  | succ depth ih =>
    obtain ⟨htake, hsteps⟩ := follows_takeReply d w
    simp only [Scenario.serve]
    generalize takeReply d w = out at htake hsteps ⊢
    obtain ⟨r, w'⟩ := out
    cases r with
    | none => exact htake
    | some r =>
      -- the reply's steps may be run only because the script spares the keys
      refine ⟨fun hw => ?_, fun hw ts => ?_⟩
      · exact (htake.trans (follows_nest ih r.steps (hsteps hw r rfl) w')).spares hw
      · exact (htake.trans (follows_nest ih r.steps (hsteps hw r rfl) w')).leads hw ts

theorem follows_runSteps (hserve : ∀ d w, Follows w (serve d w).2) (steps : List Step)
    (hsteps : ∀ s ∈ steps, s.sparesKeys = true) (w : World) :
    Follows w (runSteps serve w steps).2 := by
  induction steps generalizing w with
  | nil => exact follows_of_eq rfl rfl
  | cons s steps ih =>
    have hstep := follows_runStep hserve w s (hsteps s List.mem_cons_self)
    exact hstep.trans (ih (fun s hs => hsteps s (List.mem_cons_of_mem _ hs)) _)

/-- **Scripts are sessions**: a script none of whose steps writes a sync key leads a session from
the script's start to its end, with no operation in progress at either. -/
theorem Script.run_leads (s : Script) (hsteps : ∀ step ∈ s.steps, step.sparesKeys = true)
    (hreplies : s.start.SparesKeys) :
    Session.Leads ⟨s.start.shared, []⟩ ⟨s.run.2.shared, []⟩ :=
  (follows_runSteps (follows_serve s.replies.length) s.steps hsteps s.start).leads hreplies []

end Scenario

end MailSync
