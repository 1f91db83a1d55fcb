import MailSync.Sync.Exchange

/-!
# Contracts of plans

What a plan can be relied on for, however its surroundings answer it. A contract works over a state:
it says which requests may be sent and which questions asked, which replies and answers are reckoned
with, and what each step makes of the state. A plan keeps a contract if everything that it sends and
asks is allowed, as long as everything that it hears is reckoned with.

* `Plan.keeps_bind` : one plan after another keeps a contract if the second keeps it from wherever
  the first may end.
* `Plan.Runs.ends` : a plan that keeps a contract ends as promised in every run.
* `Job.keeps_bind` : the same for jobs, which end well or badly.
-/

namespace MailSync

namespace Plan

variable {α β σ : Type}

/-- A step of a plan: a request and its reply, or a question and its answer. -/
inductive Step where
  /-- A request has been sent, and this has come back. -/
  | sent (d : Wire.Sync) (reply : Except Failure Wire.Sync)
  /-- A question has been asked, and this is the answer. -/
  | asked (q : Query) (a : q.Answer)

/-- The plan can take the steps, in their order, and end with the value. -/
inductive Runs : Plan α → List Step → α → Prop
  | done (a : α) : Runs (.done a) [] a
  | send {d : Wire.Sync} {k : Except Failure Wire.Sync → Plan α} {r : Except Failure Wire.Sync}
      {t : List Step} {a : α} : Runs (k r) t a → Runs (.send d k) (.sent d r :: t) a
  | ask {q : Query} {k : q.Answer → Plan α} {x : q.Answer} {t : List Step} {a : α} :
      Runs (k x) t a → Runs (.ask q k) (.asked q x :: t) a

theorem Runs.bind {p : Plan α} {f : α → Plan β} {t t' : List Step} {a : α} {b : β}
    (h : Runs p t a) (h' : Runs (f a) t' b) : Runs (p >>= f) (t ++ t') b := by
  induction h with
  | done a => exact h'
  | send _ ih => exact .send (ih h')
  | ask _ ih => exact .ask (ih h')

/-- What may be done over a state, what is reckoned with, and what comes of it. -/
structure Contract (σ : Type) where
  /-- The request may be sent. -/
  maySend : σ → Wire.Sync → Prop
  /-- The question may be asked. -/
  mayAsk : σ → Query → Prop
  /-- The step is reckoned with. -/
  admits : σ → Step → Prop
  /-- The state after a step. -/
  after : σ → Step → σ

/-- The plan keeps the contract from a state on, and ends as promised. -/
def Keeps (C : Contract σ) (post : α → σ → Prop) : Plan α → σ → Prop
  | done a, s => post a s
  | send d k, s =>
    C.maySend s d ∧
      ∀ r, C.admits s (.sent d r) → (k r).Keeps C post (C.after s (.sent d r))
  | ask q k, s =>
    C.mayAsk s q ∧
      ∀ a, C.admits s (.asked q a) → (k a).Keeps C post (C.after s (.asked q a))

variable {C D : Contract σ} {post post' : α → σ → Prop}

theorem keeps_bind {post : β → σ → Prop} (p : Plan α) (f : α → Plan β) (s : σ) :
    (p >>= f).Keeps C post s ↔ p.Keeps C (fun a s' => (f a).Keeps C post s') s := by
  induction p generalizing s with
  | done a => exact Iff.rfl
  | send d k ih => exact and_congr_right fun _ => forall₂_congr fun r _ => ih r _
  | ask q k ih => exact and_congr_right fun _ => forall₂_congr fun a _ => ih a _

theorem Keeps.mono {p : Plan α} {s : σ} (h : p.Keeps C post s)
    (hpost : ∀ a s', post a s' → post' a s') : p.Keeps C post' s := by
  induction p generalizing s with
  | done a => exact hpost a s h
  | send d k ih => exact ⟨h.1, fun r hr => ih r (h.2 r hr)⟩
  | ask q k ih => exact ⟨h.1, fun a ha => ih a (h.2 a ha)⟩

/-- A contract that allows more and reckons with less is kept too. -/
theorem Keeps.weaken {p : Plan α} {s : σ} (h : p.Keeps C post s) (hafter : D.after = C.after)
    (hsend : ∀ s d, C.maySend s d → D.maySend s d) (hask : ∀ s q, C.mayAsk s q → D.mayAsk s q)
    (hadmits : ∀ s st, D.admits s st → C.admits s st) : p.Keeps D post s := by
  induction p generalizing s with
  | done a => exact h
  | send d k ih =>
    refine ⟨hsend s d h.1, fun r hr => ?_⟩
    rw [hafter]
    exact ih r (h.2 r (hadmits s _ hr))
  | ask q k ih =>
    refine ⟨hask s q h.1, fun a ha => ?_⟩
    rw [hafter]
    exact ih a (h.2 a (hadmits s _ ha))

/-- Every step is reckoned with at its turn. -/
def Contract.AdmitsAll (C : Contract σ) : σ → List Step → Prop
  | _, [] => True
  | s, st :: t => C.admits s st ∧ C.AdmitsAll (C.after s st) t

/-- A run of steps that are all reckoned with ends as promised. -/
theorem Runs.ends {p : Plan α} {t : List Step} {a : α} {s : σ} (h : Runs p t a)
    (hp : p.Keeps C post s) (ht : C.AdmitsAll s t) : post a (t.foldl C.after s) := by
  induction h generalizing s with
  | done a => exact hp
  | send _ ih => exact ih (hp.2 _ ht.1) ht.2
  | ask _ ih => exact ih (hp.2 _ ht.1) ht.2

end Plan

namespace Job

variable {α β σ : Type}

theorem runs_bind {j : Job α} {f : α → Job β} {t t' : List Plan.Step} {a : α}
    {r : Except Failure β} (h : Plan.Runs j.run t (.ok a)) (h' : Plan.Runs (f a).run t' r) :
    Plan.Runs (j >>= f).run (t ++ t') r :=
  h.bind h'

theorem runs_bind_error {j : Job α} {f : α → Job β} {t : List Plan.Step} {e : Failure}
    (h : Plan.Runs j.run t (.error e)) : Plan.Runs (j >>= f).run t (.error e) := by
  have hj : Plan.Runs (j >>= f).run (t ++ []) (.error e) := h.bind (.done _)
  rwa [List.append_nil] at hj

/-- The end of a job is as promised: well or badly. -/
def Ends (ok : α → σ → Prop) (bad : Failure → σ → Prop) : Except Failure α → σ → Prop
  | .ok a => ok a
  | .error e => bad e

/-- The job keeps the contract, and ends well or badly as promised. -/
def Keeps (C : Plan.Contract σ) (ok : α → σ → Prop) (bad : Failure → σ → Prop) (j : Job α)
    (s : σ) : Prop :=
  Plan.Keeps C (Ends ok bad) j.run s

variable {C : Plan.Contract σ} {ok ok' : α → σ → Prop} {bad bad' : Failure → σ → Prop} {s : σ}

theorem keeps_bind {ok : β → σ → Prop} (j : Job α) (f : α → Job β) :
    Keeps C ok bad (j >>= f) s ↔ Keeps C (fun a s' => Keeps C ok bad (f a) s') bad j s := by
  simp only [Keeps, ExceptT.run_bind, Plan.keeps_bind]
  constructor
  all_goals
    intro hj
    refine hj.mono fun r s' hr => ?_
    cases r with
    | ok a => exact hr
    | error e => exact hr

theorem Keeps.mono {j : Job α} (h : Keeps C ok bad j s) (hok : ∀ a s', ok a s' → ok' a s')
    (hbad : ∀ e s', bad e s' → bad' e s') : Keeps C ok' bad' j s := by
  refine Plan.Keeps.mono h fun r s' hr => ?_
  cases r with
  | ok a => exact hok a s' hr
  | error e => exact hbad e s' hr

@[simp] theorem keeps_liftExcept (r : Except Failure α) :
    Keeps C ok bad (liftM r) s ↔ Ends ok bad r s :=
  Iff.rfl

end Job

end MailSync
