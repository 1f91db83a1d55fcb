import MailSync.Proofs.Course
import MailSync.Proofs.Discipline

/-!
# How far an operation has got

An operation in progress has taken some of its steps, and what it has taken is the beginning of a
run that it may still complete. So what holds of the steps of every run, and of every beginning of
them, holds of every operation at every moment of a session.

* `Plan.Reaches.extends` : the steps taken so far are the beginning of a run.
* `Plan.throughout_append` : what holds of every step after those before it is shown part by part.
* `Account.course_of_runs` : an operation is refused its folder, or works and gives the folder back.
* `Account.Task.OnCourse.stage` : an operation has not begun, has been refused its folder, is at work
  or has ended.
* `Account.Session.Run.forall_tasks` : what every step of an operation keeps holds at every moment of
  a session.
* `Account.Session.Run.onCourse` : at every moment of a session every operation is on its course.
-/

namespace MailSync

namespace Plan

variable {α β : Type} {p q : Plan α} {t : List Step}

/-- The plan can take the steps, in their order, and has this left to do then. -/
inductive Reaches : Plan α → List Step → Plan α → Prop
  | refl (p : Plan α) : Reaches p [] p
  | send {d : Wire.Sync} {k : Except Failure Wire.Sync → Plan α} {r : Except Failure Wire.Sync}
      {t : List Step} {q : Plan α} : Reaches (k r) t q → Reaches (.send d k) (.sent d r :: t) q
  | ask {a : Query} {k : a.Answer → Plan α} {x : a.Answer} {t : List Step} {q : Plan α} :
      Reaches (k x) t q → Reaches (.ask a k) (.asked a x :: t) q

theorem Reaches.trans {q' : Plan α} {t' : List Step} (h : Reaches p t q) (h' : Reaches q t' q') :
    Reaches p (t ++ t') q' := by
  induction h with
  | refl p => exact h'
  | send _ ih => exact .send (ih h')
  | ask _ ih => exact .ask (ih h')

theorem Reaches.runs {t' : List Step} {a : α} (h : Reaches p t q) (h' : Runs q t' a) :
    Runs p (t ++ t') a := by
  induction h with
  | refl p => exact h'
  | send _ ih => exact .send (ih h')
  | ask _ ih => exact .ask (ih h')

/-- Where steps at the beginning of a run have led, the rest of the run follows. -/
theorem Reaches.rest_runs {t' : List Step} {a : α} (h : Reaches p t q) (h' : Runs p (t ++ t') a) :
    Runs q t' a := by
  induction h with
  | refl p => exact h'
  | send _ ih =>
    cases h' with
    | send h' => exact ih h'
  | ask _ ih =>
    cases h' with
    | ask h' => exact ih h'

/-- A run that begins with some steps gets somewhere by them, and goes on from there. -/
theorem Runs.reaches {t t' : List Step} {a : α} (h : Runs p (t ++ t') a) :
    ∃ q, Reaches p t q ∧ Runs q t' a := by
  induction t generalizing p with
  | nil => exact ⟨p, .refl p, h⟩
  | cons st t ih =>
    cases h with
    | send h =>
      obtain ⟨q, hq, hruns⟩ := ih h
      exact ⟨q, .send hq, hruns⟩
    | ask h =>
      obtain ⟨q, hq, hruns⟩ := ih h
      exact ⟨q, .ask hq, hruns⟩

/-- Every question has an answer. -/
instance (q : Query) : Nonempty q.Answer := by
  have hfails : ∀ {β : Type}, Nonempty (Except Failure β) := ⟨.error (.ofCause (.other ""))⟩
  cases q with
  | policyKey => exact ⟨none⟩
  | cancelled => exact ⟨false⟩
  | setPolicyKey | notify | release => exact ⟨()⟩
  | _ => exact hfails

/-- Every plan can be run to an end. -/
theorem exists_runs (p : Plan α) : ∃ t a, Runs p t a := by
  induction p with
  | done a => exact ⟨[], a, .done a⟩
  | send d k ih =>
    obtain ⟨t, a, h⟩ := ih (.error (.ofCause (.other "")))
    exact ⟨_, a, .send h⟩
  | ask q k ih =>
    obtain ⟨x⟩ := (inferInstance : Nonempty q.Answer)
    obtain ⟨t, a, h⟩ := ih x
    exact ⟨_, a, .ask h⟩

/-- The steps taken so far are the beginning of a run. -/
theorem Reaches.extends (h : Reaches p t q) : ∃ t' a, Runs p (t ++ t') a := by
  obtain ⟨t', a, h'⟩ := exists_runs q
  exact ⟨t', a, h.runs h'⟩

/-- One plan after another has got somewhere in the first, or has run the first and got somewhere in
the second. -/
theorem Reaches.of_bind {f : α → Plan β} {q : Plan β} (h : Reaches (p >>= f) t q) :
    (∃ p', q = p' >>= f ∧ Reaches p t p') ∨
      ∃ t₁ t₂ a, t = t₁ ++ t₂ ∧ Runs p t₁ a ∧ Reaches (f a) t₂ q := by
  induction p generalizing t with
  | done a => exact .inr ⟨[], t, a, rfl, .done a, h⟩
  | send d k ih =>
    cases h with
    | refl => exact .inl ⟨_, rfl, .refl _⟩
    | @send _ _ r t' _ h =>
      obtain ⟨p', rfl, h'⟩ | ⟨t₁, t₂, a, rfl, h₁, h₂⟩ := ih r h
      · exact .inl ⟨p', rfl, .send h'⟩
      · exact .inr ⟨.sent d r :: t₁, t₂, a, rfl, .send h₁, h₂⟩
  | ask a k ih =>
    cases h with
    | refl => exact .inl ⟨_, rfl, .refl _⟩
    | @ask _ _ x t' _ h =>
      obtain ⟨p', rfl, h'⟩ | ⟨t₁, t₂, b, rfl, h₁, h₂⟩ := ih x h
      · exact .inl ⟨p', rfl, .ask h'⟩
      · exact .inr ⟨.asked a x :: t₁, t₂, b, rfl, .ask h₁, h₂⟩

/-- What a plan asks may be asked, if it keeps a contract that reckons with everything. -/
theorem Runs.asked {C : Contract Unit} {post : α → Unit → Prop} {a : α} (h : Runs p t a)
    (hp : p.Keeps C post ()) (hC : ∀ st, C.admits () st) {q : Query} {x : q.Answer}
    (hq : .asked q x ∈ t) : C.mayAsk () q := by
  -- along the run: the contract holds for what is left after each step
  induction h with
  | done a => cases hq
  | send _ ih =>
    obtain heq | hq := List.mem_cons.1 hq
    · cases heq
    · exact ih (hp.2 _ (hC _)) hq
  | ask _ ih =>
    obtain heq | hq := List.mem_cons.1 hq
    · cases heq
      exact hp.1
    · exact ih (hp.2 _ (hC _)) hq

/-! ### Every step after those before it -/

/-- Every one of the steps has the property after those before it, which come after the given past.
The past is read from its latest step on. -/
def Throughout (P : List Step → Step → Prop) : List Step → List Step → Prop
  | _, [] => True
  | past, st :: t => P past st ∧ Throughout P (st :: past) t

variable {P : List Step → Step → Prop} {past t t' : List Step}

theorem throughout_append :
    Throughout P past (t ++ t') ↔ Throughout P past t ∧ Throughout P (t.reverse ++ past) t' := by
  induction t generalizing past with
  | nil => simp [Throughout]
  | cons st t ih => simp [Throughout, ih, and_assoc]

/-- What holds throughout holds of each step after what has come before it. -/
theorem Throughout.holds (h : Throughout P [] t) {st : Step} {before : List Step}
    (hst : st :: before <:+ t.reverse) : P before st := by
  obtain ⟨later, hlater⟩ := hst
  have ht : t = before.reverse ++ st :: later.reverse := by
    rw [← t.reverse_reverse, ← hlater]
    simp
  subst ht
  have hlast := (throughout_append.1 h).2.1
  rwa [List.append_nil, List.reverse_reverse] at hlast

/-- What each step has throughout may be used to show another property of it. -/
theorem Throughout.imp {Q : List Step → Step → Prop} (h : Throughout P past t)
    (himp : ∀ past, ∀ st ∈ t, P past st → Q past st) : Throughout Q past t := by
  induction t generalizing past with
  | nil => trivial
  | cons st t ih =>
    refine ⟨himp past st List.mem_cons_self h.1, ih h.2 ?_⟩
    intro past st' hst'
    exact himp past st' (List.mem_cons_of_mem _ hst')

/-- What holds of each of the steps, whatever came before it, holds throughout. -/
theorem throughout_of_forall_mem (h : ∀ past, ∀ st ∈ t, P past st) : Throughout P past t := by
  have htrue : Throughout (fun _ _ => True) past t := by
    induction t generalizing past with
    | nil => trivial
    | cons st t ih =>
      refine ⟨trivial, ih ?_⟩
      intro past st' hst'
      exact h past st' (List.mem_cons_of_mem _ hst')
  exact htrue.imp fun past st hst _ => h past st hst

end Plan

namespace Account

/-- An operation is refused its folder, and that is all, or it works and gives the folder back. -/
theorem course_of_runs {o : Operation} {t : List Plan.Step} {r : Except Failure o.Value}
    (h : Plan.Runs o.plan t r) :
    (∃ e, t = [.asked (.acquire o.folder) (.error e)] ∧ r = .error e) ∨
      ∃ guard t', t = .asked (.acquire o.folder) (.ok guard) ::
        (t' ++ [.asked (.release ⟨guard.folder⟩) ()]) ∧ Plan.Runs o.body t' r := by
  rw [plan_eq] at h
  obtain ⟨outcome, t', rfl, h'⟩ := Plan.runs_ask_iff.1 h
  cases outcome with
  | error e =>
    obtain ⟨rfl, rfl⟩ := Plan.runs_done_iff.1 h'
    exact .inl ⟨e, rfl, rfl⟩
  | ok guard =>
    obtain ⟨t₁, t₂, x, rfl, h₁, h₂⟩ := Plan.runs_bind_iff.1 h'
    obtain ⟨_, t₃, rfl, h₃⟩ := Plan.runs_ask_iff.1 h₂
    obtain ⟨rfl, rfl⟩ := Plan.runs_done_iff.1 h₃
    exact .inr ⟨guard, t₁, rfl, h₁⟩

/-! ### What an operation asks at work -/

/-- Only questions that concern one folder are asked. -/
def within (folder : String) : Plan.Contract Unit where
  maySend _ _ := True
  mayAsk _ q := q.Within folder
  admits _ _ := True
  after _ _ := ()

theorem within_lenient (folder : String) : (within folder).Lenient where
  mayAsk _ q hq := by cases q <;> trivial
  after _ _ _ _ := rfl

theorem keeps_within_readKey {folder : String} :
    Job.Keeps (within folder) (fun _ _ => True) (fun _ _ => True) (Exchange.readKey folder) () :=
  Exchange.keeps_readKey trivial (fun _ _ => trivial) fun _ _ _ => trivial

theorem keeps_within_writeKey {folder key : String} :
    Job.Keeps (within folder) (fun _ _ => True) (fun _ _ => True)
      (Exchange.writeKey folder key) () :=
  Exchange.keeps_writeKey ⟨rfl, rfl⟩ (fun _ => trivial) fun _ _ _ => trivial

theorem keeps_within_advance {folder : String} {d : Wire.Sync} :
    Job.Keeps (within folder) (fun _ _ => True) (fun _ _ => True)
      (FolderSync.advance folder d) () :=
  FolderSync.keeps_advance (within_lenient folder) (J := fun _ => True) trivial
    (fun _ _ => trivial) (fun _ _ _ _ => trivial) (fun _ _ _ => trivial)
    fun _ _ _ _ _ _ _ _ => keeps_within_writeKey

theorem keeps_within_deliverAll {folder : String} {items : List Wire.Item} :
    Job.Keeps (within folder) (fun _ _ => True) (fun _ _ => True)
      (FolderSync.deliverAll folder items) () := by
  refine FolderSync.keeps_deliverAll (I := fun _ _ => True) trivial fun item rest _ _ => ?_
  refine FolderSync.keeps_deliver (within_lenient folder) (fun _ _ => trivial) fun id _ => ?_
  refine ⟨Exchange.folder_materialize folder id item, fun r _ => ?_⟩
  cases r <;> trivial

theorem keeps_within_sync {folder : String} {config : SyncConfig} {cancellable : Bool} :
    Plan.Keeps (within folder) (Job.Ends (fun _ _ => True) fun _ _ => True)
      (FolderSync.sync folder config cancellable) () := by
  have hC := within_lenient folder
  refine FolderSync.keeps_sync hC (FolderSync.keeps_pull hC (I := fun _ _ _ => True)
    keeps_within_readKey (fun _ _ => keeps_within_advance) (fun _ _ _ _ _ => ?_)
    (fun _ _ _ _ => ⟨trivial, trivial⟩) fun _ _ _ _ _ => trivial)
  exact keeps_within_advance.mono (fun _ _ _ => keeps_within_deliverAll) fun _ _ _ => trivial

theorem keeps_within_fetch {folder id : String} :
    Plan.Keeps (within folder) (Job.Ends (fun _ _ => True) fun _ _ => True)
      (MessageFetch.fetch folder id) () := by
  refine MessageFetch.keeps_fetch (within_lenient folder) (J := fun _ _ => True)
    keeps_within_readKey (fun _ _ _ => trivial) (fun _ _ _ _ _ => trivial)
    (fun _ _ _ _ => trivial) fun _ _ _ _ _ _ _ _ _ => ?_
  exact keeps_within_writeKey.mono (fun _ _ _ => ⟨fun _ => trivial, fun _ => trivial⟩)
    fun _ _ _ => trivial

theorem body_within (o : Operation) : o.body.Keeps (within o.folder) (fun _ _ => True) () := by
  cases o with
  | sync folder config => exact keeps_within_sync.mono fun _ _ _ => trivial
  | syncCancellable folder config => exact keeps_within_sync.mono fun _ _ _ => trivial
  | fetch folder id => exact keeps_within_fetch.mono fun _ _ _ => trivial

/-- An operation at work takes no folder into work and none out of it. -/
theorem lock?_eq_none_of_runs {o : Operation} {t : List Plan.Step} {r : Except Failure o.Value}
    (h : Plan.Runs o.body t r) : ∀ st ∈ t, st.lock? = none := by
  intro st hst
  cases st with
  | sent d r => rfl
  | asked q a =>
    have hq := h.asked (body_within o) (fun _ => trivial) hst
    cases q with
    | acquire | release => exact hq.elim
    | _ => rfl

namespace Task

/-- The operation has got where the steps that it has taken lead. -/
def OnCourse (t : Task) : Prop :=
  Plan.Reaches t.operation.plan t.past.reverse t.rest

/-- Where an operation stands. -/
inductive Stage (t : Task) : Prop
  /-- It has not begun. -/
  | waits (hpast : t.past = []) (hrest : t.rest = t.operation.plan)
  /-- It has been refused its folder, and has ended. -/
  | refused (e : Failure) (hpast : t.past = [.asked (.acquire t.folder) (.error e)])
      (hrest : t.rest = .done (.error e))
  /-- It has taken its folder into work, and is to give it back. -/
  | works (guard : FolderGuard) (past : List Plan.Step)
      (p : Plan (Except Failure t.operation.Value))
      (hpast : t.past = past ++ [.asked (.acquire t.folder) (.ok guard)])
      (hrest : t.rest = p >>= finish guard.folder) (hworks : t.works = true)
  /-- It has given its folder back, and has ended. -/
  | ended (guard : FolderGuard) (past : List Plan.Step) (r : Except Failure t.operation.Value)
      (hpast : t.past = .asked (.release ⟨guard.folder⟩) () ::
        (past ++ [.asked (.acquire t.folder) (.ok guard)]))
      (hrest : t.rest = .done r)

/-- An operation that has taken its folder into work and asked for no lock since is at work. -/
theorem works_of_past {t : Task} {folder : String} {guard : FolderGuard} {steps : List Plan.Step}
    (hpast : t.past = steps.reverse ++ [.asked (.acquire folder) (.ok guard)])
    (hnone : ∀ st ∈ steps, st.lock? = none) : t.works = true := by
  have hsteps : steps.reverse.findSome? Plan.Step.lock? = none :=
    List.findSome?_eq_none_iff.2 fun st hst => hnone st (List.mem_reverse.1 hst)
  rw [works, hpast, List.findSome?_append, hsteps]
  rfl

/-- An operation on its course has not begun, has been refused its folder, is at work or has ended.
-/
theorem OnCourse.stage {t : Task} (h : t.OnCourse) : t.Stage := by
  have hreverse : ∀ {l : List Plan.Step}, t.past.reverse = l → t.past = l.reverse := by
    rintro l rfl
    exact (List.reverse_reverse _).symm
  rw [OnCourse, plan_eq] at h
  generalize hpast : t.past.reverse = l at h
  generalize hrest : t.rest = q at h
  cases h with
  | refl => exact .waits (hreverse hpast) (hrest.trans (plan_eq _).symm)
  | @ask _ _ outcome l' _ h =>
    have hpast := hreverse hpast
    rw [List.reverse_cons] at hpast
    cases outcome with
    | error e =>
      cases h with
      | refl => exact .refused e hpast hrest
    | ok guard =>
      change Plan.Reaches (t.operation.body >>= finish guard.folder) l' q at h
      obtain ⟨p, rfl, h'⟩ | ⟨t₁, t₂, r, rfl, h₁, h₂⟩ := h.of_bind
      · -- in the middle of the work, which could go on to an end
        obtain ⟨t', r, hruns⟩ := h'.extends
        refine .works guard _ p hpast hrest (works_of_past hpast fun st hst => ?_)
        exact lock?_eq_none_of_runs hruns st (List.mem_append_left _ hst)
      · -- at the end of the work, where the folder is still to be given back or has been
        cases h₂ with
        | refl =>
          rw [List.append_nil] at hpast
          exact .works guard _ (.done r) hpast hrest (works_of_past hpast (lock?_eq_none_of_runs h₁))
        | @ask _ _ _ t₃ _ h₃ =>
          cases h₃ with
          | refl =>
            rw [List.reverse_concat] at hpast
            exact .ended guard t₁.reverse r hpast hrest

theorem OnCourse.take {t : Task} (h : t.OnCourse) {st : Plan.Step}
    {p : Plan (Except Failure t.operation.Value)} (hst : Plan.Reaches t.rest [st] p) :
    (t.take st p).OnCourse := by
  have hreaches := h.trans hst
  rw [← List.reverse_cons] at hreaches
  exact hreaches

/-- An operation on its course stays on it, whatever it hears. -/
theorem OnCourse.hear {t : Task} (h : t.OnCourse) {d : Wire.Sync}
    {k : Except Failure Wire.Sync → Plan (Except Failure t.operation.Value)}
    (hrest : t.rest = .send d k) (r : Except Failure Wire.Sync) :
    (t.take (.sent d r) (k r)).OnCourse := by
  refine h.take ?_
  rw [hrest]
  exact .send (.refl _)

/-- An operation on its course stays on it, whatever the answer to its question. -/
theorem OnCourse.ask {t : Task} (h : t.OnCourse) {q : Query}
    {k : q.Answer → Plan (Except Failure t.operation.Value)} (hrest : t.rest = .ask q k)
    (a : q.Answer) : (t.take (.asked q a) (k a)).OnCourse := by
  refine h.take ?_
  rw [hrest]
  exact .ask (.refl _)

end Task

namespace Session

variable {b₀ b : Session} {τ : List Event}

/-- What holds of an operation when it is started, and is kept by its steps, holds of every operation
at every moment of a session. -/
theorem Run.forall_tasks {P : Task → Prop} (hstart : ∀ o, P (Task.start o))
    (hwait : ∀ t, P t → P t.wait)
    (hhear : ∀ t d k r, t.rest = .send d k → P t → P (t.take (.sent d r) (k r)))
    (hask : ∀ t s q k a s', t.rest = .ask q k → Answers s q a s' → P t →
      P (t.take (.asked q a) (k a)))
    (hidle : b₀.Idle) (hrun : b₀.Run τ b) : ∀ t ∈ b.tasks, P t := by
  induction hrun with
  | nil => simp [hidle.tasks]
  | snoc _ hm ih =>
    cases hm with
    | starts o => exact List.forall_mem_cons.2 ⟨hstart o, ih⟩
    | sends =>
      obtain ⟨ht, hts⟩ := List.forall_mem_cons.1 ih
      exact List.forall_mem_cons.2 ⟨hwait _ ht, hts⟩
    | hears r hrest =>
      obtain ⟨ht, hts⟩ := List.forall_mem_cons.1 ih
      exact List.forall_mem_cons.2 ⟨hhear _ _ _ r hrest ht, hts⟩
    | asks hrest ha =>
      obtain ⟨ht, hts⟩ := List.forall_mem_cons.1 ih
      exact List.forall_mem_cons.2 ⟨hask _ _ _ _ _ _ hrest ha ht, hts⟩
    | returns => exact (List.forall_mem_cons.1 ih).2
    | outside => exact ih

/-- At every moment of a session every operation is on its course. -/
theorem Run.onCourse (hidle : b₀.Idle) (hrun : b₀.Run τ b) : ∀ t ∈ b.tasks, t.OnCourse := by
  refine hrun.forall_tasks (fun o => .refl _) (fun t ht => ht) ?_ ?_ hidle
  · exact fun t d k r hrest ht => ht.hear hrest r
  · exact fun t s q k a s' hrest _ ht => ht.ask hrest a

/-- The innermost operation gets where steps that it can take lead. -/
theorem Run.reaches {s s' : Shared} {ts : List Task} {o : Operation} {past : List Plan.Step}
    {p q : Plan (Except Failure o.Value)} {t : List Plan.Step}
    (hrun : b₀.Run τ ⟨s, ⟨o, past, p, false⟩ :: ts⟩) (hp : Plan.Reaches p t q)
    (hs : AnswersAll s t s') :
    ∃ τ', b₀.Run τ' ⟨s', ⟨o, t.reverse ++ past, q, false⟩ :: ts⟩ := by
  induction hp generalizing τ past s with
  | refl p =>
    cases hs
    exact ⟨τ, hrun⟩
  | @send d k r t q _ ih =>
    cases hs with
    | sent _ _ hs =>
      obtain ⟨τ', h⟩ := ih ((hrun.snoc (.sends rfl rfl)).snoc (.hears r rfl rfl)) hs
      exact ⟨τ', by simpa [Task.take, Task.wait] using h⟩
  | @ask q' k x t q _ ih =>
    cases hs with
    | asked ha hs =>
      obtain ⟨τ', h⟩ := ih (hrun.snoc (.asks rfl ha)) hs
      exact ⟨τ', by simpa [Task.take] using h⟩

/-- An operation that asks for its folder gets the guard of that folder, or hears that the folder is
busy. -/
theorem Run.acquired (hidle : b₀.Idle) (hrun : b₀.Run τ b) {t : Task} (ht : t ∈ b.tasks)
    {folder : String} {a : Except Failure FolderGuard} (ha : .asked (.acquire folder) a ∈ t.past) :
    a = .ok ⟨folder⟩ ∨ a = .error (.ofCause (.folderBusy folder)) := by
  have hall : ∀ u ∈ b.tasks, ∀ folder a, .asked (.acquire folder) a ∈ u.past →
      a = .ok ⟨folder⟩ ∨ a = .error (.ofCause (.folderBusy folder)) := by
    refine hrun.forall_tasks (fun o folder a h => ?_) (fun _ hu => hu) ?_ ?_ hidle
    · cases h
    · intro u d k r _ hu folder a h
      obtain h | h := List.mem_cons.1 h
      · cases h
      · exact hu folder a h
    · intro u s q k x s' _ hx hu folder a h
      obtain h | h := List.mem_cons.1 h
      · cases h
        cases hx with
        | acquire hlocks => exact .inl (congrArg _ (FolderLocks.acquire_eq_ok_iff.1 hlocks).2.1)
        | refuse hlocks => exact .inr (congrArg _ (FolderLocks.acquire_eq_error_iff.1 hlocks).2)
      · exact hu folder a h
  exact hall t ht folder a ha

theorem Run.guard (hidle : b₀.Idle) (hrun : b₀.Run τ b) {t : Task} (ht : t ∈ b.tasks)
    {folder : String} {guard : FolderGuard} (hguard : .asked (.acquire folder) (.ok guard) ∈ t.past) :
    guard = ⟨folder⟩ := by
  obtain h | h := hrun.acquired hidle ht hguard
  · exact Except.ok.inj h
  · cases h

theorem Run.refusal (hidle : b₀.Idle) (hrun : b₀.Run τ b) {t : Task} (ht : t ∈ b.tasks)
    {folder : String} {e : Failure} (he : .asked (.acquire folder) (.error e) ∈ t.past) :
    e = .ofCause (.folderBusy folder) := by
  obtain h | h := hrun.acquired hidle ht he
  · cases h
  · exact Except.error.inj h

end Session

end Account

end MailSync
