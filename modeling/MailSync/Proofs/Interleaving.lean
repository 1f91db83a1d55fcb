import MailSync.Proofs.Cursor
import MailSync.Proofs.FolderContents
import MailSync.Proofs.Provisioning
import MailSync.Proofs.Trips

/-!
# Operations on different folders

Operations on different folders do not get in each other's way. As long as the surroundings are
steady, so that a client answers the requests for each folder from a list of its own and nothing
fails, an operation takes the same steps to the same end, whatever is started while it waits for a
reply.

* `Account.runs_unique` : an operation that is alone with its folder has one run.
* `Account.Session.Run.undisturbed` : among operations on other folders, an operation does what it
  does alone with its folder.
* `Account.Session.Run.inTurns` : operations may be performed one after the other, each as it is
  alone with its folder.
* `Account.Session.folders_independent` : however operations on different folders are started inside
  of each other, they do what they do one after the other, in any order.
-/

namespace MailSync

/-- The folder that a request is for. -/
def Wire.Sync.folder? (d : Wire.Sync) : Option String :=
  d.collection?.bind (·.collectionId)

namespace Account

open Exchange

/-! ### What happens in a session -/

/-- The operation that an event starts. -/
def Event.started? : Event → Option Operation
  | .starts o => some o
  | _ => none

/-- The operation that ends by an event. -/
def Event.ended? : Event → Option Operation
  | .returns o _ => some o
  | _ => none

/-- The step that an operation on a folder takes by an event. -/
def Event.stepIn? (f : String) : Event → Option Plan.Step
  | .takes o st => if o.folder = f then some st else none
  | _ => none

/-- The event is the reply to a request for a folder. -/
def Event.repliesFor (f : String) : Event → Bool
  | .takes _ (.sent d _) => d.folder? = some f
  | _ => false

/-- The operations that are started. -/
def started (τ : List Event) : List Operation :=
  τ.filterMap Event.started?

/-- The operations that end. -/
def ended (τ : List Event) : List Operation :=
  τ.filterMap Event.ended?

/-- The steps that are taken by operations on a folder. -/
def stepsIn (f : String) (τ : List Event) : List Plan.Step :=
  τ.filterMap (Event.stepIn? f)

/-- The number of requests for a folder that have been answered. -/
def answered (f : String) (τ : List Event) : Nat :=
  τ.countP (Event.repliesFor f)

/-- The surroundings are steady at an event after others: nobody can cancel an operation, the client
answers the requests for each folder with the replies for that folder, one after the other, no call
to the store fails, and nothing is changed from outside. -/
def Event.Steady (replies : String → Nat → Except Failure Wire.Sync) (before : List Event) :
    Event → Prop
  | .starts o => o.cancellable = false
  | .takes _ (.sent d r) => ∀ f, d.folder? = some f → r = replies f (answered f before)
  | .takes _ (.asked (.readExtra _ _) a) => ∃ value, a = .ok value
  | .takes _ (.asked (.writeExtra _ _ _) a) => a = .ok ()
  | .takes _ (.asked (.save _ _) a) => a = .ok ()
  | .takes _ (.asked _ _) | .sends _ _ | .returns _ _ => True
  | .outside => False

/-- The surroundings are steady throughout the events. -/
def Steady (replies : String → Nat → Except Failure Wire.Sync) (τ : List Event) : Prop :=
  ∀ before e, before ++ [e] <+: τ → e.Steady replies before

/-- The operations are performed one after the other. -/
def InTurns : List Operation → List Event → Prop
  | [], τ => τ = []
  | o :: os, τ => ∃ t r τ', τ = Event.ofOperation o t r ++ τ' ∧ InTurns os τ'

variable {replies : String → Nat → Except Failure Wire.Sync} {key f : String} {τ τ' : List Event}
  {e : Event} {o : Operation} {s₀ : Store} {t t' past : List Plan.Step}

theorem steady_nil : Steady replies [] := by
  intro before e hinitial
  simp at hinitial

theorem steady_concat : Steady replies (τ ++ [e]) ↔ Steady replies τ ∧ e.Steady replies τ := by
  constructor
  · intro h
    exact ⟨fun before e' hinitial => h before e' (hinitial.trans (List.prefix_append _ _)),
      h τ e (List.prefix_refl _)⟩
  · rintro ⟨h, he⟩ before e' hinitial
    rcases List.prefix_concat_iff.1 hinitial with heq | hinitial
    · obtain ⟨rfl, hlast⟩ := List.append_inj' heq rfl
      rwa [List.singleton_inj.1 hlast]
    · exact h before e' hinitial

@[simp] theorem started_concat : started (τ ++ [e]) = started τ ++ e.started?.toList := by
  cases h : e.started? <;> simp [started, h]

@[simp] theorem ended_concat : ended (τ ++ [e]) = ended τ ++ e.ended?.toList := by
  cases h : e.ended? <;> simp [ended, h]

@[simp] theorem stepsIn_concat : stepsIn f (τ ++ [e]) = stepsIn f τ ++ (e.stepIn? f).toList := by
  cases h : e.stepIn? f <;> simp [stepsIn, h]

theorem stepsIn_takes_self (o : Operation) (st : Plan.Step) :
    stepsIn o.folder (τ ++ [.takes o st]) = stepsIn o.folder τ ++ [st] := by
  simp [Event.stepIn?]

theorem stepsIn_takes_of_ne (st : Plan.Step) (h : f ≠ o.folder) :
    stepsIn f (τ ++ [.takes o st]) = stepsIn f τ := by
  simp [Event.stepIn?, Ne.symm h]

@[simp] theorem answered_concat :
    answered f (τ ++ [e]) = answered f τ + if e.repliesFor f then 1 else 0 := by
  simp [answered, List.countP_append, List.countP_cons]

/-! ### An operation left to itself -/

/-- The number of requests among steps. -/
def requests (t : List Plan.Step) : Nat :=
  t.countP (·.exchange?.isSome)

/-- The step is answered as if the operation were alone with its folder: the client gives the next
reply for the folder, the store holds what it has held before and what the operation has stored
since, and a policy key is held. -/
def Alone (f : String) (replies : Nat → Except Failure Wire.Sync) (key : String) (s₀ : Store)
    (past : List Plan.Step) : Plan.Step → Prop
  | .sent d r => d.folder? = some f ∧ r = replies (requests past)
  | .asked .policyKey a => a = some key
  | .asked (.readExtra folder name) a =>
    folder = f ∧ a = .ok ((s₀.replay past.reverse).extra? f name)
  | .asked (.writeExtra folder _ _) a => folder = f ∧ a = .ok ()
  | .asked (.save m _) a => m.folder = f ∧ a = .ok ()
  | .asked (.acquire folder) a => folder = f ∧ a = .ok ⟨f⟩
  | .asked (.notify _) _ | .asked (.release _) _ => True
  | .asked (.setPolicyKey _) _ | .asked .handshake _ | .asked .cancelled _ => False

/-- An operation that is alone with its folder hears one answer to a question. -/
theorem Alone.unique {replies : Nat → Except Failure Wire.Sync} {q : Query} {a a' : q.Answer}
    (h : Alone f replies key s₀ past (.asked q a))
    (h' : Alone f replies key s₀ past (.asked q a')) : a = a' := by
  cases q with
  | policyKey => exact Eq.trans h (Eq.symm h')
  | readExtra | writeExtra | save | acquire => exact h.2.trans h'.2.symm
  | notify | release => rfl
  | setPolicyKey | handshake | cancelled => exact h.elim

/-- There is one run of a plan in which it is alone with its folder. -/
theorem runs_unique {α : Type} {p : Plan α} {a a' : α} {replies : Nat → Except Failure Wire.Sync}
    (h : Plan.Runs p t a) (h' : Plan.Runs p t' a')
    (halone : Plan.Throughout (Alone f replies key s₀) past t)
    (halone' : Plan.Throughout (Alone f replies key s₀) past t') : t = t' ∧ a = a' := by
  -- along the first run: the second one takes its steps
  induction h generalizing past t' with
  | done a =>
    obtain ⟨rfl, rfl⟩ := Plan.runs_done_iff.1 h'
    exact ⟨rfl, rfl⟩
  | send _ ih =>
    obtain ⟨r', t₁, rfl, h₁⟩ := Plan.runs_send_iff.1 h'
    obtain rfl := halone.1.2.trans halone'.1.2.symm
    obtain ⟨rfl, rfl⟩ := ih h₁ halone.2 halone'.2
    exact ⟨rfl, rfl⟩
  | ask _ ih =>
    obtain ⟨x', t₁, rfl, h₁⟩ := Plan.runs_ask_iff.1 h'
    obtain rfl := halone.1.unique halone'.1
    obtain ⟨rfl, rfl⟩ := ih h₁ halone.2 halone'.2
    exact ⟨rfl, rfl⟩

/-- An operation that is alone with its folder, where no reply demands provisioning, is not
alarmed. -/
theorem not_alarming {replies : Nat → Except Failure Wire.Sync}
    (hreplies : ∀ n, ¬ Demands (replies n))
    (h : Plan.Throughout (Alone f replies key s₀) past t) : ∀ st ∈ t, ¬ Alarming st := by
  induction t generalizing past with
  | nil => simp
  | cons st t ih =>
    refine List.forall_mem_cons.2 ⟨?_, ih h.2⟩
    have hst := h.1
    cases st with
    | sent d r =>
      rw [hst.2]
      exact hreplies _
    | asked q a =>
      cases q with
      | policyKey =>
        intro hnone
        cases Eq.trans (Eq.symm hnone) hst
      | _ => exact not_false

/-! ### Sessions of operations on different folders -/

theorem Steady.not_cancellable (h : Steady replies τ) : ∀ o ∈ started τ, o.cancellable = false := by
  intro o ho
  obtain ⟨e, he, heo⟩ := List.mem_filterMap.1 ho
  obtain ⟨before, after, rfl⟩ := List.append_of_mem he
  cases e with
  | starts o' =>
    cases heo
    exact h before (.starts o) ⟨after, by simp⟩
  | _ => cases heo

namespace Session

variable {b₀ b b' : Session} {s s' : Shared} {u : Task} {ts : List Task}

/-- Every operation that has been started is in progress or has ended. -/
theorem Run.started_perm (hidle : b₀.Idle) (hrun : b₀.Run τ b) :
    (started τ).Perm (b.tasks.map Task.operation ++ ended τ) := by
  induction hrun with
  | nil =>
    rw [hidle.tasks]
    exact .refl _
  | snoc _ hm ih =>
    rw [started_concat, ended_concat]
    cases hm with
    | starts o =>
      simp only [Event.started?, Event.ended?, Option.toList_some, Option.toList_none,
        List.append_nil, List.map_cons, List.cons_append]
      exact (List.perm_append_singleton _ _).trans (ih.cons o)
    | @returns s u ts r hrest =>
      simp only [Event.started?, Event.ended?, Option.toList_some, Option.toList_none,
        List.append_nil, ← List.append_assoc]
      exact ih.trans (List.perm_append_singleton _ _).symm
    | sends | hears | asks | outside =>
      simp only [Event.started?, Event.ended?, Option.toList_none, List.append_nil]
      exact ih

/-- Where the operations that have been started are on different folders, nobody else has been on
the folder of the innermost one. -/
theorem Run.innermost_apart (hidle : b₀.Idle) (hrun : b₀.Run τ ⟨s, u :: ts⟩)
    (hfolders : ((started τ).map Operation.folder).Nodup) :
    u.operation ∈ started τ ∧ (∀ v ∈ ts, v.folder ≠ u.folder) ∧
      ∀ o ∈ ended τ, o.folder ≠ u.folder := by
  have hperm := hrun.started_perm hidle
  have hnodup := (hperm.map Operation.folder).nodup_iff.1 hfolders
  rw [List.map_cons, List.cons_append, List.map_cons, List.nodup_cons] at hnodup
  refine ⟨hperm.symm.subset List.mem_cons_self, fun v hv heq => ?_, fun o ho heq => ?_⟩
  · refine hnodup.1 (List.mem_map.2 ⟨v.operation, ?_, heq⟩)
    exact List.mem_append_left _ (List.mem_map_of_mem hv)
  · exact hnodup.1 (List.mem_map.2 ⟨o, List.mem_append_right _ ho, heq⟩)

/-- At a moment of a session, every operation has done what it does alone with its folder. -/
structure Undisturbed (replies : String → Nat → Except Failure Wire.Sync) (key : String)
    (b₀ : Session) (τ : List Event) (b : Session) : Prop where
  policyKey : b.shared.policyKey = some key
  store : ∀ f, b.shared.store.AgreeOn f (b₀.shared.store.replay (stepsIn f τ))
  answered : ∀ f, answered f τ = requests (stepsIn f τ)
  alone : ∀ f, Plan.Throughout (Alone f (replies f) key b₀.shared.store) [] (stepsIn f τ)
  fresh : ∀ f, f ∉ (started τ).map Operation.folder → stepsIn f τ = []
  tasks : ∀ u ∈ b.tasks, u.past.reverse = stepsIn u.folder τ
  ends : ∀ o r, .returns o r ∈ τ → Plan.Runs o.plan (stepsIn o.folder τ) r

namespace Undisturbed

/-- An event by which no operation takes a step. -/
theorem quiet (h : Undisturbed replies key b₀ τ b) (hstep : ∀ f, e.stepIn? f = none)
    (hreply : ∀ f, e.repliesFor f = false) (hshared : b'.shared = b.shared)
    (htasks : ∀ u ∈ b'.tasks, u.past.reverse = stepsIn u.folder τ)
    (hends : ∀ o r, e = .returns o r → Plan.Runs o.plan (stepsIn o.folder τ) r) :
    Undisturbed replies key b₀ (τ ++ [e]) b' := by
  have hsteps : ∀ f, stepsIn f (τ ++ [e]) = stepsIn f τ := by simp [hstep]
  constructor
  · rw [hshared]
    exact h.policyKey
  · intro f
    rw [hshared, hsteps]
    exact h.store f
  · intro f
    rw [hsteps, answered_concat, hreply]
    exact h.answered f
  · intro f
    rw [hsteps]
    exact h.alone f
  · intro f hf
    rw [hsteps]
    refine h.fresh f fun hmem => hf ?_
    rw [started_concat, List.map_append]
    exact List.mem_append_left _ hmem
  · intro u hu
    rw [hsteps]
    exact htasks u hu
  · intro o r hr
    rw [hsteps]
    rcases List.mem_append.1 hr with hr | hr
    · exact h.ends o r hr
    · exact hends o r (List.mem_singleton.1 hr).symm

/-- An operation takes a step as if it were alone with its folder. -/
theorem takes (h : Undisturbed replies key b₀ τ ⟨s, u :: ts⟩) {st : Plan.Step}
    {p : Plan (Except Failure u.operation.Value)}
    (hst : Alone u.folder (replies u.folder) key b₀.shared.store u.past st)
    (hkey : s'.policyKey = s.policyKey) (hstore : s'.store = s.store.after st)
    (hstarted : u.operation ∈ started τ) (hothers : ∀ v ∈ ts, v.folder ≠ u.folder)
    (hended : ∀ o ∈ ended τ, o.folder ≠ u.folder) :
    Undisturbed replies key b₀ (τ ++ [.takes u.operation st]) ⟨s', u.take st p :: ts⟩ := by
  have hself : stepsIn u.folder (τ ++ [.takes u.operation st]) = stepsIn u.folder τ ++ [st] :=
    stepsIn_takes_self u.operation st
  have hother : ∀ f, f ≠ u.folder → stepsIn f (τ ++ [.takes u.operation st]) = stepsIn f τ :=
    fun f hf => stepsIn_takes_of_ne st hf
  have hpast := h.tasks u List.mem_cons_self
  constructor
  · exact hkey.trans h.policyKey
  · intro f
    show s'.store.AgreeOn f _
    rw [hstore]
    by_cases hf : f = u.folder
    · subst hf
      rw [hself, Store.replay_concat]
      exact (h.store u.folder).after st
    · rw [hother f hf]
      refine (s.store.agreeOn_after ?_ ?_).trans (h.store f)
      · rintro folder name value a rfl
        exact hst.1.trans_ne (Ne.symm hf)
      · rintro m complete a rfl
        exact hst.1.trans_ne (Ne.symm hf)
  · intro f
    rw [answered_concat, h.answered f]
    by_cases hf : f = u.folder
    · subst hf
      rw [hself, requests, requests, List.countP_append, List.countP_singleton]
      cases st with
      | sent d r => simp [Event.repliesFor, hst.1, Plan.Step.exchange?]
      | asked q a => simp [Event.repliesFor, Plan.Step.exchange?]
    · rw [hother f hf]
      cases st with
      | sent d r => simp [Event.repliesFor, hst.1, Ne.symm hf]
      | asked q a => simp [Event.repliesFor]
  · intro f
    by_cases hf : f = u.folder
    · subst hf
      rw [hself]
      refine Plan.throughout_append.2 ⟨h.alone u.folder, ?_, trivial⟩
      rwa [← hpast, List.reverse_reverse, List.append_nil]
    · rw [hother f hf]
      exact h.alone f
  · intro f hf
    simp only [started_concat, Event.started?, Option.toList_none, List.append_nil] at hf
    have hne : f ≠ u.folder := by
      rintro rfl
      exact hf (List.mem_map_of_mem hstarted)
    rw [hother f hne]
    exact h.fresh f hf
  · refine List.forall_mem_cons.2 ⟨?_, fun v hv => ?_⟩
    · show (st :: u.past).reverse = stepsIn u.folder _
      rw [hself, List.reverse_cons, hpast]
    · rw [hother _ (hothers v hv)]
      exact h.tasks v (List.mem_cons_of_mem _ hv)
  · intro o r hr
    rcases List.mem_append.1 hr with hr | hr
    · rw [hother _ (hended o (List.mem_filterMap.2 ⟨_, hr, rfl⟩))]
      exact h.ends o r hr
    · cases List.mem_singleton.1 hr

variable (hidle : b₀.Idle) (hrun : b₀.Run τ ⟨s, u :: ts⟩)
include hidle hrun

/-- The reply that an operation hears is the next one for its folder. -/
theorem hears (h : Undisturbed replies key b₀ τ ⟨s, u :: ts⟩) {d : Wire.Sync}
    {r : Except Failure Wire.Sync}
    {k : Except Failure Wire.Sync → Plan (Except Failure u.operation.Value)}
    (hrest : u.rest = .send d k)
    (hsteady : (Event.takes u.operation (.sent d r)).Steady replies τ) :
    Alone u.folder (replies u.folder) key b₀.shared.store u.past (.sent d r) := by
  obtain ⟨-, -, ⟨c, hc, hfolder, -⟩, -⟩ := (hrun.cursor_sound hidle).sending hrest
  have hd : d.folder? = some u.folder := by rw [Wire.Sync.folder?, hc, Option.bind_some, hfolder]
  refine ⟨hd, (hsteady u.folder hd).trans ?_⟩
  rw [h.answered, ← h.tasks u List.mem_cons_self, requests, requests, List.countP_reverse]

/-- An operation that asks for a folder is not at work. -/
theorem works_of_acquire {folder : String}
    {k : Except Failure FolderGuard → Plan (Except Failure u.operation.Value)}
    (hrest : u.rest = .ask (.acquire folder) k) : u.works = false ∧ folder = u.folder := by
  obtain ⟨hworks, hplan, -⟩ | ⟨-, -, p, hp, hkeeps⟩ :=
    ((hrun.cursor_sound hidle).fits u List.mem_cons_self).fresh_or_works (by simp [hrest])
  · rw [hrest, plan_eq] at hplan
    cases hplan
    exact ⟨hworks, rfl⟩
  · rw [hrest] at hp
    cases p with
    | done r | send d k' => cases hp
    | ask q k' =>
      cases hp
      exact hkeeps.1.elim

/-- An operation that asks for its folder gets it. -/
theorem acquires {folder : String}
    {k : Except Failure FolderGuard → Plan (Except Failure u.operation.Value)}
    {a : Except Failure FolderGuard} (hrest : u.rest = .ask (.acquire folder) k)
    (hothers : ∀ v ∈ ts, v.folder ≠ u.folder) (ha : Answers s (.acquire folder) a s') :
    folder = u.folder ∧ a = .ok ⟨u.folder⟩ := by
  obtain ⟨hworks, rfl⟩ := works_of_acquire hidle hrun hrest
  cases ha with
  | acquire hlocks => exact ⟨rfl, congrArg Except.ok (FolderLocks.acquire_eq_ok_iff.1 hlocks).2.1⟩
  | refuse hlocks =>
    -- who is at work on the folder would be another operation on it
    have hactive := (FolderLocks.acquire_eq_error_iff.1 hlocks).1
    have hfolders : s.locks.active = foldersAtWork (u :: ts) := (hrun.cursor_sound hidle).active
    rw [FolderLocks.isActive, List.contains_iff_mem, hfolders, foldersAtWork_cons, hworks]
      at hactive
    obtain ⟨v, hv, -, hfolder⟩ := mem_foldersAtWork.1 hactive
    exact absurd hfolder (hothers v hv)

/-- The answer to a question is the one that the operation hears alone with its folder. -/
theorem asks (h : Undisturbed replies key b₀ τ ⟨s, u :: ts⟩)
    (hreplies : ∀ f n, ¬ Demands (replies f n)) (hcancellable : u.operation.cancellable = false)
    (hothers : ∀ v ∈ ts, v.folder ≠ u.folder) {q : Query} {a : q.Answer}
    {k : q.Answer → Plan (Except Failure u.operation.Value)} (hrest : u.rest = .ask q k)
    (ha : Answers s q a s') (hsteady : (Event.takes u.operation (.asked q a)).Steady replies τ) :
    Alone u.folder (replies u.folder) key b₀.shared.store u.past (.asked q a) ∧
      s'.policyKey = s.policyKey := by
  have hpast := h.tasks u List.mem_cons_self
  have hcourse := hrun.onCourse hidle u List.mem_cons_self
  have hcalm : Calm u.operation u.past (.asked q a) := (hcourse.ask hrest a).calm List.suffix_rfl
  have hquiet : ∀ st ∈ u.past, ¬ Alarming st := by
    intro st hst
    refine not_alarming (hreplies u.folder) (h.alone u.folder) st ?_
    rwa [← hpast, List.mem_reverse]
  cases ha with
  | policyKey => exact ⟨h.policyKey, rfl⟩
  | setPolicyKey | handshake =>
    obtain ⟨st, hst, halarm⟩ := hcalm
    exact absurd halarm (hquiet st hst)
  | read folder name =>
    obtain rfl : folder = u.folder := hcalm
    refine ⟨⟨rfl, congrArg Except.ok ?_⟩, rfl⟩
    rw [hpast]
    exact (h.store u.folder).extra?_eq name
  | write =>
    obtain hq | hq | ⟨-, hask⟩ := (hrun.cursor_sound hidle).asking hrest
    · cases hq
    · cases hq
    · exact ⟨⟨(within_of_coherence hask).1, rfl⟩, rfl⟩
  | save =>
    obtain hq | hq | ⟨-, hask⟩ := (hrun.cursor_sound hidle).asking hrest
    · cases hq
    · cases hq
    · exact ⟨⟨within_of_coherence hask, rfl⟩, rfl⟩
  | readFails =>
    obtain ⟨value, hvalue⟩ := hsteady
    cases hvalue
  | writeFails | saveFails => cases hsteady
  | cancelled => exact absurd (hcancellable.symm.trans hcalm) Bool.false_ne_true
  | notify | release => exact ⟨trivial, rfl⟩
  | acquire hlocks => exact ⟨acquires hidle hrun hrest hothers (.acquire hlocks), rfl⟩
  | refuse hlocks => exact ⟨acquires hidle hrun hrest hothers (.refuse hlocks), rfl⟩

end Undisturbed

/-- At every moment of a session on different folders in steady surroundings, every operation has
done what it does alone with its folder. -/
theorem Run.undisturbed (hidle : b₀.Idle) (hkey : b₀.shared.policyKey = some key)
    (hreplies : ∀ f n, ¬ Demands (replies f n)) (hrun : b₀.Run τ b) (hsteady : Steady replies τ)
    (hfolders : ((started τ).map Operation.folder).Nodup) : Undisturbed replies key b₀ τ b := by
  induction hrun with
  | nil =>
    refine ⟨hkey, fun f => .refl f _, fun _ => rfl, fun _ => trivial, fun _ _ => rfl, ?_, ?_⟩
    · simp [hidle.tasks]
    · simp
  | @snoc τ b b' e hrun hm ih =>
    obtain ⟨hbefore, he⟩ := steady_concat.1 hsteady
    rw [started_concat, List.map_append] at hfolders
    have hapart := (List.nodup_append.1 hfolders).1
    have h := ih hbefore hapart
    cases hm with
    | starts o =>
      refine h.quiet (fun _ => rfl) (fun _ => rfl) rfl ?_ fun _ _ heq => by cases heq
      refine List.forall_mem_cons.2 ⟨(h.fresh o.folder fun hmem => ?_).symm, h.tasks⟩
      exact (List.nodup_append.1 hfolders).2.2 o.folder hmem o.folder List.mem_cons_self rfl
    | sends =>
      refine h.quiet (fun _ => rfl) (fun _ => rfl) rfl ?_ fun _ _ heq => by cases heq
      exact List.forall_mem_cons.2 (List.forall_mem_cons.1 h.tasks)
    | outside => exact he.elim
    | @returns s u ts r hrest =>
      obtain ⟨hu, hts⟩ := List.forall_mem_cons.1 h.tasks
      refine h.quiet (fun _ => rfl) (fun _ => rfl) rfl hts fun o r' heq => ?_
      cases heq
      have hcourse : Plan.Reaches u.operation.plan u.past.reverse u.rest :=
        hrun.onCourse hidle u List.mem_cons_self
      rw [hrest, hu] at hcourse
      have hruns := hcourse.runs (.done r)
      rwa [List.append_nil] at hruns
    | hears r hrest hwait =>
      obtain ⟨hstarted, hothers, hended⟩ := hrun.innermost_apart hidle hapart
      exact h.takes (h.hears hidle hrun hrest he) rfl rfl hstarted hothers hended
    | asks hrest ha =>
      obtain ⟨hstarted, hothers, hended⟩ := hrun.innermost_apart hidle hapart
      obtain ⟨halone, hpolicy⟩ := h.asks hidle hrun hreplies
        (hbefore.not_cancellable _ hstarted) hothers hrest ha he
      exact h.takes halone hpolicy ha.store_eq hstarted hothers hended

end Session

/-! ### Operations performed one after the other -/

theorem started_ofOperation (o : Operation) (t : List Plan.Step) (r : Except Failure o.Value) :
    started (Event.ofOperation o t r) = [o] := by
  have hsteps : (t.flatMap (Event.ofStep o)).filterMap Event.started? = [] := by
    rw [List.filterMap_eq_nil_iff]
    intro e he
    obtain ⟨st, -, he⟩ := List.mem_flatMap.1 he
    cases st with
    | sent d r =>
      simp only [Event.ofStep, List.mem_cons, List.not_mem_nil, or_false] at he
      rcases he with rfl | rfl <;> rfl
    | asked q a =>
      rw [List.mem_singleton.1 he]
      rfl
  simp [started, Event.ofOperation, Event.started?, hsteps]

theorem started_inTurns {os : List Operation} (h : InTurns os τ) : started τ = os := by
  induction os generalizing τ with
  | nil =>
    cases h
    rfl
  | cons o os ih =>
    obtain ⟨t, r, τ', rfl, h⟩ := h
    rw [started, List.filterMap_append]
    exact congrArg₂ (· ++ ·) (started_ofOperation o t r) (ih h)

/-- What an operation hears alone with its folder is what steady surroundings bring. -/
theorem Alone.steady {q : Query} {a : q.Answer}
    (h : Alone o.folder (replies o.folder) key s₀ past (.asked q a)) :
    (Event.takes o (.asked q a)).Steady replies τ := by
  cases q with
  | readExtra => exact ⟨_, h.2⟩
  | writeExtra | save => exact h.2
  | _ => exact trivial

/-- Where an operation goes on as it does alone with its folder, the surroundings stay steady. -/
theorem Steady.steps (h : Steady replies τ) (hcount : answered o.folder τ = requests past)
    (ht : Plan.Throughout (Alone o.folder (replies o.folder) key s₀) past t) :
    Steady replies (τ ++ t.flatMap (Event.ofStep o)) := by
  induction t generalizing τ past with
  | nil => simpa using h
  | cons st t ih =>
    obtain ⟨hst, ht⟩ := ht
    cases st with
    | sent d r =>
      obtain ⟨hfolder, hr⟩ := hst
      have hsends : Steady replies (τ ++ [.sends o d]) := steady_concat.2 ⟨h, trivial⟩
      have hcount' : answered o.folder (τ ++ [.sends o d]) = requests past := by
        rw [answered_concat]
        exact hcount
      have htakes : Steady replies (τ ++ [.sends o d] ++ [.takes o (.sent d r)]) := by
        refine steady_concat.2 ⟨hsends, fun f hf => ?_⟩
        obtain rfl : o.folder = f := Option.some.inj (hfolder.symm.trans hf)
        rw [hcount', hr]
      have hrest := ih htakes ?_ ht
      · simpa [Event.ofStep] using hrest
      · rw [answered_concat, hcount']
        simp [Event.repliesFor, hfolder, requests, Plan.Step.exchange?]
    | asked q a =>
      have hrest := ih (steady_concat.2 ⟨h, hst.steady⟩) ?_ ht
      · simpa [Event.ofStep] using hrest
      · rw [answered_concat, hcount]
        simp [Event.repliesFor, requests, Plan.Step.exchange?]

theorem Steady.operation (h : Steady replies τ) (hcancellable : o.cancellable = false)
    (hcount : answered o.folder τ = 0)
    (ht : Plan.Throughout (Alone o.folder (replies o.folder) key s₀) [] t)
    (r : Except Failure o.Value) : Steady replies (τ ++ Event.ofOperation o t r) := by
  have hstarts : Steady replies (τ ++ [.starts o]) := steady_concat.2 ⟨h, hcancellable⟩
  have hcount' : answered o.folder (τ ++ [.starts o]) = requests [] := by
    rw [answered_concat]
    exact hcount
  have hreturns :
      Steady replies (τ ++ [.starts o] ++ t.flatMap (Event.ofStep o) ++ [.returns o r]) :=
    steady_concat.2 ⟨hstarts.steps hcount' ht, trivial⟩
  simpa [Event.ofOperation] using hreturns

variable {s s' : Shared}

/-- A question that an operation asks alone with its folder may be answered so in a session where
its folder looks like that. -/
theorem answers_of_alone {replies : Nat → Except Failure Wire.Sync} {q : Query} {a : q.Answer}
    (h : Alone f replies key s₀ past (.asked q a)) (hlock : (Plan.Step.asked q a).lock? = none)
    (hkey : s.policyKey = some key) (hstore : s.store.AgreeOn f (s₀.replay past.reverse)) :
    ∃ s', Answers s q a s' ∧ s'.policyKey = some key ∧ s'.locks = s.locks := by
  cases q with
  | policyKey =>
    obtain rfl : a = s.policyKey := Eq.trans h hkey.symm
    exact ⟨s, .policyKey s, hkey, rfl⟩
  | readExtra folder name =>
    obtain ⟨rfl, rfl⟩ := h
    rw [← hstore.extra?_eq name]
    exact ⟨s, .read s folder name, hkey, rfl⟩
  | writeExtra folder name value =>
    obtain ⟨-, rfl⟩ := h
    exact ⟨_, .write s folder name value, hkey, rfl⟩
  | save m complete =>
    obtain ⟨-, rfl⟩ := h
    exact ⟨_, .save s m complete, hkey, rfl⟩
  | notify n => exact ⟨s, .notify s n, hkey, rfl⟩
  | acquire folder =>
    obtain ⟨-, rfl⟩ := h
    cases hlock
  | release guard => cases hlock
  | setPolicyKey | handshake | cancelled => exact h.elim

theorem answersAll_of_alone {replies : Nat → Except Failure Wire.Sync}
    (ht : Plan.Throughout (Alone f replies key s₀) past t) (hlocks : ∀ st ∈ t, st.lock? = none)
    (hkey : s.policyKey = some key) (hstore : s.store.AgreeOn f (s₀.replay past.reverse)) :
    ∃ s', AnswersAll s t s' := by
  induction t generalizing s past with
  | nil => exact ⟨s, .nil s⟩
  | cons st t ih =>
    obtain ⟨hst, ht⟩ := ht
    obtain ⟨hlock, hnone⟩ := List.forall_mem_cons.1 hlocks
    have hnext : (s.store.after st).AgreeOn f (s₀.replay (st :: past).reverse) := by
      rw [List.reverse_cons, Store.replay_concat]
      exact hstore.after st
    cases st with
    | sent d r =>
      obtain ⟨s', h⟩ := ih ht hnone hkey hnext
      exact ⟨s', .sent d r h⟩
    | asked q a =>
      obtain ⟨s₁, ha, hkey', -⟩ := answers_of_alone hst hlock hkey hstore
      rw [← ha.store_eq] at hnext
      obtain ⟨s', h⟩ := ih ht hnone hkey' hnext
      exact ⟨s', .asked ha h⟩

namespace Session

variable {b₀ b b' : Session}

/-- Where nothing is in progress, an operation may be performed as it is alone with its folder, if
its folder looks like that. -/
theorem Run.performs_alone {replies : Nat → Except Failure Wire.Sync} {r : Except Failure o.Value}
    (hrun : b₀.Run τ ⟨s, []⟩) (hlocks : s.locks.active = []) (hkey : s.policyKey = some key)
    (hstore : s.store.AgreeOn o.folder s₀) (hruns : Plan.Runs o.plan t r)
    (ht : Plan.Throughout (Alone o.folder replies key s₀) [] t) :
    ∃ s', b₀.Run (τ ++ Event.ofOperation o t r) ⟨s', []⟩ := by
  obtain ⟨e, rfl, -⟩ | ⟨guard, t', rfl, hbody⟩ := course_of_runs hruns
  · cases ht.1.2
  · obtain ⟨⟨-, hguard⟩, ht⟩ := ht
    cases hguard
    have hfree : o.folder ∉ s.locks.active := by simp [hlocks]
    have hacquire : s.locks.acquire o.folder = .ok (⟨o.folder⟩, ⟨o.folder :: s.locks.active,
        List.nodup_cons.2 ⟨hfree, s.locks.nodup_active⟩⟩) :=
      FolderLocks.acquire_eq_ok_iff.2 ⟨hfree, rfl, rfl⟩
    obtain ⟨s', hwork⟩ := answersAll_of_alone
      (s := { s with locks := ⟨o.folder :: s.locks.active, _⟩ }) (Plan.throughout_append.1 ht).1
      (lock?_eq_none_of_runs hbody) hkey hstore
    have hall := AnswersAll.asked (.acquire hacquire)
      (hwork.append (.asked (.release s' ⟨o.folder⟩) (.nil _)))
    exact ⟨_, hrun.performs hruns hall⟩

/-- Operations on different folders may be performed one after the other, each as it is alone with
its folder. -/
theorem Run.inTurns (hidle : b₀.Idle) (hkey : b₀.shared.policyKey = some key)
    (hreplies : ∀ f n, ¬ Demands (replies f n)) {os : List Operation}
    (hos : ∀ o ∈ os, o.cancellable = false ∧ ∃ t r, Plan.Runs o.plan t r ∧
      Plan.Throughout (Alone o.folder (replies o.folder) key b₀.shared.store) [] t)
    (hrun : b₀.Run τ ⟨s, []⟩) (hsteady : Steady replies τ)
    (hfolders : ((started τ ++ os).map Operation.folder).Nodup) :
    ∃ τ' b', InTurns os τ' ∧ b₀.Run (τ ++ τ') b' ∧ Steady replies (τ ++ τ') ∧ b'.tasks = [] := by
  induction os generalizing τ s with
  | nil => exact ⟨[], ⟨s, []⟩, rfl, by simpa using hrun, by simpa using hsteady, rfl⟩
  | cons o os ih =>
    obtain ⟨⟨hcancellable, t, r, hruns, halone⟩, hos⟩ := List.forall_mem_cons.1 hos
    rw [List.map_append] at hfolders
    obtain ⟨hbefore, -, hapart⟩ := List.nodup_append.1 hfolders
    have h := hrun.undisturbed hidle hkey hreplies hsteady hbefore
    have hfresh : stepsIn o.folder τ = [] := by
      refine h.fresh o.folder fun hmem => ?_
      exact hapart o.folder hmem o.folder List.mem_cons_self rfl
    have hstore := h.store o.folder
    have hcount := h.answered o.folder
    rw [hfresh] at hstore hcount
    have hlocks : s.locks.active = [] := (hrun.cursor_sound hidle).active
    obtain ⟨s', hrun'⟩ := hrun.performs_alone hlocks h.policyKey hstore hruns halone
    have hsteady' := hsteady.operation hcancellable hcount halone r
    have hstarted : started (τ ++ Event.ofOperation o t r) = started τ ++ [o] := by
      rw [started, List.filterMap_append]
      exact congrArg _ (started_ofOperation o t r)
    obtain ⟨τ', b', hturns, hrun'', hsteady'', hover⟩ := ih hos hrun' hsteady' (by
      rw [hstarted, List.append_assoc, List.map_append]
      exact hfolders)
    rw [List.append_assoc] at hrun'' hsteady''
    exact ⟨_, b', ⟨t, r, τ', rfl, hturns⟩, hrun'', hsteady'', hover⟩

/-! ### Any two sessions -/

/-- Two sessions come to the same: every operation that the one has started has taken the same steps
in both and has come to one and the same end, and the stores hold the same. -/
structure ComesToSame (τ : List Event) (b : Session) (τ' : List Event) (b' : Session) : Prop where
  steps : ∀ o ∈ started τ, stepsIn o.folder τ' = stepsIn o.folder τ
  results : ∀ o ∈ started τ, ∃ r, ∀ r', (.returns o r' ∈ τ ↔ r' = r) ∧ (.returns o r' ∈ τ' ↔ r' = r)
  contents : b'.shared.store.SameContents b.shared.store

theorem Run.exists_returns (hidle : b₀.Idle) (hrun : b₀.Run τ b) (hover : b.tasks = [])
    (ho : o ∈ started τ) : ∃ r, .returns o r ∈ τ := by
  have hended := (hrun.started_perm hidle).subset ho
  rw [hover, List.map_nil, List.nil_append] at hended
  obtain ⟨e, he, heo⟩ := List.mem_filterMap.1 hended
  cases e with
  | returns o' r =>
    cases heo
    exact ⟨r, he⟩
  | _ => cases heo

/-- An operation that has ended in two sessions has run in the same way in both. -/
theorem Undisturbed.same_run (h : Undisturbed replies key b₀ τ b)
    (h' : Undisturbed replies key b₀ τ' b') {r r' : Except Failure o.Value}
    (hr : .returns o r ∈ τ) (hr' : .returns o r' ∈ τ') :
    stepsIn o.folder τ = stepsIn o.folder τ' ∧ r = r' :=
  runs_unique (h.ends o r hr) (h'.ends o r' hr') (h.alone _) (h'.alone _)

theorem Undisturbed.comesToSame (hidle : b₀.Idle) (h : Undisturbed replies key b₀ τ b)
    (hrun : b₀.Run τ b) (hover : b.tasks = []) (h' : Undisturbed replies key b₀ τ' b')
    (hrun' : b₀.Run τ' b') (hover' : b'.tasks = []) (hperm : (started τ').Perm (started τ)) :
    ComesToSame τ b τ' b' := by
  have hsame : ∀ o ∈ started τ, ∃ r, .returns o r ∈ τ ∧ .returns o r ∈ τ' ∧
      stepsIn o.folder τ' = stepsIn o.folder τ := by
    intro o ho
    obtain ⟨r, hr⟩ := hrun.exists_returns hidle hover ho
    obtain ⟨r', hr'⟩ := hrun'.exists_returns hidle hover' (hperm.symm.subset ho)
    obtain ⟨hsteps, rfl⟩ := h.same_run h' hr hr'
    exact ⟨r, hr, hr', hsteps.symm⟩
  refine ⟨fun o ho => ?_, fun o ho => ?_, Store.sameContents_of_agreeOn fun f => ?_⟩
  · obtain ⟨r, -, -, hsteps⟩ := hsame o ho
    exact hsteps
  · obtain ⟨r, hr, hr', -⟩ := hsame o ho
    refine ⟨r, fun r' => ⟨⟨fun hmem => (h.same_run h hmem hr).2, ?_⟩,
      fun hmem => (h'.same_run h' hmem hr').2, ?_⟩⟩
    · rintro rfl
      exact hr
    · rintro rfl
      exact hr'
  · have hsteps : stepsIn f τ' = stepsIn f τ := by
      by_cases hf : f ∈ (started τ).map Operation.folder
      · obtain ⟨o, ho, rfl⟩ := List.mem_map.1 hf
        obtain ⟨r, -, -, hsteps⟩ := hsame o ho
        exact hsteps
      · rw [h.fresh f hf, h'.fresh f fun hf' => hf ((hperm.map Operation.folder).subset hf')]
    have hstore := h'.store f
    rw [hsteps] at hstore
    exact hstore.trans (h.store f).symm

/-- **Operations on different folders are independent**: let a policy key be held, let the client
answer the requests for each folder with replies of that folder, none of which demands provisioning,
and let nothing fail. However operations on different folders that nobody can cancel are started
inside of each other, every one of them takes the steps that it takes when they are performed one
after the other, in any order, with the same end, and the stores hold the same in the end. The same
goes for any two ways in which they are started. -/
theorem folders_independent (hidle : b₀.Idle) (hkey : b₀.shared.policyKey = some key)
    (hreplies : ∀ f n, ¬ Demands (replies f n)) (hrun : b₀.Run τ b) (hsteady : Steady replies τ)
    (hover : b.tasks = []) (hfolders : ((started τ).map Operation.folder).Nodup) :
    (∀ os, os.Perm (started τ) → ∃ τ' b', InTurns os τ' ∧ b₀.Run τ' b' ∧ Steady replies τ' ∧
        b'.tasks = [] ∧ ComesToSame τ b τ' b') ∧
      ∀ τ' b', b₀.Run τ' b' → Steady replies τ' → b'.tasks = [] →
        (started τ').Perm (started τ) → ComesToSame τ b τ' b' := by
  have h := hrun.undisturbed hidle hkey hreplies hsteady hfolders
  have hany : ∀ τ' b', b₀.Run τ' b' → Steady replies τ' → b'.tasks = [] →
      (started τ').Perm (started τ) → ComesToSame τ b τ' b' := by
    intro τ' b' hrun' hsteady' hover' hperm
    have hfolders' := (hperm.map Operation.folder).nodup_iff.2 hfolders
    have h' := hrun'.undisturbed hidle hkey hreplies hsteady' hfolders'
    exact h.comesToSame hidle hrun hover h' hrun' hover' hperm
  refine ⟨fun os hos => ?_, hany⟩
  have hstart : b₀.Run [] ⟨b₀.shared, []⟩ := by
    rw [← hidle.tasks]
    exact .nil
  have halone : ∀ o ∈ os, o.cancellable = false ∧ ∃ t r, Plan.Runs o.plan t r ∧
      Plan.Throughout (Alone o.folder (replies o.folder) key b₀.shared.store) [] t := by
    intro o ho
    obtain ⟨r, hr⟩ := hrun.exists_returns hidle hover (hos.subset ho)
    exact ⟨hsteady.not_cancellable o (hos.subset ho), _, r, h.ends o r hr, h.alone _⟩
  obtain ⟨τ', b', hturns, hrun', hsteady', hover'⟩ := hstart.inTurns hidle hkey hreplies halone
    steady_nil ((hos.map Operation.folder).nodup_iff.2 hfolders)
  refine ⟨τ', b', hturns, hrun', hsteady', hover', hany τ' b' hrun' hsteady' hover' ?_⟩
  rw [started_inTurns hturns]
  exact hos

theorem Run.snoc_steady (h : b₀.Run τ b ∧ Steady replies τ) (hm : b.Moves e b')
    (he : e.Steady replies τ) : b₀.Run (τ ++ [e]) b' ∧ Steady replies (τ ++ [e]) :=
  ⟨h.1.snoc hm, steady_concat.2 ⟨h.2, he⟩⟩

/-- The client answers every request with one item. -/
def oneItemReplies : String → Nat → Except Failure Wire.Sync :=
  fun _ _ => .ok (.answering "1" [{}])

/-- A fetch that is started while a sync of another folder waits for the reply to its handshake, and
that ends before the sync does, might have been performed before it. -/
theorem folders_independent_nested : ∃ τ b τ' b',
    started τ = [.sync "inbox" ⟨0, 0⟩, .fetch "drafts" "5:1"] ∧
      ended τ = [.fetch "drafts" "5:1", .sync "inbox" ⟨0, 0⟩] ∧
      InTurns [.fetch "drafts" "5:1", .sync "inbox" ⟨0, 0⟩] τ' ∧
      fresh.Run τ b ∧ fresh.Run τ' b' ∧ ComesToSame τ b τ' b' := by
  have begin : fresh.Run [] fresh ∧ Steady oneItemReplies [] := ⟨.nil, steady_nil⟩
  have start := Run.snoc_steady begin (@Moves.starts fresh.shared [] (.sync "inbox" ⟨0, 0⟩)) rfl
  have acquire := Run.snoc_steady start (.asks rfl (.acquire rfl)) trivial
  have notify := Run.snoc_steady acquire (.asks rfl (.notify _ _)) trivial
  have read := Run.snoc_steady notify (.asks rfl (.read _ _ _)) ⟨_, rfl⟩
  have hold := Run.snoc_steady read (.asks rfl (.policyKey _)) trivial
  have send := Run.snoc_steady hold (.sends rfl rfl) trivial
  have start' := Run.snoc_steady send (.starts (.fetch "drafts" "5:1")) rfl
  have acquire' := Run.snoc_steady start' (.asks rfl (.acquire rfl)) trivial
  have read' := Run.snoc_steady acquire' (.asks rfl (.read _ _ _)) ⟨_, rfl⟩
  have hold' := Run.snoc_steady read' (.asks rfl (.policyKey _)) trivial
  have send' := Run.snoc_steady hold' (.sends rfl rfl) trivial
  have hear' := Run.snoc_steady send' (.hears (.ok (.answering "1" [{}])) rfl rfl) fun _ _ => rfl
  have write' := Run.snoc_steady hear' (.asks rfl (.write _ _ _ _)) rfl
  have release' := Run.snoc_steady write' (.asks rfl (.release _ _)) trivial
  have return' := Run.snoc_steady release' (.returns rfl) trivial
  have hear := Run.snoc_steady return' (.hears (.ok (.answering "1" [{}])) rfl rfl) fun _ _ => rfl
  -- the budget leaves no window to ask for, so the sync stores the key and ends
  let o : Operation := .sync "inbox" ⟨0, 0⟩
  let stats : SyncStats := { roundTrips := 1, handshake := true }
  have hwindows :
      Plan.Runs (FolderSync.windows "inbox" ⟨0, 0⟩ false "1" stats).run [] (.ok stats) := by
    rw [FolderSync.windows, dif_neg (by decide)]
    exact .done _
  have hpull : Plan.Runs (FolderSync.pull "inbox" ⟨0, 0⟩ false).run
      (readStep "inbox" (.ok none) :: (FolderSync.advanceSteps "inbox" "P"
        (.handshake "inbox" Wire.initialKey) (.answering "1" [{}]) "1" ++ [])) (.ok stats) :=
    FolderSync.runs_pull_first rfl rfl rfl rfl hwindows
  have hplan := runs_plan (o := o) (FolderSync.runs_sync hpull)
  have hrest := (hear.1.onCourse fresh_idle _ List.mem_cons_self).rest_runs hplan
  obtain ⟨past, hrun⟩ := hear.1.takes hrest
    (.asked (.write _ _ _ _) (.asked (.notify _ _) (.asked (.release _ _) (.nil _))))
  have hwrite := (steady_concat (e := .takes o (writeStep "inbox" "1" (.ok ())))).2 ⟨hear.2, rfl⟩
  have hnotify := (steady_concat (e := .takes o (.asked (.notify (.finished "inbox" stats)) ()))).2
    ⟨hwrite, trivial⟩
  have hrelease := (steady_concat (e := .takes o (.asked (.release ⟨"inbox"⟩) ()))).2
    ⟨hnotify, trivial⟩
  have hsteady := (steady_concat (e := .returns o (.ok stats))).2 ⟨hrelease, trivial⟩
  have hreply : ¬ Demands (.ok (.answering "1" [{}])) := by decide
  have hindependent := folders_independent fresh_idle rfl
    (fun _ _ => hreply) (hrun.snoc (.returns rfl)) hsteady rfl
    (by decide : ["inbox", "drafts"].Nodup)
  obtain ⟨τ', b', hturns, hrun', -, -, hsame⟩ :=
    hindependent.1 [.fetch "drafts" "5:1", .sync "inbox" ⟨0, 0⟩] (.swap ..)
  exact ⟨_, _, τ', b', rfl, rfl, hturns, hrun.snoc (.returns rfl), hrun', hsame⟩

end Session

end Account

end MailSync
