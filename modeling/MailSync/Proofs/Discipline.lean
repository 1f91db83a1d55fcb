import MailSync.Proofs.Session

/-!
# Disciplines of a session

A discipline asks the operations on each folder to keep a contract over the folder's view: its
stored sync key, the latest exchange of the operation at work, and the messages saved so far. As an
operation has its folder to itself, what the operations on a folder keep one by one holds over every
session, however operations on other folders are nested in between.

* `Discipline.sound` : at every moment of a session the folders in work are those of the operations
  at work, views and store agree, every operation at work goes on keeping its contract, and the view
  of every other folder is settled.
-/

namespace MailSync

namespace Plan.Step

/-- Whether a step takes a folder into work or out of it. -/
def lock? : Step → Option Bool
  | .asked (.acquire _) (.ok _) => some true
  | .asked (.release _) _ => some false
  | _ => none

/-- The exchange that a step is. -/
def exchange? : Step → Option (Wire.Sync × Except Failure Wire.Sync)
  | .sent d r => some (d, r)
  | _ => none

/-- The message that a step saves, whole or in part. -/
def saved? : Step → Option (Message × Bool)
  | .asked (.save m complete) (.ok _) => some (m, complete)
  | _ => none

end Plan.Step

/-- The question concerns, of what operations share, at most the sync key and the messages of one
folder. -/
def Query.Within (folder : String) : Query → Prop
  | writeExtra f name _ => f = folder ∧ name = Store.syncKeyName
  | save m _ => m.folder = folder
  | acquire _ | release _ => False
  | _ => True

namespace Account

/-! ### Views -/

/-- What a folder looks like to its operations. -/
structure View where
  /-- The sync key that is stored. -/
  stored : Option String
  /-- The latest request of the operation at work, and its reply. -/
  latest : Option (Wire.Sync × Except Failure Wire.Sync)
  /-- The messages saved since the session began, each whole or in part. -/
  saved : List (Message × Bool)

namespace View

/-- The view after a step of an operation on the folder. -/
def after (v : View) : Plan.Step → View
  | .sent d r => { v with latest := some (d, r) }
  | .asked (.acquire _) (.ok _) => { v with latest := none }
  | .asked (.writeExtra _ name value) (.ok _) =>
    if name = Store.syncKeyName then { v with stored := some value } else v
  | .asked (.save m complete) (.ok _) => { v with saved := v.saved ++ [(m, complete)] }
  | _ => v

/-- A read of the folder's sync key has found the one that is stored. -/
def Agrees (folder : String) (v : View) : Plan.Step → Prop
  | .asked (.readExtra f name) (.ok value) =>
    f = folder → name = Store.syncKeyName → value = v.stored
  | _ => True

/-- The view of a folder after an event. -/
def follow (folder : String) (v : View) : Event → View
  | .takes o st => if o.folder = folder then v.after st else v
  | _ => v

theorem latest_after (v : View) {st : Plan.Step} (h : st.lock? = none) :
    (v.after st).latest = st.exchange?.or v.latest := by
  unfold after
  split <;> simp_all [Plan.Step.lock?, Plan.Step.exchange?]
  split <;> rfl

theorem saved_after (v : View) (st : Plan.Step) :
    (v.after st).saved = v.saved ++ st.saved?.toList := by
  unfold after
  split <;> simp_all [Plan.Step.saved?]
  split <;> rfl

end View

/-- The message of a folder that an event saves. -/
def Event.saved? (folder : String) : Event → Option (Message × Bool)
  | .takes _ st => st.saved?.filter (·.1.folder = folder)
  | _ => none

/-- The messages of a folder that events save, each whole or in part. -/
def savedIn (folder : String) (τ : List Event) : List (Message × Bool) :=
  τ.filterMap (Event.saved? folder)

/-- The view of a folder after the given events. -/
def Session.view (b₀ : Session) (folder : String) (τ : List Event) : View :=
  τ.foldl (View.follow folder) ⟨b₀.syncKey? folder, none, []⟩

/-! ### Operations at work -/

namespace Task

/-- The operation has its folder to itself. -/
def works (t : Task) : Bool :=
  (t.past.findSome? Plan.Step.lock?).getD false

/-- The latest request of an operation, and its reply. -/
def latest (t : Task) : Option (Wire.Sync × Except Failure Wire.Sync) :=
  t.past.findSome? Plan.Step.exchange?

theorem works_take (t : Task) (st : Plan.Step) (p : Plan (Except Failure t.operation.Value)) :
    (t.take st p).works = st.lock?.getD t.works := by
  simp only [works, take, List.findSome?_cons]
  cases st.lock? <;> rfl

theorem latest_take (t : Task) (st : Plan.Step) (p : Plan (Except Failure t.operation.Value)) :
    (t.take st p).latest = st.exchange?.or t.latest := by
  simp only [latest, take, List.findSome?_cons]
  cases st.exchange? <;> rfl

/-- The operation has yet to take its folder into work, or it has ended. -/
def Rests (t : Task) : Prop :=
  (t.rest = t.operation.plan ∧ t.latest = none) ∨ ∃ r, t.rest = .done r

end Task

/-- The folders that operations are at work on. -/
def foldersAtWork (ts : List Task) : List String :=
  (ts.filter (·.works)).map (·.folder)

theorem foldersAtWork_cons (t : Task) (ts : List Task) :
    foldersAtWork (t :: ts) =
      if t.works = true then t.folder :: foldersAtWork ts else foldersAtWork ts := by
  rw [foldersAtWork, List.filter_cons]
  split <;> rfl

theorem mem_foldersAtWork {ts : List Task} {f : String} :
    f ∈ foldersAtWork ts ↔ ∃ t ∈ ts, t.works = true ∧ t.folder = f := by
  simp only [foldersAtWork, List.mem_map, List.mem_filter, and_assoc]

/-- The end of an operation: it takes its folder out of work. -/
def finish {α : Type} (folder : String) (a : α) : Plan α :=
  .ask (.release ⟨folder⟩) fun _ => .done a

/-- What an operation does once it knows whether it has its folder to itself. -/
def admitted (o : Operation) : Except Failure FolderGuard → Plan (Except Failure o.Value)
  | .error e => .done (.error e)
  | .ok guard => o.body >>= finish guard.folder

theorem plan_eq (o : Operation) : o.plan = .ask (.acquire o.folder) (admitted o) := by
  rw [← exclusively_body, exclusively]
  refine congrArg (Plan.ask (.acquire o.folder)) (funext fun r => ?_)
  cases r <;> rfl

/-- An operation that finds its folder free takes it, works, and gives it back. -/
theorem runs_plan {o : Operation} {t : List Plan.Step} {r : Except Failure o.Value}
    (h : Plan.Runs o.body t r) :
    Plan.Runs o.plan (.asked (.acquire o.folder) (.ok ⟨o.folder⟩) ::
      (t ++ [.asked (.release ⟨o.folder⟩) ()])) r := by
  rw [plan_eq]
  exact .ask (h.bind (.ask (.done _)))

/-- What the operations on each folder keep to. -/
structure Discipline where
  /-- What an operation keeps while it has its folder to itself. -/
  contract : String → Plan.Contract View
  /-- What holds of a folder while no operation works on it. -/
  settled : String → View → Prop
  after : ∀ f, (contract f).after = View.after
  within : ∀ f v q, (contract f).mayAsk v q → q.Within f
  restart : ∀ f v, settled f v → settled f { v with latest := none }
  keeps : ∀ (o : Operation) (v : View), settled o.folder v → v.latest = none →
    o.body.Keeps (contract o.folder) (fun _ v' => settled o.folder v') v

namespace Discipline

/-- An operation at work goes on keeping its contract, where its folder looks like this. -/
def Works (D : Discipline) (t : Task) (v : View) : Prop :=
  t.latest = v.latest ∧
    ∃ p, t.rest = p >>= finish t.folder ∧
      p.Keeps (D.contract t.folder) (fun _ v' => D.settled t.folder v') v

/-- What is left of an operation fits the view of its folder. -/
inductive Fits (D : Discipline) (t : Task) (v : View) : Prop
  | rests (hw : t.works = false) (h : t.Rests)
  | works (hw : t.works = true) (h : D.Works t v)

/-- The discipline is kept at a moment of a session. -/
structure Sound (D : Discipline) (b₀ : Session) (τ : List Event) (b : Session) : Prop where
  active : b.shared.locks.active = foldersAtWork b.tasks
  stored : ∀ f, (b₀.view f τ).stored = b.syncKey? f
  fits : ∀ t ∈ b.tasks, D.Fits t (b₀.view t.folder τ)
  settled : ∀ f, f ∉ b.shared.locks.active → D.settled f (b₀.view f τ)

variable {D : Discipline} {b₀ b b' : Session} {τ : List Event} {e : Event} {s s' : Shared}
  {t : Task} {ts : List Task}

theorem view_snoc (f : String) :
    b₀.view f (τ ++ [e]) = View.follow f (b₀.view f τ) e := by
  simp [Session.view]

/-- The view of its folder matters to an operation only while it is at work. -/
theorem Fits.congr {v v' : View} (h : D.Fits t v) (hv : t.works = true → v' = v) :
    D.Fits t v' := by
  cases h with
  | rests hw h => exact .rests hw h
  | works hw h =>
    rw [hv hw]
    exact .works hw h

/-- An operation that is about to ask or to send is at work, or has yet to take its folder into
work. -/
theorem Fits.fresh_or_works {v : View} (h : D.Fits t v) (hrest : ∀ r, t.rest ≠ .done r) :
    (t.works = false ∧ t.rest = t.operation.plan ∧ t.latest = none) ∨
      t.works = true ∧ D.Works t v := by
  cases h with
  | rests hw h =>
    obtain ⟨hplan, hlatest⟩ | ⟨r, hdone⟩ := h
    · exact .inl ⟨hw, hplan, hlatest⟩
    · exact absurd hdone (hrest r)
  | works hw h => exact .inr ⟨hw, h⟩

/-- An operation that has ended is not at work. -/
theorem Fits.works_eq_false {v : View} (h : D.Fits t v)
    {r : Except Failure t.operation.Value} (hrest : t.rest = .done r) : t.works = false := by
  cases h with
  | rests hw h => exact hw
  | works hw h =>
    obtain ⟨-, p, hp, -⟩ := h
    rw [hrest] at hp
    -- at work, it would still have to give the folder back
    cases p <;> cases hp

/-- A folder's view and the rest of the store hold the sync keys that the store holds. -/
theorem syncKey?_eq_ite {f : String} {v : View} (hv : v.stored = s.store.syncKey? f) (g : String) :
    s.store.syncKey? g = if g = f then v.stored else s.store.syncKey? g := by
  by_cases hg : g = f
  · rw [if_pos hg, hg, hv]
  · rw [if_neg hg]

/-- The folder of the innermost operation, if that is at work, is in work. -/
theorem Sound.active_cons (h : D.Sound b₀ τ ⟨s, t :: ts⟩) (ht : t.works = true) :
    s.locks.active = t.folder :: foldersAtWork ts := by
  rw [h.active, foldersAtWork_cons, if_pos ht]

/-- No other operation is at work on the folder of the innermost one, if that is at work. -/
theorem Sound.folder_ne (h : D.Sound b₀ τ ⟨s, t :: ts⟩) (ht : t.works = true) {u : Task}
    (hu : u ∈ ts) (hw : u.works = true) : u.folder ≠ t.folder := by
  have hnodup := s.locks.nodup_active
  rw [h.active_cons ht] at hnodup
  intro heq
  exact (List.nodup_cons.1 hnodup).1 (mem_foldersAtWork.2 ⟨u, hu, hw, heq⟩)

/-- A step of the innermost operation, while no other is at work on its folder. -/
theorem Sound.step (h : D.Sound b₀ τ ⟨s, t :: ts⟩)
    (hown : ∀ u ∈ ts, u.works = true → u.folder ≠ t.folder) {st : Plan.Step}
    {p : Plan (Except Failure t.operation.Value)}
    (hactive : s'.locks.active = foldersAtWork (t.take st p :: ts))
    (hkeys : ∀ g, s'.store.syncKey? g =
      if g = t.folder then ((b₀.view t.folder τ).after st).stored else s.store.syncKey? g)
    (hother : ∀ f, f ≠ t.folder → f ∈ s.locks.active → f ∈ s'.locks.active)
    (hfits : D.Fits (t.take st p) ((b₀.view t.folder τ).after st))
    (hsettled : t.folder ∉ s'.locks.active →
      D.settled t.folder ((b₀.view t.folder τ).after st)) :
    D.Sound b₀ (τ ++ [.takes t.operation st]) ⟨s', t.take st p :: ts⟩ := by
  have hview : b₀.view t.folder (τ ++ [.takes t.operation st]) =
      (b₀.view t.folder τ).after st := by
    rw [view_snoc]
    exact if_pos rfl
  have hviews : ∀ g, g ≠ t.folder →
      b₀.view g (τ ++ [.takes t.operation st]) = b₀.view g τ := by
    intro g hg
    rw [view_snoc]
    exact if_neg (Ne.symm hg)
  refine ⟨hactive, ?_, ?_, ?_⟩
  · intro g
    change _ = s'.store.syncKey? g
    rw [hkeys]
    by_cases hg : g = t.folder
    · rw [if_pos hg, hg, hview]
    · rw [if_neg hg, hviews g hg]
      exact h.stored g
  · intro u hu
    rcases List.mem_cons.1 hu with rfl | hu
    · exact hfits.congr fun _ => hview
    · -- no other operation at work is on the folder, so none sees the step
      exact (h.fits u (List.mem_cons_of_mem _ hu)).congr fun hw => hviews _ (hown u hu hw)
  · intro f hf
    by_cases hft : f = t.folder
    · subst hft
      rw [hview]
      exact hsettled hf
    · rw [hviews f hft]
      exact h.settled f fun hmem => hf (hother f hft hmem)

/-- A step of the innermost operation in the middle of its work. -/
theorem Sound.work (h : D.Sound b₀ τ ⟨s, t :: ts⟩) (ht : t.works = true) {st : Plan.Step}
    (hlatest : t.latest = (b₀.view t.folder τ).latest) (hst : st.lock? = none)
    {p : Plan (Except Failure t.operation.Value)} (hlocks : s'.locks = s.locks)
    (hkeys : ∀ g, s'.store.syncKey? g =
      if g = t.folder then ((b₀.view t.folder τ).after st).stored else s.store.syncKey? g)
    (hp : p.Keeps (D.contract t.folder) (fun _ v => D.settled t.folder v)
      ((b₀.view t.folder τ).after st)) :
    D.Sound b₀ (τ ++ [.takes t.operation st])
      ⟨s', t.take st (p >>= finish t.folder) :: ts⟩ := by
  have hworks : ∀ p, (t.take st p).works = true := by
    intro p
    rw [Task.works_take, hst]
    exact ht
  refine h.step (fun u hu hw => h.folder_ne ht hu hw) ?_ hkeys ?_ ?_ ?_
  · rw [hlocks, h.active_cons ht, foldersAtWork_cons, if_pos (hworks _)]
    rfl
  · intro f _ hf
    rwa [hlocks]
  · refine .works (hworks _) ⟨?_, p, rfl, hp⟩
    rw [Task.latest_take, hlatest, View.latest_after _ hst]
  · intro hf
    rw [hlocks, h.active_cons ht] at hf
    exact absurd List.mem_cons_self hf

/-- The innermost operation takes its folder into work. -/
theorem Sound.acquire (h : D.Sound b₀ τ ⟨s, t :: ts⟩) (ht : t.works = false)
    {locks : FolderLocks} (hlocks : s.locks.acquire t.folder = .ok (⟨t.folder⟩, locks))
    (hpast : t.latest = none) :
    D.Sound b₀ (τ ++ [.takes t.operation (.asked (.acquire t.folder) (.ok ⟨t.folder⟩))])
      ⟨{ s with locks := locks }, t.take (.asked (.acquire t.folder) (.ok ⟨t.folder⟩))
        (t.operation.body >>= finish t.folder) :: ts⟩ := by
  obtain ⟨hfree, -, hactive⟩ := FolderLocks.acquire_eq_ok_iff.1 hlocks
  -- the folder has been free, so its view is settled, and the work starts from there
  have hsettled := h.settled t.folder hfree
  have hbefore : s.locks.active = foldersAtWork ts := by
    rw [h.active, foldersAtWork_cons, if_neg (by simp [ht])]
  refine h.step ?_ ?_ ?_ ?_ ?_ ?_
  · intro u hu hw heq
    refine hfree ?_
    rw [hbefore]
    exact mem_foldersAtWork.2 ⟨u, hu, hw, heq⟩
  · rw [hactive, hbefore]
    rfl
  · exact syncKey?_eq_ite (h.stored t.folder)
  · intro f _ hf
    rw [hactive]
    exact List.mem_cons_of_mem _ hf
  · refine .works rfl ⟨?_, t.operation.body, rfl, D.keeps _ _ (D.restart _ _ hsettled) rfl⟩
    rw [Task.latest_take, hpast]
    rfl
  · intro hf
    rw [hactive] at hf
    exact absurd List.mem_cons_self hf

/-- The innermost operation takes its folder out of work. -/
theorem Sound.release (h : D.Sound b₀ τ ⟨s, t :: ts⟩) (ht : t.works = true)
    {r : Except Failure t.operation.Value} (hr : D.settled t.folder (b₀.view t.folder τ)) :
    D.Sound b₀ (τ ++ [.takes t.operation (.asked (.release ⟨t.folder⟩) ())])
      ⟨{ s with locks := s.locks.release ⟨t.folder⟩ },
        t.take (.asked (.release ⟨t.folder⟩) ()) (.done r) :: ts⟩ := by
  have hne : ∀ f ∈ foldersAtWork ts, f ≠ t.folder := by
    intro f hf
    obtain ⟨u, hu, hw, rfl⟩ := mem_foldersAtWork.1 hf
    exact h.folder_ne ht hu hw
  have hactive : (s.locks.release ⟨t.folder⟩).active = foldersAtWork ts := by
    change s.locks.active.filter (· ≠ t.folder) = _
    rw [h.active_cons ht, List.filter_cons_of_neg (by simp)]
    exact List.filter_eq_self.2 fun f hf => by simpa using hne f hf
  refine h.step (fun u hu hw => h.folder_ne ht hu hw) hactive
    (syncKey?_eq_ite (h.stored t.folder)) ?_ ?_ ?_
  · intro f hf hmem
    rw [h.active_cons ht] at hmem
    rw [hactive]
    exact (List.mem_cons.1 hmem).resolve_left hf
  · exact .rests rfl (.inr ⟨r, rfl⟩)
  · exact fun _ => hr

/-- An event that is no step of an operation leaves every view alone. -/
theorem Sound.quiet (h : D.Sound b₀ τ b) (he : ∀ f v, View.follow f v e = v)
    (hlocks : b'.shared.locks = b.shared.locks) (hkeys : ∀ f, b'.syncKey? f = b.syncKey? f)
    (hworks : foldersAtWork b'.tasks = foldersAtWork b.tasks)
    (hfits : ∀ t ∈ b'.tasks, D.Fits t (b₀.view t.folder τ)) : D.Sound b₀ (τ ++ [e]) b' := by
  have hview : ∀ f, b₀.view f (τ ++ [e]) = b₀.view f τ := fun f => by rw [view_snoc, he]
  refine ⟨?_, ?_, ?_, ?_⟩
  · rw [hlocks, h.active, hworks]
  · intro f
    rw [hview, hkeys]
    exact h.stored f
  · intro t ht
    rw [hview]
    exact hfits t ht
  · intro f hf
    rw [hview]
    rw [hlocks] at hf
    exact h.settled f hf

/-- An answer to a question about one folder leaves the locks and the other sync keys alone, and
the folder's view follows it. -/
theorem answers_within {q : Query} {a : q.Answer} (h : Answers s q a s') {f : String} {v : View}
    (hq : q.Within f) (hv : v.stored = s.store.syncKey? f) :
    (Plan.Step.asked q a).lock? = none ∧ s'.locks = s.locks ∧
      (∀ g, s'.store.syncKey? g =
        if g = f then (v.after (.asked q a)).stored else s.store.syncKey? g) ∧
      v.Agrees f (.asked q a) := by
  have hsame := syncKey?_eq_ite hv
  cases h with
  | read folder name =>
    refine ⟨rfl, rfl, hsame, ?_⟩
    rintro rfl rfl
    exact hv.symm
  | write folder name value =>
    obtain ⟨rfl, rfl⟩ := hq
    refine ⟨rfl, rfl, fun g => ?_, trivial⟩
    simp only [Store.syncKey?_setExtra, View.after, ↓reduceIte]
  | save m complete =>
    refine ⟨rfl, rfl, fun g => ?_, trivial⟩
    rw [Store.syncKey?_save]
    exact hsame g
  | acquire | release => exact hq.elim
  | refuse => exact hq.elim
  | _ => exact ⟨rfl, rfl, hsame, trivial⟩

/-- The event is reckoned with. -/
def Reckons (D : Discipline) : Event → Prop
  | .takes o st => ∀ v, View.Agrees o.folder v st → (D.contract o.folder).admits v st
  | _ => True

/-- The innermost operation asks a question while it is at work. -/
theorem Sound.asks (h : D.Sound b₀ τ ⟨s, t :: ts⟩) (ht : t.works = true)
    (hworks : D.Works t (b₀.view t.folder τ)) {q : Query} {a : q.Answer}
    {k : q.Answer → Plan (Except Failure t.operation.Value)} (hrest : t.rest = .ask q k)
    (ha : Answers s q a s') (he : D.Reckons (.takes t.operation (.asked q a))) :
    D.Sound b₀ (τ ++ [.takes t.operation (.asked q a)]) ⟨s', t.take (.asked q a) (k a) :: ts⟩ := by
  obtain ⟨hlatest, p, hp, hkeeps⟩ := hworks
  rw [hrest] at hp
  cases p with
  | done r =>
    -- all that is left is to give the folder back
    cases hp
    cases ha
    exact h.release ht hkeeps
  | send d k' => cases hp
  | ask q' k' =>
    cases hp
    obtain ⟨hask, hnext⟩ := hkeeps
    obtain ⟨hst, hlocks, hkeys, hagrees⟩ :=
      answers_within ha (D.within _ _ _ hask) (h.stored t.folder)
    have hkeeps' := hnext a (he _ hagrees)
    rw [D.after] at hkeeps'
    exact h.work ht hlatest hst hlocks hkeys hkeeps'

/-- The innermost operation is refused its folder. -/
theorem Sound.refuse (h : D.Sound b₀ τ ⟨s, t :: ts⟩) (ht : t.works = false) {e : Failure} :
    D.Sound b₀ (τ ++ [.takes t.operation (.asked (.acquire t.folder) (.error e))])
      ⟨s, t.take (.asked (.acquire t.folder) (.error e)) (.done (.error e)) :: ts⟩ := by
  have hworks : (t.take (.asked (.acquire t.folder) (.error e)) (.done (.error e))).works =
      false := by
    rw [Task.works_take]
    exact ht
  refine h.quiet (fun f v => ite_self _) rfl (fun _ => rfl) ?_ ?_
  · change foldersAtWork (Task.take t _ (.done (.error e)) :: ts) = foldersAtWork (t :: ts)
    rw [foldersAtWork_cons, foldersAtWork_cons, if_neg (by simp [hworks]), if_neg (by simp [ht])]
  · intro u hu
    rcases List.mem_cons.1 hu with rfl | hu
    · exact .rests hworks (.inr ⟨_, rfl⟩)
    · exact h.fits u (List.mem_cons_of_mem _ hu)

/-- The innermost operation asks a question. -/
theorem Sound.answered (h : D.Sound b₀ τ ⟨s, t :: ts⟩) {q : Query} {a : q.Answer}
    {k : q.Answer → Plan (Except Failure t.operation.Value)} (hrest : t.rest = .ask q k)
    (ha : Answers s q a s') (he : D.Reckons (.takes t.operation (.asked q a))) :
    D.Sound b₀ (τ ++ [.takes t.operation (.asked q a)]) ⟨s', t.take (.asked q a) (k a) :: ts⟩ := by
  obtain ⟨ht, hplan, hlatest⟩ | ⟨ht, hworks⟩ :=
    (h.fits t List.mem_cons_self).fresh_or_works (by simp [hrest])
  · -- the only question that comes before the work
    rw [hrest, plan_eq] at hplan
    cases hplan
    cases ha with
    | acquire hlocks =>
      obtain ⟨-, rfl, -⟩ := FolderLocks.acquire_eq_ok_iff.1 hlocks
      exact h.acquire ht hlocks hlatest
    | refuse => exact h.refuse ht
  · exact h.asks ht hworks hrest ha he

/-- An operation that is about to send a request is at work, and may send it. -/
theorem Sound.sending (h : D.Sound b₀ τ ⟨s, t :: ts⟩) {d : Wire.Sync}
    {k : Except Failure Wire.Sync → Plan (Except Failure t.operation.Value)}
    (hrest : t.rest = .send d k) :
    t.works = true ∧ t.latest = (b₀.view t.folder τ).latest ∧
      (D.contract t.folder).maySend (b₀.view t.folder τ) d ∧
      ∃ k' : Except Failure Wire.Sync → Plan (Except Failure t.operation.Value),
        (∀ r, k r = k' r >>= finish t.folder) ∧
        ∀ r, (D.contract t.folder).admits (b₀.view t.folder τ) (.sent d r) →
          (k' r).Keeps (D.contract t.folder) (fun _ v => D.settled t.folder v)
            ((b₀.view t.folder τ).after (.sent d r)) := by
  obtain ⟨-, hplan, -⟩ | ⟨ht, hlatest, p, hp, hkeeps⟩ :=
    (h.fits t List.mem_cons_self).fresh_or_works (by simp [hrest])
  · rw [hrest, plan_eq] at hplan
    cases hplan
  · rw [hrest] at hp
    cases p with
    | done r => cases hp
    | ask q k' => cases hp
    | send d' k' =>
      cases hp
      obtain ⟨hsend, hnext⟩ := hkeeps
      refine ⟨ht, hlatest, hsend, k', fun _ => rfl, fun r hr => ?_⟩
      have hkeeps := hnext r hr
      rwa [D.after] at hkeeps

/-- The innermost operation hears a reply. -/
theorem Sound.hears (h : D.Sound b₀ τ ⟨s, t :: ts⟩) {d : Wire.Sync}
    {k : Except Failure Wire.Sync → Plan (Except Failure t.operation.Value)}
    (r : Except Failure Wire.Sync) (hrest : t.rest = .send d k)
    (he : D.Reckons (.takes t.operation (.sent d r))) :
    D.Sound b₀ (τ ++ [.takes t.operation (.sent d r)]) ⟨s, t.take (.sent d r) (k r) :: ts⟩ := by
  obtain ⟨ht, hlatest, -, k', hk, hkeeps⟩ := h.sending hrest
  rw [hk]
  exact h.work ht hlatest rfl rfl (syncKey?_eq_ite (h.stored t.folder)) (hkeeps r (he _ trivial))

/-- A move keeps the discipline. -/
theorem Sound.move (h : D.Sound b₀ τ b) (hm : b.Moves e b') (he : D.Reckons e) :
    D.Sound b₀ (τ ++ [e]) b' := by
  cases hm with
  | @starts s ts o =>
    refine h.quiet (fun _ _ => rfl) rfl (fun _ => rfl) rfl fun u hu => ?_
    rcases List.mem_cons.1 hu with rfl | hu
    · exact .rests rfl (.inl ⟨rfl, rfl⟩)
    · exact h.fits u hu
  | @sends s t ts d k hrest hwait =>
    refine h.quiet (fun _ _ => rfl) rfl (fun _ => rfl) ?_ fun u hu => ?_
    · change foldersAtWork (t.wait :: ts) = foldersAtWork (t :: ts)
      rw [foldersAtWork_cons, foldersAtWork_cons]
      rfl
    · rcases List.mem_cons.1 hu with rfl | hu
      · cases h.fits t List.mem_cons_self with
        | rests hw h => exact .rests hw h
        | works hw h => exact .works hw h
      · exact h.fits u (List.mem_cons_of_mem _ hu)
  | hears r hrest hwait => exact h.hears r hrest he
  | asks hrest ha => exact h.answered hrest ha he
  | @returns s t ts r hrest =>
    have ht := (h.fits t List.mem_cons_self).works_eq_false hrest
    refine h.quiet (fun _ _ => rfl) rfl (fun _ => rfl) ?_ fun u hu => ?_
    · change foldersAtWork ts = foldersAtWork (t :: ts)
      rw [foldersAtWork_cons, if_neg (by simp [ht])]
    · exact h.fits u (List.mem_cons_of_mem _ hu)
  | outside hlocks hkeys => exact h.quiet (fun _ _ => rfl) hlocks hkeys rfl h.fits

/-- The discipline is kept at every moment of a session that starts with nothing in progress and
every folder settled. -/
theorem sound (hidle : b₀.Idle) (hsettled : ∀ f, D.settled f ⟨b₀.syncKey? f, none, []⟩)
    (hrun : b₀.Run τ b) (hτ : ∀ e ∈ τ, D.Reckons e) : D.Sound b₀ τ b := by
  induction hrun with
  | nil =>
    have hnone : ∀ t, t ∉ b₀.tasks := by simp [hidle.tasks]
    refine ⟨?_, fun _ => rfl, fun t ht => absurd ht (hnone t), fun f _ => hsettled f⟩
    rw [hidle.locks, hidle.tasks]
    rfl
  | snoc _ hm ih =>
    have h := ih fun e he => hτ e (List.mem_append_left _ he)
    exact h.move hm (hτ _ (List.mem_append_right _ List.mem_cons_self))

/-- A request that is sent may be sent. -/
theorem Sound.maySend (h : D.Sound b₀ τ b) {o : Operation} {d : Wire.Sync}
    (hm : b.Moves (.sends o d) b') : (D.contract o.folder).maySend (b₀.view o.folder τ) d := by
  cases hm with
  | sends hrest =>
    obtain ⟨-, -, hsend, -⟩ := h.sending hrest
    exact hsend

/-- A question that the innermost operation asks takes its folder into work or out of it, or is one
that it may ask at work. -/
theorem Sound.asking (h : D.Sound b₀ τ ⟨s, t :: ts⟩) {q : Query}
    {k : q.Answer → Plan (Except Failure t.operation.Value)} (hrest : t.rest = .ask q k) :
    q = .acquire t.folder ∨ q = .release ⟨t.folder⟩ ∨
      t.latest = (b₀.view t.folder τ).latest ∧
        (D.contract t.folder).mayAsk (b₀.view t.folder τ) q := by
  obtain ⟨-, hplan, -⟩ | ⟨-, hlatest, p, hp, hkeeps⟩ :=
    (h.fits t List.mem_cons_self).fresh_or_works (by simp [hrest])
  · rw [hrest, plan_eq] at hplan
    cases hplan
    exact .inl rfl
  · rw [hrest] at hp
    cases p with
    | done r =>
      cases hp
      exact .inr (.inl rfl)
    | send d k' => cases hp
    | ask q' k' =>
      cases hp
      exact .inr (.inr ⟨hlatest, hkeeps.1⟩)

/-- The sync key of a folder only changes when an operation that works on the folder stores one, and
may do so. -/
theorem Sound.stores (h : D.Sound b₀ τ b) (hm : b.Moves e b') {f : String}
    (hne : b'.syncKey? f ≠ b.syncKey? f) :
    ∃ t ts key, b.tasks = t :: ts ∧ t.folder = f ∧ t.latest = (b₀.view f τ).latest ∧
      b'.syncKey? f = some key ∧
      (D.contract f).mayAsk (b₀.view f τ) (.writeExtra f Store.syncKeyName key) := by
  cases hm with
  | starts | sends | hears | returns => exact absurd rfl hne
  | outside hlocks hkeys => exact absurd (hkeys f) hne
  | @asks s s' t ts q k a hrest ha =>
    obtain rfl | rfl | ⟨hlatest, hask⟩ := h.asking hrest
    · cases ha <;> exact absurd rfl hne
    · cases ha
      exact absurd rfl hne
    · cases ha with
      | write folder name value =>
        obtain ⟨rfl, rfl⟩ := D.within _ _ _ hask
        have hkey := s.store.syncKey?_setExtra t.folder value f
        by_cases hf : f = t.folder
        · subst hf
          refine ⟨t, ts, value, rfl, rfl, hlatest, ?_, hask⟩
          exact hkey.trans (if_pos rfl)
        · exact absurd (hkey.trans (if_neg hf)) hne
      | save m complete => exact absurd (s.store.syncKey?_save m complete f) hne
      | _ => exact absurd rfl hne

/-- An operation saves messages of its own folder only. -/
theorem Sound.saving (h : D.Sound b₀ τ b) {o : Operation} {m : Message} {complete : Bool}
    {a : Except Failure Unit} (hm : b.Moves (.takes o (.asked (.save m complete) a)) b') :
    m.folder = o.folder := by
  cases hm with
  | asks hrest ha =>
    obtain hq | hq | ⟨-, hask⟩ := h.asking hrest
    · cases hq
    · cases hq
    · exact D.within _ _ _ hask

/-- The messages in a folder's view are those that have been saved for the folder. -/
theorem view_saved (hidle : b₀.Idle) (hsettled : ∀ f, D.settled f ⟨b₀.syncKey? f, none, []⟩)
    (hrun : b₀.Run τ b) (hτ : ∀ e ∈ τ, D.Reckons e) (f : String) :
    (b₀.view f τ).saved = savedIn f τ := by
  induction hrun with
  | nil => rfl
  | @snoc τ b b' e hrun hm ih =>
    have hτ' : ∀ e ∈ τ, D.Reckons e := fun e he => hτ e (List.mem_append_left _ he)
    have hsound := sound hidle hsettled hrun hτ'
    rw [view_snoc, savedIn, List.filterMap_append, ← savedIn, ← ih hτ']
    cases e with
    | takes o st =>
      -- the view follows the folder of the operation, the events that of the message
      have hfolder : ∀ x ∈ st.saved?, x.1.folder = o.folder := by
        intro x hx
        unfold Plan.Step.saved? at hx
        split at hx
        · cases hx
          exact hsound.saving hm
        · cases hx
      have hevent : Event.saved? f (.takes o st) = if o.folder = f then st.saved? else none := by
        rw [Event.saved?]
        cases hst : st.saved? with
        | none => simp
        | some x =>
          have hx := hfolder x (by simp [hst])
          simp [Option.filter_some, hx]
      simp only [View.follow, List.filterMap_cons, List.filterMap_nil, hevent]
      split
      · rw [View.saved_after]
        cases st.saved? <;> rfl
      · simp
    | _ => simp [View.follow, Event.saved?]

end Discipline

end Account

end MailSync
