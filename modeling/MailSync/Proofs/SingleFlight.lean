import MailSync.Proofs.Cursor
import MailSync.Proofs.Progress

/-!
# One operation on a folder at a time

The folders in work are those of the operations in progress, and no two of these work on one folder,
however operations are nested. A call finds its folder in work or free, and what it finds decides what
becomes of it: it is refused and does nothing, or it is admitted. Either way it leaves the folders in
work as it has found them.

* `Account.Session.Run.active_eq` : the folders in work are those of the operations at work.
* `Account.Session.During.entry` : what a call does first is decided by the folders in work before
  it.
* `Account.single_flight` : all of this at every moment of every session.
-/

namespace MailSync

namespace Account

/-! ### Operations in progress -/

/-- The operation has begun, and has not ended. -/
def Task.InProgress (t : Task) : Prop :=
  t.past ≠ [] ∧ ∀ r, t.rest ≠ .done r

/-- An operation on its course is in progress while it has its folder to itself. -/
theorem Task.OnCourse.works_iff {t : Task} (h : t.OnCourse) : t.works = true ↔ t.InProgress := by
  cases h.stage with
  | waits hpast hrest => simp [Task.works, Task.InProgress, hpast]
  | refused e hpast hrest =>
    refine iff_of_false ?_ fun h => h.2 _ hrest
    rw [Task.works, hpast]
    exact Bool.false_ne_true
  | works guard past p hpast hrest hworks =>
    refine iff_of_true hworks ⟨by simp [hpast], fun r hdone => ?_⟩
    rw [hrest] at hdone
    -- the folder is still to be given back
    cases p <;> cases hdone
  | ended guard past r hpast hrest =>
    refine iff_of_false ?_ fun h => h.2 r hrest
    rw [Task.works, hpast]
    exact Bool.false_ne_true

/-- The failure of an operation whose folder is in work. -/
def busy (folder : String) : Failure :=
  .ofCause (.folderBusy folder)

/-- The only step of an operation whose folder is in work. -/
def refusal (folder : String) : Plan.Step :=
  .asked (.acquire folder) (.error (busy folder))

/-- The event is no doing of an operation in progress. -/
def Event.Foreign : Event → Prop
  | .starts _ | .outside => True
  | _ => False

namespace Session

variable {b₀ b b' : Session} {τ τ' : List Event} {o : Operation}

/-- The folders in work are those of the operations at work, the innermost first. -/
theorem Run.active_eq (hidle : b₀.Idle) (hrun : b₀.Run τ b) :
    b.shared.locks.active = foldersAtWork b.tasks :=
  (hrun.cursor_sound hidle).active

/-- No two operations in progress are on one folder. -/
theorem Run.pairwise (hidle : b₀.Idle) (hrun : b₀.Run τ b) :
    b.tasks.Pairwise fun t u => t.InProgress → u.InProgress → t.folder ≠ u.folder := by
  have hnodup := b.shared.locks.nodup_active
  rw [hrun.active_eq hidle, foldersAtWork, List.Nodup, List.pairwise_map,
    List.pairwise_filter] at hnodup
  refine hnodup.imp_of_mem fun {t u} ht hu h ht' hu' => ?_
  exact h ((hrun.onCourse hidle t ht).works_iff.2 ht') ((hrun.onCourse hidle u hu).works_iff.2 hu')

/-! ### Calls -/

/-- After these events an operation that has been started at `b` has not returned yet. -/
inductive During (b : Session) (o : Operation) : List Event → Session → Prop
  | starts : During b o [] ⟨b.shared, Task.start o :: b.tasks⟩
  | moves {τ : List Event} {b₁ b₂ : Session} {e : Event} (h : During b o τ b₁)
      (hm : b₁.Moves e b₂) (hlength : b.tasks.length < b₂.tasks.length) :
      During b o (τ ++ [e]) b₂

theorem During.run (h : b.During o τ' b') (hrun : b₀.Run τ b) :
    b₀.Run (τ ++ .starts o :: τ') b' := by
  induction h with
  | starts => exact hrun.snoc (.starts o)
  | moves _ hm _ ih =>
    rw [← List.cons_append, ← List.append_assoc]
    exact ih.snoc hm

/-- What a call to an operation may have done, by the folders that have been in work before it. -/
structure Entry (b : Session) (o : Operation) (past : List Plan.Step) : Prop where
  refused : o.folder ∈ b.shared.locks.active → past = [] ∨ past = [refusal o.folder]
  admitted : o.folder ∉ b.shared.locks.active →
    past = [] ∨ ∃ past' guard, past = past' ++ [.asked (.acquire o.folder) (.ok guard)]

theorem entry_nil : b.Entry o [] :=
  ⟨fun _ => .inl rfl, fun _ => .inl rfl⟩

theorem entry_admitted (h : o.folder ∉ b.shared.locks.active) (past : List Plan.Step)
    (guard : FolderGuard) : b.Entry o (past ++ [.asked (.acquire o.folder) (.ok guard)]) :=
  ⟨fun hbusy => absurd hbusy h, fun _ => .inr ⟨past, guard, rfl⟩⟩

/-- The tasks of a call: those that were there before it, the call, and those that have been started
in it. -/
structure Frame (b : Session) (o : Operation) (b' : Session) (nested : List Task) (t : Task) :
    Prop where
  tasks : b'.tasks = nested ++ t :: b.tasks
  operation : t.operation = o
  entry : b.Entry o t.past

variable {s s' : Shared} {t : Task} {ts : List Task}

/-- The first question of an operation is answered by the folders that are in work. -/
theorem entry_of_answers {a : Except Failure FolderGuard} (h : Answers s (.acquire o.folder) a s')
    (hactive : s.locks.active = b.shared.locks.active) :
    b.Entry o [.asked (.acquire o.folder) a] ∧ (o.folder ∈ b.shared.locks.active → s' = s) := by
  cases h with
  | @acquire _ guard locks h =>
    obtain ⟨hfree, -, -⟩ := FolderLocks.acquire_eq_ok_iff.1 h
    rw [hactive] at hfree
    exact ⟨entry_admitted hfree [] guard, fun hmem => absurd hmem hfree⟩
  | refuse h =>
    obtain ⟨hbusy, rfl⟩ := FolderLocks.acquire_eq_error_iff.1 h
    rw [FolderLocks.isActive, hactive, List.contains_iff_mem] at hbusy
    exact ⟨⟨fun _ => .inr rfl, fun hfree => absurd hbusy hfree⟩, fun _ => rfl⟩

/-- An operation that is about to take a step asks for its folder, or has been admitted. -/
theorem Entry.begun (h : b.Entry t.operation t.past) (ht : t.OnCourse)
    (hrest : ∀ r, t.rest ≠ .done r) :
    (t.past = [] ∧ t.rest = t.operation.plan) ∨
      t.folder ∉ b.shared.locks.active ∧ ∀ st, b.Entry t.operation (st :: t.past) := by
  cases ht.stage with
  | waits hpast hplan => exact .inl ⟨hpast, hplan⟩
  | refused e hpast hdone => exact absurd hdone (hrest _)
  | ended guard past r hpast hdone => exact absurd hdone (hrest r)
  | works guard past p hpast =>
    have hfree : t.folder ∉ b.shared.locks.active := by
      intro hbusy
      -- a call that is refused takes no folder into work
      obtain hnone | hrefusal := h.refused hbusy
      · simp [hpast] at hnone
      · simp [hpast, List.append_eq_singleton_iff, refusal] at hrefusal
    rw [hpast]
    exact .inr ⟨hfree, fun st => entry_admitted hfree (st :: past) guard⟩

/-- A call that finds its folder in work returns that it is busy, and nothing else. -/
theorem Entry.returned (h : b.Entry t.operation t.past) (ht : t.OnCourse)
    (hbusy : t.folder ∈ b.shared.locks.active) {r : Except Failure t.operation.Value}
    (hdone : t.rest = .done r) :
    t.past = [refusal t.folder] ∧ r = .error (busy t.folder) := by
  have hpast := h.refused hbusy
  cases ht.stage with
  | waits _ hplan =>
    rw [hdone, plan_eq] at hplan
    cases hplan
  | refused e hrefused hrest =>
    rw [hrefused] at hpast
    obtain hnone | hsame := hpast
    · cases hnone
    · cases hsame
      rw [hdone] at hrest
      cases hrest
      exact ⟨hrefused, rfl⟩
  | works guard past p hworks => simp [hworks, List.append_eq_singleton_iff, refusal] at hpast
  | ended guard past r' hended => simp [hended, refusal] at hpast

/-- A move leaves all operations but the innermost alone. -/
theorem Moves.tasks {b₁ b₂ : Session} {e : Event} (hm : b₁.Moves e b₂) (htasks : b₁.tasks = t :: ts) :
    ∃ nested, b₂.tasks = nested ++ ts := by
  cases hm with
  | starts o => exact ⟨[Task.start o, t], congrArg (Task.start o :: ·) htasks⟩
  | outside => exact ⟨[t], htasks⟩
  | returns => exact ⟨[], (List.cons.inj htasks).2⟩
  | @sends _ u => exact ⟨[u.wait], congrArg (u.wait :: ·) (List.cons.inj htasks).2⟩
  | hears => exact ⟨[_], congrArg (_ :: ·) (List.cons.inj htasks).2⟩
  | asks => exact ⟨[_], congrArg (_ :: ·) (List.cons.inj htasks).2⟩

/-- A move of a call to an operation, while no other has been started in it. -/
theorem Entry.move {b₂ : Session} {τ₁ : List Event} {e : Event} (hidle : b₀.Idle)
    (hrun : b₀.Run τ b) (hrun₁ : b₀.Run τ₁ ⟨s, t :: b.tasks⟩) (h : b.Entry t.operation t.past)
    (hm : Moves ⟨s, t :: b.tasks⟩ e b₂) (hlength : b.tasks.length < b₂.tasks.length) :
    ∃ nested u, b.Frame t.operation b₂ nested u ∧
      (¬ e.Foreign → nested = [] ∧ (t.folder ∈ b.shared.locks.active → b₂.shared = s)) := by
  have ht := hrun₁.onCourse hidle t List.mem_cons_self
  cases hm with
  | starts o => exact ⟨[Task.start o], t, ⟨rfl, rfl, h⟩, fun hown => absurd trivial hown⟩
  | outside => exact ⟨[], t, ⟨rfl, rfl, h⟩, fun hown => absurd trivial hown⟩
  | returns => exact absurd hlength (Nat.lt_irrefl _)
  | sends hrest => exact ⟨[], t.wait, ⟨rfl, rfl, h⟩, fun _ => ⟨rfl, fun _ => rfl⟩⟩
  | hears r hrest =>
    obtain ⟨-, hplan⟩ | ⟨-, hentry⟩ := h.begun ht (by simp [hrest])
    · rw [hrest, plan_eq] at hplan
      cases hplan
    · exact ⟨[], _, ⟨rfl, rfl, hentry _⟩, fun _ => ⟨rfl, fun _ => rfl⟩⟩
  | @asks _ s' _ _ q k a hrest ha =>
    obtain ⟨hpast, hplan⟩ | ⟨hfree, hentry⟩ := h.begun ht (by simp [hrest])
    · -- the question that comes first, while the folders in work are those before the call
      rw [hrest, plan_eq] at hplan
      cases hplan
      have hworks : ¬ t.works = true := by
        rw [Task.works, hpast]
        exact Bool.false_ne_true
      have hactive : s.locks.active = b.shared.locks.active := by
        have hnow := hrun₁.active_eq hidle
        rwa [foldersAtWork_cons, if_neg hworks, ← hrun.active_eq hidle] at hnow
      obtain ⟨hentry, hsame⟩ := entry_of_answers ha hactive
      rw [← hpast] at hentry
      exact ⟨[], _, ⟨rfl, rfl, hentry⟩, fun _ => ⟨rfl, hsame⟩⟩
    · exact ⟨[], _, ⟨rfl, rfl, hentry _⟩, fun _ => ⟨rfl, fun hmem => absurd hmem hfree⟩⟩

/-- What a call does first is decided by the folders in work before it. -/
theorem During.entry (h : b.During o τ' b') (hidle : b₀.Idle) (hrun : b₀.Run τ b) :
    ∃ nested t, b.Frame o b' nested t := by
  induction h with
  | starts => exact ⟨[], Task.start o, rfl, rfl, entry_nil⟩
  | @moves τ' b₁ b₂ e h hm hlength ih =>
    obtain ⟨nested, t, htasks, rfl, hentry⟩ := ih
    have hrun₁ := h.run hrun
    obtain ⟨s₁, ts₁⟩ := b₁
    change ts₁ = nested ++ t :: b.tasks at htasks
    subst htasks
    -- the call moves itself, or an operation that has been started in it does
    cases nested with
    | nil =>
      obtain ⟨nested, u, hframe, -⟩ := hentry.move hidle hrun hrun₁ hm hlength
      exact ⟨nested, u, hframe⟩
    | cons u nested =>
      obtain ⟨nested', htasks'⟩ := hm.tasks rfl
      exact ⟨nested' ++ nested, t, by rw [htasks', List.append_assoc]; rfl, rfl, hentry⟩

/-- A call that finds its folder in work changes nothing, if nothing else happens meanwhile. -/
theorem During.unchanged (h : b.During o τ' b') (hidle : b₀.Idle) (hrun : b₀.Run τ b)
    (hbusy : o.folder ∈ b.shared.locks.active) (hτ' : ∀ e ∈ τ', ¬ e.Foreign) :
    b'.shared = b.shared ∧ ∃ t, b.Frame o b' [] t := by
  induction h with
  | starts => exact ⟨rfl, Task.start o, rfl, rfl, entry_nil⟩
  | @moves τ' b₁ b₂ e h hm hlength ih =>
    obtain ⟨hshared, t, htasks, rfl, hentry⟩ :=
      ih fun e he => hτ' e (List.mem_append_left _ he)
    have hrun₁ := h.run hrun
    obtain ⟨s₁, ts₁⟩ := b₁
    change ts₁ = t :: b.tasks at htasks
    subst htasks
    obtain ⟨nested, u, hframe, hown⟩ := hentry.move hidle hrun hrun₁ hm hlength
    obtain ⟨rfl, hsame⟩ := hown (hτ' e (List.mem_append_right _ List.mem_cons_self))
    exact ⟨(hsame hbusy).trans hshared, u, hframe⟩

end Session

variable {b₀ b : Session} {τ : List Event}

/-- **One operation on a folder at a time**: at every moment of every session the folders in work are
those of the operations in progress, no two of which are on one folder. A call on a folder in work
returns at once with the folder named as busy, has done nothing else, and changes nothing; a call on
any other folder begins by taking it into work; and either call, when it ends, leaves the folders in
work that it has found. -/
theorem single_flight (hidle : b₀.Idle) (hrun : b₀.Run τ b) :
    (∀ f, f ∈ b.shared.locks.active ↔ ∃ t ∈ b.tasks, t.InProgress ∧ t.folder = f) ∧
    (b.tasks.Pairwise fun t u => t.InProgress → u.InProgress → t.folder ≠ u.folder) ∧
    (∀ o : Operation, o.folder ∈ b.shared.locks.active →
      b₀.Run (τ ++ Event.ofOperation o [refusal o.folder]
        (.error (busy o.folder))) b) ∧
    ∀ o τ' b', b.During o τ' b' →
      ∃ nested t, b'.tasks = nested ++ t :: b.tasks ∧ t.operation = o ∧
        (o.folder ∈ b.shared.locks.active →
          (t.past = [] ∨ t.past = [refusal o.folder]) ∧
          (∀ r, t.rest = .done r →
            t.past = [refusal o.folder] ∧ r = .error (busy o.folder)) ∧
          ((∀ e ∈ τ', ¬ e.Foreign) → b'.shared = b.shared)) ∧
        (o.folder ∉ b.shared.locks.active →
          t.past = [] ∨ ∃ past guard, t.past = past ++ [.asked (.acquire o.folder) (.ok guard)]) ∧
        (nested = [] → ∀ r, t.rest = .done r →
          b'.shared.locks.active = b.shared.locks.active) := by
  refine ⟨fun f => ?_, hrun.pairwise hidle, fun o hbusy => ?_, fun o τ' b' hcall => ?_⟩
  · rw [hrun.active_eq hidle, mem_foldersAtWork]
    refine exists_congr fun t => and_congr_right fun ht => ?_
    rw [(hrun.onCourse hidle t ht).works_iff]
  · have hrefuse : b.shared.locks.acquire o.folder = .error (busy o.folder) :=
      FolderLocks.acquire_eq_error_iff.2 ⟨List.contains_iff_mem.2 hbusy, rfl⟩
    refine hrun.performs ?_ (.asked (.refuse hrefuse) (.nil _))
    rw [plan_eq]
    exact .ask (.done _)
  · obtain ⟨nested, t, htasks, rfl, hentry⟩ := hcall.entry hidle hrun
    have hrun' := hcall.run hrun
    have ht := hrun'.onCourse hidle t (by simp [htasks])
    refine ⟨nested, t, htasks, rfl, fun hbusy => ⟨?_, fun r hdone => ?_, fun hτ' => ?_⟩,
      fun hfree => ?_, ?_⟩
    · exact hentry.refused hbusy
    · exact hentry.returned ht hbusy hdone
    · exact (hcall.unchanged hidle hrun hbusy hτ').1
    · exact hentry.admitted hfree
    · -- an operation that has ended is not at work, so what remains is what was there before it
      rintro rfl r hdone
      have hworks : ¬ t.works = true := fun hworks => (ht.works_iff.1 hworks).2 r hdone
      have hnow := hrun'.active_eq hidle
      rw [htasks, List.nil_append, foldersAtWork_cons, if_neg hworks, ← hrun.active_eq hidle] at hnow
      exact hnow

/-- While a sync of the inbox is at work, a fetch from the inbox is refused and returns at once. -/
theorem single_flight_refuses : ∃ τ b, Session.fresh.Run τ b ∧
    (∃ t ∈ b.tasks, t.InProgress ∧ t.folder = "inbox") ∧
    b.shared.locks.active = ["inbox"] ∧
    Session.fresh.Run (τ ++ Event.ofOperation (.fetch "inbox" "5:1") [refusal "inbox"]
      (.error (.ofCause (.folderBusy "inbox")))) b := by
  have start := Session.Run.nil.snoc
    (@Session.Moves.starts Session.fresh.shared [] (.sync "inbox" {}))
  have acquire := start.snoc (.asks rfl (.acquire rfl))
  have hear := acquire.snoc (.asks rfl (.notify _ _))
  have read := hear.snoc (.asks rfl (.read _ _ _))
  have hold := read.snoc (.asks rfl (.policyKey _))
  have send := hold.snoc (.sends rfl rfl)
  obtain ⟨hactive, -, hrefuses, -⟩ := single_flight Session.fresh_idle send
  refine ⟨_, _, send, (hactive "inbox").1 (by decide), rfl, ?_⟩
  exact hrefuses (.fetch "inbox" "5:1") (by decide)

end Account

end MailSync
