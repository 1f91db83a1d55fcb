import MailSync.Proofs.SingleFlight
import MailSync.Proofs.StorageFrame

/-!
# While an operation has its folder

From the moment at which an operation takes its folder into work until it gives it back, nobody else
moves the folder's sync key. So at every moment in between the key is the one that the operation has
stored last, or else the one from the beginning, and what the operation has read and sent since then
agrees with it.

* `Account.Session.Tenure` : an operation has had its folder since a moment of a session.
* `Account.Session.Tenure.owns` : what the operation at work on a folder knows of the sync key.
* `Account.Session.Run.tenure` : every folder in work has been taken into work by some operation.
-/

namespace MailSync

namespace Account

open Exchange

variable {s s' : Shared}

/-- An answer changes the sync key of a folder as the step does. -/
theorem Answers.syncKey?_eq {q : Query} {a : q.Answer} (h : Answers s q a s') (f : String) :
    s'.store.syncKey? f =
      ((Plan.Step.asked q a).writes? (f, Store.syncKeyName)).or (s.store.syncKey? f) := by
  rw [Store.syncKey?, h.store_eq, Store.extra?_after]
  rfl

/-- An answer about the sync key of a folder says which one is stored. -/
theorem Answers.found {f : String} {found : Option String}
    (h : Answers s (.readExtra f Store.syncKeyName) (.ok found) s') :
    found = s.store.syncKey? f := by
  cases h
  rfl

namespace Session

/-- After these events an operation that has taken its folder into work at `b` still has it. -/
inductive Tenure (b : Session) (o : Operation) : List Event → Session → Prop
  | takes {b₁ : Session}
      (hm : b.Moves (.takes o (.asked (.acquire o.folder) (.ok ⟨o.folder⟩))) b₁) :
      Tenure b o [] b₁
  | moves {τ : List Event} {b₁ b₂ : Session} {e : Event} (h : Tenure b o τ b₁)
      (hm : b₁.Moves e b₂) (hactive : o.folder ∈ b₂.shared.locks.active) :
      Tenure b o (τ ++ [e]) b₂

/-- The sync key of a folder after an operation that has the folder to itself since `b` has taken
these steps. -/
def keyAfter (b : Session) (folder : String) (past : List Plan.Step) : Option String :=
  (keyWritten? folder past).or (b.syncKey? folder)

/-- What an operation that has had its folder since `b` knows of the folder's sync key. -/
structure Owns (b : Session) (o : Operation) (s : Shared) (t : Task) : Prop where
  operation : t.operation = o
  stored : s.store.syncKey? o.folder = b.keyAfter o.folder t.past
  reads : ∀ found before, readStep o.folder (.ok found) :: before <:+ t.past →
    found = b.keyAfter o.folder before
  requests : ∀ d r before, .sent d r :: before <:+ t.past →
    d.StartsFrom o.folder ((b.keyAfter o.folder before).getD Wire.initialKey)

variable {b₀ b b₁ b₂ b' : Session} {τ τ' : List Event} {o : Operation} {t : Task} {ts : List Task}

/-! ### One move -/

/-- A step that does to the key what it says, and agrees with it, is known. -/
theorem Owns.take (h : b.Owns o s t) {st : Plan.Step} {p : Plan (Except Failure t.operation.Value)}
    (hkey : s'.store.syncKey? o.folder =
      (st.writes? (o.folder, Store.syncKeyName)).or (s.store.syncKey? o.folder))
    (hread : ∀ found, st = readStep o.folder (.ok found) → found = s.store.syncKey? o.folder)
    (hsent : ∀ d r, st = .sent d r →
      d.StartsFrom o.folder ((s.store.syncKey? o.folder).getD Wire.initialKey)) :
    b.Owns o s' (t.take st p) where
  operation := h.operation
  stored := by
    rw [hkey, h.stored, keyAfter, keyAfter, ← Option.or_assoc]
    congr 1
    change _ = (st :: t.past).findSome? _
    rw [List.findSome?_cons]
    cases st.writes? (o.folder, Store.syncKeyName) <;> rfl
  reads := by
    intro found before hbefore
    obtain heq | hbefore := List.suffix_cons_iff.1 hbefore
    · obtain ⟨hst, rfl⟩ := List.cons.inj heq
      rw [hread found hst.symm, h.stored]
    · exact h.reads found before hbefore
  requests := by
    intro d r before hbefore
    obtain heq | hbefore := List.suffix_cons_iff.1 hbefore
    · obtain ⟨hst, rfl⟩ := List.cons.inj heq
      rw [← h.stored]
      exact hsent d r hst.symm
    · exact h.requests d r before hbefore

/-- What an operation knows stays true while the key stays where it is. -/
theorem Owns.congr (h : b.Owns o s t)
    (hkey : s'.store.syncKey? o.folder = s.store.syncKey? o.folder) : b.Owns o s' t :=
  ⟨h.operation, hkey.trans h.stored, h.reads, h.requests⟩

/-- The innermost operation changes no sync key but that of its folder, and that only while it is at
work. -/
theorem writes?_eq_none (hsound : coherent.Sound b₀ τ ⟨s, t :: ts⟩) (hcourse : t.OnCourse)
    {q : Query} {k : q.Answer → Plan (Except Failure t.operation.Value)} (hrest : t.rest = .ask q k)
    (a : q.Answer) {u : Task} (hu : u ∈ ts) (hworks : u.works = true) :
    (Plan.Step.asked q a).writes? (u.folder, Store.syncKeyName) = none := by
  cases hwrites : (Plan.Step.asked q a).writes? (u.folder, Store.syncKeyName) with
  | none => rfl
  | some value =>
    cases eq_asked_of_writes? hwrites
    obtain hq | hq | ⟨-, hfolder, -⟩ := hsound.asking hrest
    · cases hq
    · cases hq
    · have hself := hcourse.works_of_ask hrest nofun
      exact absurd hfolder (hsound.folder_ne hself hu hworks)

/-- An operation on a folder in work that is at work after an answer has been at work before it. -/
theorem works_of_take (hcourse : t.OnCourse) {q : Query}
    {k : q.Answer → Plan (Except Failure t.operation.Value)} {a : q.Answer}
    (hrest : t.rest = .ask q k) (ha : Answers s q a s') (hactive : t.folder ∈ s.locks.active)
    (hworks : (t.take (.asked q a) (k a)).works = true) : t.works = true := by
  obtain hself | ⟨hpast, rfl⟩ := hcourse.asks hrest
  · exact hself
  · cases ha with
    | acquire hlocks => exact absurd hactive (FolderLocks.acquire_eq_ok_iff.1 hlocks).1
    | refuse => rwa [Task.works_take] at hworks

/-! ### A tenure -/

theorem Tenure.active (h : b.Tenure o τ' b') : o.folder ∈ b'.shared.locks.active := by
  cases h with
  | moves _ _ hactive => exact hactive
  | takes hm =>
    cases hm with
    | asks _ ha =>
      cases ha with
      | acquire hlocks =>
        rw [(FolderLocks.acquire_eq_ok_iff.1 hlocks).2.2]
        exact List.mem_cons_self

theorem Tenure.run (h : b.Tenure o τ' b') (hrun : b₀.Run τ b) :
    b₀.Run (τ ++ .takes o (.asked (.acquire o.folder) (.ok ⟨o.folder⟩)) :: τ') b' := by
  induction h with
  | takes hm => exact hrun.snoc hm
  | moves _ hm _ ih =>
    rw [← List.cons_append, ← List.append_assoc]
    exact ih.snoc hm

/-- The operation that takes its folder into work owns it, and no other operation works on it. -/
theorem owns_of_acquire (hidle : b₀.Idle) (hrun : b₀.Run τ b)
    (hm : b.Moves (.takes o (.asked (.acquire o.folder) (.ok ⟨o.folder⟩))) b') :
    ∀ u ∈ b'.tasks, u.works = true → u.folder = o.folder → b.Owns o b'.shared u := by
  have hsound := hrun.cursor_sound hidle
  cases hm with
  | @asks s s' t ts _ k _ hrest ha =>
    cases ha with
    | acquire hlocks =>
      have hfree := (FolderLocks.acquire_eq_ok_iff.1 hlocks).1
      have hrests : t.works = false := by
        by_contra hworks
        refine hfree ?_
        rw [hsound.active_cons (by simpa using hworks)]
        exact List.mem_cons_self
      have hpast : t.past = [] := by
        obtain hworks | ⟨hpast, -⟩ := (hrun.onCourse hidle t List.mem_cons_self).asks hrest
        · rw [hrests] at hworks
          cases hworks
        · exact hpast
      refine List.forall_mem_cons.2 ⟨fun _ _ => ?_, fun u hu hworks hfolder => ?_⟩
      · refine Owns.take (s := s) ⟨rfl, ?_, ?_, ?_⟩ rfl (fun _ h => ?_) fun _ _ h => ?_
        · rw [keyAfter, hpast]
          rfl
        · simp [hpast]
        · simp [hpast]
        · cases h
        · cases h
      · refine absurd ?_ hfree
        have hactive : s.locks.active = foldersAtWork (t :: ts) := hsound.active
        rw [hactive, ← hfolder]
        exact mem_foldersAtWork.2 ⟨u, List.mem_cons_of_mem _ hu, hworks, rfl⟩

/-- A move while a folder is in work leaves it to its operation. -/
theorem owns_of_move (hidle : b₀.Idle) (hrun : b₀.Run τ b₁)
    (hactive : o.folder ∈ b₁.shared.locks.active)
    (h : ∀ u ∈ b₁.tasks, u.works = true → u.folder = o.folder → b.Owns o b₁.shared u) {e : Event}
    (hm : b₁.Moves e b₂) :
    ∀ u ∈ b₂.tasks, u.works = true → u.folder = o.folder → b.Owns o b₂.shared u := by
  have hsound := hrun.cursor_sound hidle
  cases hm with
  | starts =>
    refine List.forall_mem_cons.2 ⟨fun hworks => ?_, h⟩
    cases hworks
  | outside hlocks hkeys => exact fun u hu hworks hfolder => (h u hu hworks hfolder).congr (hkeys _)
  | returns => exact (List.forall_mem_cons.1 h).2
  | sends =>
    obtain ⟨ht, hts⟩ := List.forall_mem_cons.1 h
    refine List.forall_mem_cons.2 ⟨fun hworks hfolder => ?_, hts⟩
    obtain ⟨hoperation, hstored, hreads, hrequests⟩ := ht hworks hfolder
    exact ⟨hoperation, hstored, hreads, hrequests⟩
  | @hears s t ts d k r hrest =>
    obtain ⟨ht, hts⟩ := List.forall_mem_cons.1 h
    obtain ⟨hworks, -, hsend, -⟩ := hsound.sending hrest
    refine List.forall_mem_cons.2 ⟨fun _ hfolder => ?_, hts⟩
    change t.folder = o.folder at hfolder
    change d.StartsFrom t.folder _ at hsend
    rw [View.key, hsound.stored, hfolder] at hsend
    refine (ht hworks hfolder).take rfl (fun _ h => by cases h) fun d' r' h => ?_
    cases h
    exact hsend
  | @asks s s' t ts q k a hrest ha =>
    obtain ⟨ht, hts⟩ := List.forall_mem_cons.1 h
    have hcourse := hrun.onCourse hidle t List.mem_cons_self
    refine List.forall_mem_cons.2 ⟨fun hworks hfolder => ?_, fun u hu hworks hfolder => ?_⟩
    · have hbefore : t.works = true :=
        works_of_take hcourse hrest ha (by rw [show t.folder = _ from hfolder]; exact hactive) hworks
      refine (ht hbefore hfolder).take (ha.syncKey?_eq _) (fun found h => ?_) fun _ _ h => ?_
      · cases h
        exact ha.found
      · cases h
    · refine (hts u hu hworks hfolder).congr ?_
      change s'.store.syncKey? o.folder = _
      rw [ha.syncKey?_eq, ← hfolder, writes?_eq_none hsound hcourse hrest a hu hworks]
      rfl

/-- **While an operation has its folder**, the operation at work on the folder is that one, and it
knows the folder's sync key. -/
theorem Tenure.owns (h : b.Tenure o τ' b') (hidle : b₀.Idle) (hrun : b₀.Run τ b) :
    ∀ u ∈ b'.tasks, u.works = true → u.folder = o.folder → b.Owns o b'.shared u := by
  induction h with
  | takes hm => exact owns_of_acquire hidle hrun hm
  | moves h hm _ ih => exact owns_of_move hidle (h.run hrun) h.active ih hm

/-- Every folder in work has been taken into work by an operation that still has it. -/
theorem Run.tenure (hidle : b₀.Idle) (hrun : b₀.Run τ b') {f : String}
    (hf : f ∈ b'.shared.locks.active) :
    ∃ τ₁ b o τ₂, b₀.Run τ₁ b ∧ o.folder = f ∧ b.Tenure o τ₂ b' := by
  induction hrun with
  | nil => simp [hidle.locks] at hf
  | @snoc τ b₁ b₂ e hrun hm ih =>
    by_cases hbefore : f ∈ b₁.shared.locks.active
    · obtain ⟨τ₁, b, o, τ₂, hb, rfl, htenure⟩ := ih hbefore
      exact ⟨τ₁, b, o, _, hb, rfl, htenure.moves hm hf⟩
    · -- only an operation that takes its folder makes a folder active
      have hsound := hrun.cursor_sound hidle
      cases hm with
      | starts | sends | hears | returns => exact absurd hf hbefore
      | outside hlocks =>
        rw [hlocks] at hf
        exact absurd hf hbefore
      | @asks s s' t ts q k a hrest ha =>
        cases ha with
        | @acquire folder _ locks hlocks =>
          obtain ⟨-, rfl, hactive⟩ := FolderLocks.acquire_eq_ok_iff.1 hlocks
          have hfolder : folder = t.folder := by
            obtain hq | hq | ⟨-, hq⟩ := hsound.asking hrest
            · cases hq
              rfl
            · cases hq
            · exact hq.elim
          subst hfolder
          change f ∈ locks.active at hf
          rw [hactive] at hf
          obtain rfl | hf := List.mem_cons.1 hf
          · exact ⟨τ, _, t.operation, [], hrun, rfl, .takes (.asks hrest (.acquire hlocks))⟩
          · exact absurd hf hbefore
        | release => exact absurd (List.mem_filter.1 hf).1 hbefore
        | _ => exact absurd hf hbefore

end Session

end Account

end MailSync
