import MailSync.Locks
import MailSync.Scenario.LockScript

/-!
# Folder locks as a set of guards

Guards are given out and dropped in any order, the first one not always last. Whatever the history,
the folders in work are those of the live guards, one guard for each.

* `FolderLocks.InUse.Matched.after` : no attempt to acquire a folder and no drop breaks the match
  between the folders in work and the live guards.
* `FolderLocks.InUse.guards_match_folders` : after any history, a folder is in work exactly if a
  guard for it is live, and it can be acquired exactly if none is; a drop gives back its own alone.
* `Scenario.LockRun.run_areGuards` : the same of scripts, which keep their guards in slots.
-/

namespace MailSync

namespace FolderLocks

/-- A use of the locks. A guard is dropped by its place among the live ones, whichever it is. -/
inductive Use where
  /-- Tries to acquire a folder. -/
  | acquire (folder : String)
  /-- Drops a live guard. -/
  | drop (place : Nat)

/-- Locks in use, with the guards that have been given out and not been dropped. -/
structure InUse where
  /-- The locks. -/
  locks : FolderLocks
  /-- The live guards, the latest first. -/
  live : List FolderGuard

namespace InUse

/-- New locks, with no guard given out. -/
def start : InUse :=
  ⟨.empty, []⟩

/-- A guard for the folder is live. -/
def Holds (s : InUse) (folder : String) : Prop :=
  ∃ g ∈ s.live, g.folder = folder

/-- What a use leaves behind. A refused attempt gives out no guard, and where there is no guard
nothing is dropped. -/
def after (s : InUse) : Use → InUse
  | .acquire folder =>
    match s.locks.acquire folder with
    | .error _ => s
    | .ok (g, locks) => ⟨locks, g :: s.live⟩
  | .drop place =>
    match s.live[place]? with
    | none => s
    | some g => ⟨s.locks.release g, s.live.eraseIdx place⟩

/-- What a history of uses leaves behind. -/
def afterAll (s : InUse) (uses : List Use) : InUse :=
  uses.foldl after s

/-- The folders in work are those of the live guards. -/
structure Matched (s : InUse) : Prop where
  /-- A folder is in work exactly if a guard for it is live. -/
  isActive_iff : ∀ f, s.locks.isActive f = true ↔ s.Holds f
  /-- No two live guards are for one folder. -/
  distinct : s.live.Pairwise (·.folder ≠ ·.folder)

variable {s : InUse} {f : String} {g : FolderGuard} {place : Nat}

theorem matched_start : start.Matched where
  isActive_iff f := by simp [start, isActive, empty, Holds]
  distinct := List.Pairwise.nil

/-! ### One use -/

theorem Matched.acquire_held (h : s.Matched) (hf : s.Holds f) :
    s.locks.acquire f = .error (.ofCause (.folderBusy f)) :=
  acquire_eq_error_iff.2 ⟨(h.isActive_iff f).2 hf, rfl⟩

theorem Matched.acquire_free (h : s.Matched) (hf : ¬s.Holds f) :
    ∃ locks, s.locks.acquire f = .ok (⟨f⟩, locks) := by
  cases hacquire : s.locks.acquire f with
  | error e => exact absurd ((h.isActive_iff f).1 (acquire_eq_error_iff.1 hacquire).1) hf
  | ok r =>
    obtain ⟨g, locks⟩ := r
    obtain ⟨-, rfl, -⟩ := acquire_eq_ok_iff.1 hacquire
    exact ⟨locks, rfl⟩

theorem after_acquire_error {e : Failure} (h : s.locks.acquire f = .error e) :
    s.after (.acquire f) = s := by
  simp only [after, h]

theorem after_acquire_ok {locks : FolderLocks} (h : s.locks.acquire f = .ok (g, locks)) :
    s.after (.acquire f) = ⟨locks, g :: s.live⟩ := by
  simp only [after, h]

theorem after_drop (h : s.live[place]? = some g) :
    s.after (.drop place) = ⟨s.locks.release g, s.live.eraseIdx place⟩ := by
  simp only [after, h]

/-- Where no two guards are for one folder, a guard that is taken out leaves those for the other
folders. -/
theorem exists_mem_eraseIdx {gs : List FolderGuard} (hdistinct : gs.Pairwise (·.folder ≠ ·.folder))
    (hg : gs[place]? = some g) :
    (∃ g' ∈ gs.eraseIdx place, g'.folder = f) ↔ f ≠ g.folder ∧ ∃ g' ∈ gs, g'.folder = f := by
  obtain ⟨hlt, rfl⟩ := List.getElem?_eq_some_iff.1 hg
  rw [List.pairwise_iff_getElem] at hdistinct
  simp only [List.mem_eraseIdx_iff_getElem]
  constructor
  · rintro ⟨_, ⟨i, hi, hne, rfl⟩, rfl⟩
    refine ⟨fun heq => ?_, _, List.getElem_mem hi, rfl⟩
    rcases Nat.lt_or_gt_of_ne hne with hlt' | hgt
    · exact hdistinct i place hi hlt hlt' heq
    · exact hdistinct place i hlt hi hgt heq.symm
  · rintro ⟨hne, _, hmem, rfl⟩
    obtain ⟨i, hi, rfl⟩ := List.mem_iff_getElem.1 hmem
    refine ⟨_, ⟨i, hi, ?_, rfl⟩, rfl⟩
    rintro rfl
    exact hne rfl

/-- No use breaks the match of folders and guards. -/
theorem Matched.after (h : s.Matched) (u : Use) : (s.after u).Matched := by
  cases u with
  | acquire f =>
    by_cases hf : s.Holds f
    · rwa [after_acquire_error (h.acquire_held hf)]
    · obtain ⟨locks, hacquire⟩ := h.acquire_free hf
      rw [after_acquire_ok hacquire]
      constructor
      · intro f'
        rw [isActive_acquire hacquire, Bool.or_eq_true, decide_eq_true_eq, h.isActive_iff]
        simp [Holds, eq_comm (a := f')]
      · exact List.pairwise_cons.2 ⟨fun g hg heq => hf ⟨g, hg, heq.symm⟩, h.distinct⟩
  | drop place =>
    cases hg : s.live[place]? with
    | none => simpa only [InUse.after, hg] using h
    | some g =>
      rw [after_drop hg]
      constructor
      · intro f'
        rw [isActive_release, Bool.and_eq_true, decide_eq_true_eq, h.isActive_iff]
        exact (exists_mem_eraseIdx h.distinct hg).symm
      · exact h.distinct.sublist (List.eraseIdx_sublist _ _)

/-! ### Histories -/

theorem Matched.afterAll (h : s.Matched) (uses : List Use) : (s.afterAll uses).Matched := by
  induction uses generalizing s with
  | nil => exact h
  | cons u uses ih => exact ih (h.after u)

/-- The locks are the set of the live guards' folders, and a use changes both alike. -/
structure AreGuards (s : InUse) : Prop extends Matched s where
  /-- Where no guard for a folder is live, it is acquired: there is one guard more, and this folder
  alone comes into work. -/
  acquire_free : ∀ f, ¬s.Holds f → ∃ locks, s.locks.acquire f = .ok (⟨f⟩, locks) ∧
    s.after (.acquire f) = ⟨locks, ⟨f⟩ :: s.live⟩ ∧
    ∀ f', locks.isActive f' = true ↔ f' = f ∨ s.locks.isActive f' = true
  /-- Where one is, the attempt is refused as the folder is busy, and changes nothing. -/
  acquire_held : ∀ f, s.Holds f →
    s.locks.acquire f = .error (.ofCause (.folderBusy f)) ∧ s.after (.acquire f) = s
  /-- A guard that is dropped, whichever it is, is live no longer, and its folder alone goes out of
  work. -/
  drop_live : ∀ place g, s.live[place]? = some g →
    (s.after (.drop place)).live = s.live.eraseIdx place ∧
      ∀ f', (s.after (.drop place)).locks.isActive f' = true ↔
        f' ≠ g.folder ∧ s.locks.isActive f' = true

theorem Matched.areGuards (h : s.Matched) : s.AreGuards where
  toMatched := h
  acquire_free f hf := by
    obtain ⟨locks, hacquire⟩ := h.acquire_free hf
    refine ⟨locks, hacquire, after_acquire_ok hacquire, fun f' => ?_⟩
    simp [isActive_acquire hacquire]
  acquire_held f hf := ⟨h.acquire_held hf, after_acquire_error (h.acquire_held hf)⟩
  drop_live place g hg := by
    rw [after_drop hg]
    refine ⟨rfl, fun f' => ?_⟩
    simp [isActive_release]

/-- After any history of attempts and drops, the locks are the set of the live guards' folders: what
is in work, what can be acquired and what a drop gives back is read off the guards. -/
theorem guards_match_folders (uses : List Use) : (start.afterAll uses).AreGuards :=
  (matched_start.afterAll uses).areGuards

/-- The guard that was given out first is dropped first, and its folder is taken once more. -/
example :
    (start.afterAll [.acquire "inbox", .acquire "sent", .acquire "inbox", .drop 1, .acquire "inbox",
      .drop 1]).live = [⟨"inbox"⟩] := by
  decide

end InUse

end FolderLocks

/-! ### Scripts -/

namespace Scenario

namespace LockRun

open FolderLocks (InUse Use)

/-- The locks of a script, with the guards in its slots. -/
def inUse (r : LockRun) : InUse :=
  ⟨r.locks, r.guards.map (·.2)⟩

/-- No step puts a guard into a slot that holds one. -/
def SparesSlots (r : LockRun) : List LockStep → Prop
  | [] => True
  | s :: rest =>
    (∀ slot folder, s = .acquire slot folder → slot ∉ r.guards.map (·.1)) ∧
      (r.step s).2.SparesSlots rest

variable {r : LockRun} {s : LockStep} {steps : List LockStep}

/-- Where every slot holds one guard at most, the guard that is found in a slot is dropped from its
place. -/
theorem filter_slots_eq {guards : List (String × FolderGuard)} {slot : String} {g : FolderGuard}
    (hslots : (guards.map (·.1)).Nodup)
    (hfind : guards.find? (·.1 = slot) = some (slot, g)) :
    ∃ place, (guards.map (·.2))[place]? = some g ∧
      (guards.filter (·.1 ≠ slot)).map (·.2) = (guards.map (·.2)).eraseIdx place := by
  obtain ⟨-, before, after, rfl, hbefore⟩ := List.find?_eq_some_iff_append.1 hfind
  refine ⟨before.length, by simp, ?_⟩
  have hafter : ∀ e ∈ after, e.1 ≠ slot := by
    rw [List.map_append, List.map_cons] at hslots
    have hnew : slot ∉ after.map (·.1) := (List.nodup_cons.1 (List.nodup_append.1 hslots).2.1).1
    rintro e he heq
    exact hnew (List.mem_map.2 ⟨e, he, heq⟩)
  have hkeep : ∀ e ∈ before ++ after, e.1 ≠ slot := by
    intro e he
    rcases List.mem_append.1 he with he | he
    · simpa using hbefore e he
    · exact hafter e he
  have hfilter : (before ++ (slot, g) :: after).filter (·.1 ≠ slot) = before ++ after := by
    rw [List.filter_append, List.filter_cons_of_neg (by simp), ← List.filter_append]
    exact List.filter_eq_self.2 fun e he => by simpa using hkeep e he
  rw [hfilter]
  simp [List.eraseIdx_append_of_length_le]

/-- A step of a script is a use of the locks, or none. -/
theorem step_inUse (hslots : (r.guards.map (·.1)).Nodup)
    (hs : ∀ slot folder, s = .acquire slot folder → slot ∉ r.guards.map (·.1)) :
    ((r.step s).2.guards.map (·.1)).Nodup ∧
      ∃ uses, (r.step s).2.inUse = r.inUse.afterAll uses := by
  cases s with
  | acquire slot folder =>
    cases hacquire : r.locks.acquire folder with
    | error e => exact ⟨by simpa [step, hacquire] using hslots, [], by simp [step, hacquire]; rfl⟩
    | ok p =>
      obtain ⟨g, locks⟩ := p
      have huse := InUse.after_acquire_ok (s := r.inUse) hacquire
      refine ⟨?_, [.acquire folder], ?_⟩
      · simpa [step, hacquire] using ⟨by simpa using hs slot folder rfl, hslots⟩
      · simpa [step, hacquire, inUse, InUse.afterAll] using huse.symm
  | release slot =>
    cases hfind : r.guards.find? (·.1 = slot) with
    | none => exact ⟨by simpa [step, hfind] using hslots, [], by simp [step, hfind]; rfl⟩
    | some e =>
      obtain ⟨slot', g⟩ := e
      obtain rfl : slot' = slot := by simpa using List.find?_some hfind
      obtain ⟨place, hg, herase⟩ := filter_slots_eq hslots hfind
      have huse := InUse.after_drop (s := r.inUse) hg
      refine ⟨?_, [.drop place], ?_⟩
      · simp only [step, hfind]
        exact hslots.sublist (List.filter_sublist.map _)
      · simp only [step, hfind, inUse, herase]
        exact huse.symm
  | isActive folder => exact ⟨hslots, [], rfl⟩

theorem run_inUse (hslots : (r.guards.map (·.1)).Nodup) (hsteps : r.SparesSlots steps) :
    ∃ uses, (r.run steps).2.inUse = r.inUse.afterAll uses := by
  induction steps generalizing r with
  | nil => exact ⟨[], rfl⟩
  | cons s rest ih =>
    obtain ⟨hs, hrest⟩ := hsteps
    obtain ⟨hslots', uses, huses⟩ := step_inUse hslots hs
    obtain ⟨later, hlater⟩ := ih hslots' hrest
    refine ⟨uses ++ later, ?_⟩
    rw [InUse.afterAll, List.foldl_append]
    change (r.run (s :: rest)).2.inUse = (r.inUse.afterAll uses).afterAll later
    rw [← huses, ← hlater]
    rfl

/-- After a script that takes no slot twice over, too, the locks are the set of the folders of the
guards in its slots. -/
theorem run_areGuards (hsteps : start.SparesSlots steps) : (start.run steps).2.inUse.AreGuards := by
  obtain ⟨uses, huses⟩ := run_inUse (r := start) List.nodup_nil hsteps
  rw [huses]
  exact (InUse.matched_start.afterAll uses).areGuards

end LockRun

end Scenario

end MailSync
