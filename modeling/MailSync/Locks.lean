import MailSync.Failure

/-!
# Folder locks

At most one operation at a time works on a folder. The locks are the set of the folders in work; who
acquires a folder gets a guard for it, and gives the guard back to release it.

* `isActive_acquire` : acquiring a folder makes that folder active and no other.
* `isActive_release` : releasing a folder makes that folder inactive and no other.
-/

namespace MailSync

/-- The folders in work. -/
structure FolderLocks where
  /-- The folders, the latest first. -/
  active : List String
  nodup_active : active.Nodup
  deriving DecidableEq, Repr

/-- The right to work on a folder. -/
structure FolderGuard where
  /-- The folder. -/
  folder : String
  deriving DecidableEq, Repr

namespace FolderLocks

/-- No folder is in work. -/
def empty : FolderLocks :=
  ⟨[], List.nodup_nil⟩

/-- The folder is in work. -/
def isActive (l : FolderLocks) (folder : String) : Bool :=
  l.active.contains folder

/-- Takes a folder into work, unless it is. -/
def acquire (l : FolderLocks) (folder : String) : Except Failure (FolderGuard × FolderLocks) :=
  if h : folder ∈ l.active then .error (.ofCause (.folderBusy folder))
  else .ok (⟨folder⟩, ⟨folder :: l.active, List.nodup_cons.2 ⟨h, l.nodup_active⟩⟩)

/-- Takes the folder of a guard out of work. -/
def release (l : FolderLocks) (g : FolderGuard) : FolderLocks :=
  ⟨l.active.filter (· ≠ g.folder), l.nodup_active.sublist List.filter_sublist⟩

theorem acquire_eq_error_iff {l : FolderLocks} {folder : String} {e : Failure} :
    l.acquire folder = .error e ↔
      l.isActive folder = true ∧ e = .ofCause (.folderBusy folder) := by
  unfold acquire isActive
  split <;> simp_all [eq_comm]

theorem acquire_eq_ok_iff {l l' : FolderLocks} {folder : String} {g : FolderGuard} :
    l.acquire folder = .ok (g, l') ↔
      folder ∉ l.active ∧ g = ⟨folder⟩ ∧ l'.active = folder :: l.active := by
  obtain ⟨active', _⟩ := l'
  unfold acquire
  split <;> simp_all [eq_comm]

theorem isActive_acquire {l l' : FolderLocks} {folder : String} {g : FolderGuard}
    (h : l.acquire folder = .ok (g, l')) (f : String) :
    l'.isActive f = (decide (f = folder) || l.isActive f) := by
  unfold acquire at h
  split at h
  · simp at h
  · simp only [Except.ok.injEq, Prod.mk.injEq] at h
    simp [← h.2, isActive]

theorem isActive_release (l : FolderLocks) (g : FolderGuard) (f : String) :
    (l.release g).isActive f = (decide (f ≠ g.folder) && l.isActive f) := by
  rw [Bool.eq_iff_iff]
  simp [isActive, release, and_comm]

end FolderLocks

end MailSync
