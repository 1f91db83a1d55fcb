import Mathlib.Data.List.Perm.Basic
import MailSync.Proofs.Effects

/-!
# What a store holds for one folder

Every extra text and every message is kept for one folder. So two stores may agree on a folder while
they differ on others, and what is stored for other folders does not part them.

* `Store.AgreeOn.after` : stores that agree on a folder still do when the same is stored in both.
* `Store.agreeOn_after` : nothing changes for a folder by what is stored for another one.
* `Store.sameContents_of_agreeOn` : stores that agree on all folders cannot be told apart.
-/

namespace MailSync

namespace Index

variable {κ α : Type} [DecidableEq κ]

/-- How many keys have a property is seen from the values at the keys that have it. -/
theorem countKeys_congr {ix ix' : Index κ α} {p : κ → Bool}
    (h : ∀ k, p k = true → ix.get? k = ix'.get? k) : ix.countKeys p = ix'.countKeys p := by
  have hcount : ∀ ix : Index κ α, ix.countKeys p = ((ix.entries.map (·.1)).filter p).length := by
    intro ix
    rw [countKeys, ← List.countP_eq_length_filter, List.countP_map]
    rfl
  have hperm : ((ix.entries.map (·.1)).filter p).Perm ((ix'.entries.map (·.1)).filter p) := by
    rw [List.perm_ext_iff_of_nodup (ix.nodup_keys.filter _) (ix'.nodup_keys.filter _)]
    intro k
    rw [List.mem_filter, List.mem_filter]
    refine and_congr_left fun hk => ?_
    rw [← not_iff_not, ← get?_eq_none_iff, ← get?_eq_none_iff, h k hk]
  rw [hcount, hcount, hperm.length_eq]

end Index

namespace Store

/-- The stores are of one kind, and hold the same extra texts and messages for a folder. -/
def AgreeOn (f : String) : Store → Store → Prop
  | table t, table t' =>
    (∀ n, t.extra? f n = t'.extra? f n) ∧ ∀ id, t.get? f id = t'.get? f id
  | rows t, rows t' =>
    t.strays = t'.strays ∧ (∀ n, t.extra? f n = t'.extra? f n) ∧ ∀ id, t.row? f id = t'.row? f id
  | _, _ => False

/-- All that can be asked of the stores is answered in the same way. -/
structure SameContents (s s' : Store) : Prop where
  extra : ∀ f n, s.extra? f n = s'.extra? f n
  get : ∀ f id, s.get f id = s'.get f id
  sheet : ∀ f id, s.sheet? f id = s'.sheet? f id
  count : ∀ f, s.count f = s'.count f

variable {s s' s'' : Store} {f : String}

namespace AgreeOn

theorem refl (f : String) (s : Store) : AgreeOn f s s := by
  cases s with
  | table t => exact ⟨fun _ => rfl, fun _ => rfl⟩
  | rows t => exact ⟨rfl, fun _ => rfl, fun _ => rfl⟩

theorem symm (h : AgreeOn f s s') : AgreeOn f s' s := by
  cases s <;> cases s'
  case table.table => exact ⟨fun n => (h.1 n).symm, fun id => (h.2 id).symm⟩
  case rows.rows =>
    exact ⟨h.1.symm, fun n => (h.2.1 n).symm, fun id => (h.2.2 id).symm⟩
  all_goals exact h.elim

theorem trans (h : AgreeOn f s s') (h' : AgreeOn f s' s'') : AgreeOn f s s'' := by
  cases s <;> cases s' <;> cases s''
  case table.table.table =>
    exact ⟨fun n => (h.1 n).trans (h'.1 n), fun id => (h.2 id).trans (h'.2 id)⟩
  case rows.rows.rows =>
    exact ⟨h.1.trans h'.1, fun n => (h.2.1 n).trans (h'.2.1 n),
      fun id => (h.2.2 id).trans (h'.2.2 id)⟩
  all_goals first
    | exact h.elim
    | exact h'.elim

theorem extra?_eq (h : AgreeOn f s s') (n : String) : s.extra? f n = s'.extra? f n := by
  cases s <;> cases s'
  case table.table => exact h.1 n
  case rows.rows => exact h.2.1 n
  all_goals exact h.elim

theorem get_eq (h : AgreeOn f s s') (id : String) : s.get f id = s'.get f id := by
  cases s <;> cases s'
  case table.table => exact congrArg Except.ok (h.2 id)
  case rows.rows =>
    simp only [get, Rows.get]
    rw [h.2.2 id]
  all_goals exact h.elim

theorem sheet?_eq (h : AgreeOn f s s') (id : String) : s.sheet? f id = s'.sheet? f id := by
  cases s <;> cases s'
  case table.table => rfl
  case rows.rows =>
    simp only [sheet?]
    rw [h.2.2 id]
  all_goals exact h.elim

theorem count_eq (h : AgreeOn f s s') : s.count f = s'.count f := by
  cases s <;> cases s'
  case table.table t t' =>
    simp only [count, Table.count]
    refine Index.countKeys_congr fun k hk => ?_
    obtain ⟨g, id⟩ := k
    obtain rfl : g = f := by simpa using hk
    exact h.2 id
  case rows.rows t t' =>
    simp only [count, Rows.count]
    rw [h.1]
    refine congrArg (· + _) (Index.countKeys_congr fun k hk => ?_)
    obtain ⟨g, id⟩ := k
    obtain rfl : g = f := by simpa using hk
    exact h.2.2 id
  all_goals exact h.elim

theorem setExtra (h : AgreeOn f s s') (folder name value : String) :
    AgreeOn f (s.setExtra folder name value) (s'.setExtra folder name value) := by
  cases s <;> cases s'
  case table.table t t' =>
    refine ⟨fun n => ?_, h.2⟩
    rw [Table.extra?_setExtra, Table.extra?_setExtra, h.1 n]
  case rows.rows t t' =>
    refine ⟨h.1, fun n => ?_, h.2.2⟩
    rw [Rows.extra?_setExtra, Rows.extra?_setExtra, h.2.1 n]
  all_goals exact h.elim

theorem save (h : AgreeOn f s s') (m : Message) (complete : Bool) :
    AgreeOn f (s.save m complete) (s'.save m complete) := by
  cases s <;> cases s'
  case table.table t t' =>
    refine ⟨fun n => ?_, fun id => ?_⟩
    · rw [Table.extra?_save, Table.extra?_save, h.1 n]
    · rw [Table.get?_save, Table.get?_save, h.2 id]
      by_cases hm : (f, id) = keyOf m
      · -- whether the save counts depends on what both have at this place
        have hkept : t.hasComplete (keyOf m) = t'.hasComplete (keyOf m) := by
          rw [← hm]
          exact congrArg (Option.any Stored.complete) (h.2 id)
        rw [hkept]
      · simp [hm]
  case rows.rows t t' =>
    have hstrays : ∀ t : Rows, (t.save m complete).strays = t.strays := by
      intro t
      unfold Rows.save
      split <;> rfl
    refine ⟨?_, fun n => ?_, fun id => ?_⟩
    · rw [hstrays, hstrays, h.1]
    · rw [Rows.extra?_save, Rows.extra?_save, h.2.1 n]
    · rw [Rows.row?_save, Rows.row?_save, h.2.2 id]
      by_cases hm : (f, id) = keyOf m
      · have hkept : t.hasComplete (keyOf m) = t'.hasComplete (keyOf m) := by
          rw [← hm]
          exact congrArg (Option.any Row.isComplete) (h.2.2 id)
        rw [hkept]
      · simp [hm]
  all_goals exact h.elim

/-- The same step leads stores that agree on a folder to stores that do. -/
theorem after (h : AgreeOn f s s') (st : Plan.Step) : AgreeOn f (s.after st) (s'.after st) := by
  unfold Store.after
  split
  · exact h.setExtra ..
  · exact h.save ..
  · exact h

end AgreeOn

theorem agreeOn_setExtra (s : Store) {folder : String} (name value : String) (h : folder ≠ f) :
    AgreeOn f (s.setExtra folder name value) s := by
  cases s with
  | table t =>
    refine ⟨fun n => ?_, fun _ => rfl⟩
    rw [Table.extra?_setExtra, if_neg fun heq => h (congrArg Prod.fst heq).symm]
  | rows t =>
    refine ⟨rfl, fun n => ?_, fun _ => rfl⟩
    rw [Rows.extra?_setExtra, if_neg fun heq => h (congrArg Prod.fst heq).symm]

theorem agreeOn_save (s : Store) {m : Message} (complete : Bool) (h : m.folder ≠ f) :
    AgreeOn f (s.save m complete) s := by
  have hplace : ∀ id, (f, id) ≠ keyOf m := fun id heq => h (congrArg Prod.fst heq).symm
  cases s with
  | table t =>
    refine ⟨fun n => t.extra?_save m complete f n, fun id => ?_⟩
    rw [Table.get?_save, if_neg fun hm => hplace id hm.1]
  | rows t =>
    refine ⟨?_, fun n => t.extra?_save m complete f n, fun id => ?_⟩
    · unfold Rows.save
      split <;> rfl
    · rw [Rows.row?_save, if_neg fun hm => hplace id hm.1]

/-- A step that stores something for another folder at most leaves a folder as it is. -/
theorem agreeOn_after (s : Store) {st : Plan.Step}
    (hwrite : ∀ folder name value a, st = .asked (.writeExtra folder name value) a → folder ≠ f)
    (hsave : ∀ m complete a, st = .asked (.save m complete) a → m.folder ≠ f) :
    AgreeOn f (s.after st) s := by
  unfold after
  split
  · exact s.agreeOn_setExtra _ _ (hwrite _ _ _ _ rfl)
  · exact s.agreeOn_save _ (hsave _ _ _ rfl)
  · exact .refl f s

/-- Stores that agree on every folder cannot be told apart. -/
theorem sameContents_of_agreeOn (h : ∀ f, AgreeOn f s s') : SameContents s s' where
  extra f := (h f).extra?_eq
  get f := (h f).get_eq
  sheet f := (h f).sheet?_eq
  count f := (h f).count_eq

end Store

end MailSync
