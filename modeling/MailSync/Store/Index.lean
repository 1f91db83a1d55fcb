/-!
# Indexes

A finite map with at most one entry for each key.

* `get?_insert` : after an insertion the key has the new value, and every other key what it had.
* `get?_erase` : after an erasure the key has no value, and every other key what it had.
-/

namespace MailSync

/-- A finite map. -/
structure Index (κ α : Type) where
  /-- The entries, the latest insertion first. -/
  entries : List (κ × α)
  nodup_keys : (entries.map (·.1)).Nodup

namespace Index

variable {κ α : Type} [DecidableEq κ]

/-- The index without entries. -/
def empty : Index κ α :=
  ⟨[], List.nodup_nil⟩

/-- The value at a key. -/
def get? (ix : Index κ α) (k : κ) : Option α :=
  (ix.entries.find? (·.1 = k)).map (·.2)

/-- The index in which a key has a value. -/
def insert (ix : Index κ α) (k : κ) (a : α) : Index κ α where
  entries := (k, a) :: ix.entries.filter (·.1 ≠ k)
  nodup_keys := by
    rw [List.map_cons, List.nodup_cons]
    refine ⟨fun h => ?_, ix.nodup_keys.sublist (List.filter_sublist.map _)⟩
    obtain ⟨e, he, hk⟩ := List.mem_map.1 h
    exact of_decide_eq_true (List.mem_filter.1 he).2 hk

/-- The index in which a key has no value. -/
def erase (ix : Index κ α) (k : κ) : Index κ α where
  entries := ix.entries.filter (·.1 ≠ k)
  nodup_keys := ix.nodup_keys.sublist (List.filter_sublist.map _)

/-- How many keys of an index have a property. -/
def countKeys (ix : Index κ α) (p : κ → Bool) : Nat :=
  ix.entries.countP (p ·.1)

@[simp] theorem get?_empty (k : κ) : (empty : Index κ α).get? k = none := rfl

theorem find?_filter_ne (entries : List (κ × α)) {k l : κ} (h : l ≠ k) :
    (entries.filter (·.1 ≠ k)).find? (·.1 = l) = entries.find? (·.1 = l) := by
  induction entries with
  | nil => rfl
  | cons e rest ih =>
    by_cases hk : e.1 = k
    · have hl : e.1 ≠ l := fun hl => h (hl.symm.trans hk)
      simp only [ne_eq, hk, not_true_eq_false, decide_false, Bool.false_eq_true,
        not_false_eq_true, List.filter_cons_of_neg, List.find?_cons]
      rw [ih, decide_eq_false (fun e => h e.symm)]
    · simp only [ne_eq, hk, not_false_eq_true, decide_true, List.filter_cons_of_pos,
        List.find?_cons]
      rw [ih]

@[simp] theorem get?_insert (ix : Index κ α) (k l : κ) (a : α) :
    (ix.insert k a).get? l = if l = k then some a else ix.get? l := by
  by_cases h : l = k
  · simp [get?, insert, h]
  · rw [if_neg h, get?, insert, List.find?_cons, decide_eq_false (fun e => h e.symm)]
    simp only [get?]
    rw [find?_filter_ne ix.entries h]

@[simp] theorem get?_erase (ix : Index κ α) (k l : κ) :
    (ix.erase k).get? l = if l = k then none else ix.get? l := by
  by_cases h : l = k
  · rw [if_pos h, get?, Option.map_eq_none_iff, List.find?_eq_none]
    intro e he hl
    exact of_decide_eq_true (List.mem_filter.1 he).2 ((of_decide_eq_true hl).trans h)
  · rw [if_neg h, get?, erase, get?, find?_filter_ne ix.entries h]

end Index

end MailSync
