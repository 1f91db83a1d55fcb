import Mathlib.Data.Finset.Card
import MailSync.Store.Table

/-!
# What a history of saves leaves behind

The contents of a store in memory are read off the saves that have been made. A save of the whole of
a message replaces whatever is at its place. A save of a beginning replaces a beginning only, so the
last save is not always the one that counts.

* `Table.get?_saveAll` : at every place stands the message of the last save of a whole one there,
  or, if there has been none, that of the last save of a beginning.
* `Table.count_saveAll` : a folder has as many messages as different ids have been saved for it.
* `Table.history_determines` : what a store holds is determined by its history of saves, and a
  complete message stays complete.
-/

namespace MailSync

namespace Index

variable {κ α : Type} [DecidableEq κ]

theorem get?_eq_none_iff {ix : Index κ α} {k : κ} :
    ix.get? k = none ↔ k ∉ ix.entries.map (·.1) := by
  simp only [get?, Option.map_eq_none_iff, List.find?_eq_none, decide_eq_true_eq, List.mem_map,
    not_exists, not_and]

end Index

namespace Store

/-- The message that the last save of a kind, whole or in part, has brought to a place. -/
def lastSaved (k : Key) (complete : Bool) (saves : List (Message × Bool)) : Option Message :=
  (saves.reverse.find? fun s => keyOf s.1 = k ∧ s.2 = complete).map (·.1)

theorem lastSaved_append (k : Key) (complete : Bool) (saves : List (Message × Bool)) (m : Message)
    (c : Bool) : lastSaved k complete (saves ++ [(m, c)]) =
      if keyOf m = k ∧ c = complete then some m else lastSaved k complete saves := by
  rw [lastSaved, List.reverse_append, List.reverse_singleton, List.singleton_append,
    List.find?_cons]
  by_cases h : keyOf m = k ∧ c = complete
  · simp [h]
  · simp [h, lastSaved]

theorem lastSaved_eq_none_iff {k : Key} {complete : Bool} {saves : List (Message × Bool)} :
    lastSaved k complete saves = none ↔ ∀ m, keyOf m = k → (m, complete) ∉ saves := by
  simp only [lastSaved, Option.map_eq_none_iff, List.find?_eq_none, List.mem_reverse,
    decide_eq_true_eq, not_and, Prod.forall]
  constructor
  · rintro h m hm hmem
    exact h m complete hmem hm rfl
  · rintro h m c hmem hm rfl
    exact h m hm hmem

theorem mem_of_lastSaved {k : Key} {complete : Bool} {saves : List (Message × Bool)} {m : Message}
    (h : lastSaved k complete saves = some m) : keyOf m = k ∧ (m, complete) ∈ saves := by
  obtain ⟨s, hs, rfl⟩ := Option.map_eq_some_iff.1 h
  obtain ⟨hplace, rfl⟩ : keyOf s.1 = k ∧ s.2 = complete := by
    simpa using List.find?_some hs
  exact ⟨hplace, List.mem_reverse.1 (List.mem_of_find?_eq_some hs)⟩

namespace Table

/-- The store after messages have been saved in turn, each whole or in part. -/
def saveAll (t : Table) (saves : List (Message × Bool)) : Table :=
  saves.foldl (fun t s => t.save s.1 s.2) t

theorem saveAll_append (t : Table) (saves later : List (Message × Bool)) :
    t.saveAll (saves ++ later) = (t.saveAll saves).saveAll later :=
  List.foldl_append

variable {saves : List (Message × Bool)} {folder id : String}

/-- At every place stands what the last save of a whole message has brought there, or else what the
last save of a beginning has. -/
theorem get?_saveAll (saves : List (Message × Bool)) (folder id : String) :
    (empty.saveAll saves).get? folder id =
      ((lastSaved (folder, id) true saves).map fun m => ⟨m, true⟩).or
        ((lastSaved (folder, id) false saves).map fun m => ⟨m, false⟩) := by
  induction saves using List.reverseRecOn generalizing folder id with
  | nil => rfl
  | append_singleton saves s ih =>
    obtain ⟨m, complete⟩ := s
    rw [saveAll_append]
    change ((empty.saveAll saves).save m complete).get? folder id = _
    rw [get?_save, lastSaved_append, lastSaved_append]
    -- whether the save is taken depends on what the place of the message held before
    have hcomplete : (empty.saveAll saves).hasComplete (keyOf m) =
        (lastSaved (keyOf m) true saves).isSome := by
      change ((empty.saveAll saves).get? m.folder m.id).any (·.complete) = _
      rw [ih]
      change _ = (lastSaved (m.folder, m.id) true saves).isSome
      cases lastSaved (m.folder, m.id) true saves with
      | some m' => rfl
      | none => cases lastSaved (m.folder, m.id) false saves <;> rfl
    by_cases hplace : keyOf m = (folder, id)
    · rw [hcomplete, hplace, ih]
      cases complete with
      | true => simp
      | false => cases lastSaved (folder, id) true saves <;> simp
    · simp [hplace, Ne.symm hplace, ih]

theorem get?_saveAll_eq_none_iff :
    (empty.saveAll saves).get? folder id = none ↔ ∀ s ∈ saves, keyOf s.1 ≠ (folder, id) := by
  rw [get?_saveAll, Option.or_eq_none_iff, Option.map_eq_none_iff, Option.map_eq_none_iff,
    lastSaved_eq_none_iff, lastSaved_eq_none_iff]
  constructor
  · rintro ⟨hwhole, hpart⟩ ⟨m, complete⟩ hmem hm
    cases complete with
    | true => exact hwhole m hm hmem
    | false => exact hpart m hm hmem
  · intro h
    exact ⟨fun m hm hmem => h _ hmem hm, fun m hm hmem => h _ hmem hm⟩

/-- The stored message is one that has been saved for its place, in the way in which it is
stored. -/
theorem mem_of_get?_saveAll {st : Stored} (h : (empty.saveAll saves).get? folder id = some st) :
    keyOf st.message = (folder, id) ∧ (st.message, st.complete) ∈ saves := by
  rw [get?_saveAll, Option.or_eq_some_iff] at h
  rcases h with h | ⟨-, h⟩
  · obtain ⟨m, hm, rfl⟩ := Option.map_eq_some_iff.1 h
    exact mem_of_lastSaved hm
  · obtain ⟨m, hm, rfl⟩ := Option.map_eq_some_iff.1 h
    exact mem_of_lastSaved hm

/-- A stored message is complete if and only if a whole one has been saved for its place. -/
theorem complete_iff {st : Stored} (h : (empty.saveAll saves).get? folder id = some st) :
    st.complete = true ↔ ∃ m, keyOf m = (folder, id) ∧ (m, true) ∈ saves := by
  constructor
  · intro hcomplete
    obtain ⟨hplace, hmem⟩ := mem_of_get?_saveAll h
    rw [hcomplete] at hmem
    exact ⟨st.message, hplace, hmem⟩
  · rintro ⟨m, hplace, hmem⟩
    rw [get?_saveAll] at h
    cases hlast : lastSaved (folder, id) true saves with
    | none => exact absurd hmem (lastSaved_eq_none_iff.1 hlast m hplace)
    | some m' =>
      rw [hlast] at h
      cases h
      rfl

/-- A folder has as many messages as different ids have been saved for it. -/
theorem count_saveAll (saves : List (Message × Bool)) (folder : String) :
    (empty.saveAll saves).count folder =
      ((saves.filter (·.1.folder = folder)).map (·.1.id)).toFinset.card := by
  generalize ht : empty.saveAll saves = t
  let keys := (t.messages.entries.map (·.1)).filter (·.1 = folder)
  have hcount : t.count folder = (keys.map (·.2)).length := by
    rw [List.length_map, count, Index.countKeys, ← List.countP_eq_length_filter, List.countP_map]
    rfl
  -- the keys all have the folder for their first part, so they differ in their second
  have hnodup : (keys.map (·.2)).Nodup := by
    refine List.Nodup.map_on ?_ (t.messages.nodup_keys.filter _)
    intro k hk k' hk' hid
    have hfolder : k.1 = folder := of_decide_eq_true (List.mem_filter.1 hk).2
    have hfolder' : k'.1 = folder := of_decide_eq_true (List.mem_filter.1 hk').2
    exact Prod.ext (hfolder.trans hfolder'.symm) hid
  rw [hcount, ← List.toFinset_card_of_nodup hnodup]
  refine congrArg Finset.card (Finset.ext fun id => ?_)
  have hkey : id ∈ keys.map (·.2) ↔ t.get? folder id ≠ none := by
    rw [get?, Ne, Index.get?_eq_none_iff, not_not]
    simp [keys]
  rw [List.mem_toFinset, hkey, ← ht, Ne, get?_saveAll_eq_none_iff]
  simp only [keyOf, List.mem_toFinset, List.mem_map, List.mem_filter, decide_eq_true_eq, ne_eq,
    Prod.mk.injEq, not_forall, not_not, exists_prop, and_assoc]

/-- **A history of saves determines what a store holds**: nothing is at a place for which nothing has
been saved; a message is complete if and only if a whole one has been saved for its place, and is
that of the last such save, or of the last save of a beginning if there has been no such; a folder
has as many messages as different ids have been saved for it; and a complete message stays
complete. -/
theorem history_determines (saves : List (Message × Bool)) (folder id : String) :
    ((empty.saveAll saves).get? folder id = none ↔ ∀ s ∈ saves, keyOf s.1 ≠ (folder, id)) ∧
    (∀ st, (empty.saveAll saves).get? folder id = some st →
      (st.complete = true ↔ ∃ m, keyOf m = (folder, id) ∧ (m, true) ∈ saves) ∧
      some st.message =
        (lastSaved (folder, id) true saves).or (lastSaved (folder, id) false saves)) ∧
    (empty.saveAll saves).count folder =
      ((saves.filter (·.1.folder = folder)).map (·.1.id)).toFinset.card ∧
    ∀ later st, (empty.saveAll saves).get? folder id = some st → st.complete = true →
      ∃ st', (empty.saveAll (saves ++ later)).get? folder id = some st' ∧ st'.complete = true := by
  refine ⟨get?_saveAll_eq_none_iff, fun st h => ⟨complete_iff h, ?_⟩, count_saveAll saves folder,
    fun later st h hcomplete => ?_⟩
  · rw [get?_saveAll] at h
    cases hlast : lastSaved (folder, id) true saves with
    | some m =>
      rw [hlast] at h
      cases h
      rfl
    | none =>
      rw [hlast] at h
      obtain ⟨m, hm, rfl⟩ := Option.map_eq_some_iff.1 h
      exact hm.symm
  · obtain ⟨m, hplace, hmem⟩ := (complete_iff h).1 hcomplete
    have hmem' : (m, true) ∈ saves ++ later := List.mem_append_left _ hmem
    cases hget : (empty.saveAll (saves ++ later)).get? folder id with
    | none => exact absurd hplace (get?_saveAll_eq_none_iff.1 hget _ hmem')
    | some st' => exact ⟨st', rfl, (complete_iff hget).2 ⟨m, hplace, hmem'⟩⟩

/-- A beginning that is saved before the whole of a message is replaced, and one that is saved after
it is not. -/
theorem history_keeps_whole :
    ∃ st, (empty.saveAll [(.parse "inbox" "5:1" [65], false), (.parse "inbox" "5:1" [65, 66], true),
        (.parse "inbox" "5:1" [], false)]).get? "inbox" "5:1" = some st ∧
      st.complete = true ∧ st.message = .parse "inbox" "5:1" [65, 66] := by
  have hget : (empty.saveAll [(.parse "inbox" "5:1" [65], false),
      (.parse "inbox" "5:1" [65, 66], true), (.parse "inbox" "5:1" [], false)]).get?
        "inbox" "5:1" = some ⟨.parse "inbox" "5:1" [65, 66], true⟩ := rfl
  obtain ⟨-, hstored, -, -⟩ := history_determines [(.parse "inbox" "5:1" [65], false),
    (.parse "inbox" "5:1" [65, 66], true), (.parse "inbox" "5:1" [], false)] "inbox" "5:1"
  obtain ⟨hcomplete, hmessage⟩ := hstored _ hget
  refine ⟨_, hget, hcomplete.2 ⟨.parse "inbox" "5:1" [65, 66], rfl, by simp⟩, ?_⟩
  exact Option.some.inj hmessage

end Table

end Store

end MailSync
