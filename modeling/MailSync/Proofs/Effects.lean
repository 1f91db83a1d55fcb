import MailSync.Proofs.Discipline
import MailSync.Proofs.SaveHistory

/-!
# What steps do to the store

The store only changes by extra texts that are written and messages that are saved, and a call that
fails changes nothing. So what steps make of a store can be read off the steps: an extra text is the
one written last, and messages are what the saves make of them, in their order.

* `Store.extra?_replay` : every extra text is the one that the steps have written last, if any.
* `Store.replay_sameMessages` : the messages are those that the saves among the steps lead to.
* `Store.get_replay`, `Store.count_replay` : where the steps save nothing, nothing changes.
* `Account.AnswersAll.store_eq` : steps that are answered one after another do just that.
-/

namespace MailSync

theorem Index.countKeys_insert {κ α : Type} [DecidableEq κ] (ix : Index κ α) {k : κ} (a : α)
    {p : κ → Bool} (hk : p k = false) : (ix.insert k a).countKeys p = ix.countKeys p := by
  simp only [countKeys, insert, List.countP_cons, hk, List.countP_filter]
  refine List.countP_congr fun e _ => ?_
  simp only [Bool.and_eq_true, decide_eq_true_eq, and_iff_left_iff_imp]
  rintro he rfl
  simp [hk] at he

namespace Plan.Step

/-- The text that a step writes to a place of the extra texts. -/
def writes? (k : Store.Key) : Step → Option String
  | .asked (.writeExtra folder name value) (.ok _) =>
    if k = (folder, name) then some value else none
  | _ => none

end Plan.Step

namespace Store

/-- The store after a step of an operation. -/
def after (s : Store) : Plan.Step → Store
  | .asked (.writeExtra folder name value) (.ok _) => s.setExtra folder name value
  | .asked (.save m complete) (.ok _) => s.save m complete
  | _ => s

/-- The store after steps of an operation. -/
def replay (s : Store) (t : List Plan.Step) : Store :=
  t.foldl after s

/-- The store after messages have been saved in turn, each whole or in part. -/
def saveAll (s : Store) (saves : List (Message × Bool)) : Store :=
  saves.foldl (fun s m => s.save m.1 m.2) s

variable {s s' s'' : Store} {t t' : List Plan.Step} {st : Plan.Step} {f id : String}

theorem replay_cons : s.replay (st :: t) = (s.after st).replay t := rfl

theorem replay_concat : s.replay (t ++ [st]) = (s.replay t).after st :=
  List.foldl_append

/-! ### Extra texts -/

theorem extra?_after (s : Store) (st : Plan.Step) (f n : String) :
    (s.after st).extra? f n = (st.writes? (f, n)).or (s.extra? f n) := by
  unfold after
  split
  · rw [extra?_setExtra, Plan.Step.writes?]
    split <;> rfl
  · exact extra?_save ..
  · rename_i hwrite _
    unfold Plan.Step.writes?
    split
    · exact absurd rfl (hwrite _ _ _ _)
    · rfl

/-- Every extra text is the one that has been written last, if any. -/
theorem extra?_replay (s : Store) (t : List Plan.Step) (f n : String) :
    (s.replay t).extra? f n =
      (t.reverse.findSome? (Plan.Step.writes? (f, n))).or (s.extra? f n) := by
  induction t generalizing s with
  | nil => rfl
  | cons st t ih =>
    rw [replay_cons, ih, extra?_after, List.reverse_cons, List.findSome?_append, Option.or_assoc]
    cases h : st.writes? (f, n) <;> simp [h]

/-! ### Messages -/

/-- The stores are of one kind, and have the same messages. -/
def SameMessages : Store → Store → Prop
  | table t, table t' => t.messages = t'.messages
  | rows t, rows t' => t.messages = t'.messages ∧ t.strays = t'.strays
  | _, _ => False

namespace SameMessages

theorem refl (s : Store) : SameMessages s s := by
  cases s with
  | table t => exact rfl
  | rows t => exact ⟨rfl, rfl⟩

theorem symm (h : SameMessages s s') : SameMessages s' s := by
  cases s <;> cases s'
  · exact Eq.symm h
  · exact h
  · exact h
  · exact ⟨h.1.symm, h.2.symm⟩

theorem trans (h : SameMessages s s') (h' : SameMessages s' s'') : SameMessages s s'' := by
  cases s <;> cases s' <;> cases s''
  case table.table.table => exact Eq.trans h h'
  case rows.rows.rows => exact ⟨h.1.trans h'.1, h.2.trans h'.2⟩
  all_goals first
    | exact h.elim
    | exact h'.elim

theorem get_eq (h : SameMessages s s') (f id : String) : s.get f id = s'.get f id := by
  cases s <;> cases s'
  case table.table t t' =>
    simp only [get, Table.get?]
    rw [show t.messages = t'.messages from h]
  case rows.rows t t' =>
    simp only [get, Rows.get, Rows.row?]
    rw [h.1]
  all_goals exact h.elim

theorem sheet?_eq (h : SameMessages s s') (f id : String) : s.sheet? f id = s'.sheet? f id := by
  cases s <;> cases s'
  case table.table => rfl
  case rows.rows t t' =>
    simp only [sheet?, Rows.row?]
    rw [h.1]
  all_goals exact h.elim

theorem count_eq (h : SameMessages s s') (f : String) : s.count f = s'.count f := by
  cases s <;> cases s'
  case table.table t t' =>
    simp only [count, Table.count]
    rw [show t.messages = t'.messages from h]
  case rows.rows t t' =>
    simp only [count, Rows.count]
    rw [h.1, h.2]
  all_goals exact h.elim

theorem save (h : SameMessages s s') (m : Message) (complete : Bool) :
    SameMessages (s.save m complete) (s'.save m complete) := by
  cases s <;> cases s'
  case table.table t t' =>
    have hmessages : t.messages = t'.messages := h
    have hkept : t.hasComplete (keyOf m) = t'.hasComplete (keyOf m) := by
      simp only [Table.hasComplete, hmessages]
    by_cases hc : complete = false ∧ t'.hasComplete (keyOf m) = true
    · rwa [Store.save, Store.save, Table.save, Table.save, hkept, if_pos hc, if_pos hc]
    · rw [Store.save, Store.save, Table.save, Table.save, hkept, if_neg hc, if_neg hc]
      exact congrArg (Index.insert · (keyOf m) ⟨m, complete⟩) hmessages
  case rows.rows t t' =>
    have hkept : t.hasComplete (keyOf m) = t'.hasComplete (keyOf m) := by
      simp only [Rows.hasComplete, h.1]
    by_cases hc : complete = false ∧ t'.hasComplete (keyOf m) = true
    · rwa [Store.save, Store.save, Rows.save, Rows.save, hkept, if_pos hc, if_pos hc]
    · rw [Store.save, Store.save, Rows.save, Rows.save, hkept, if_neg hc, if_neg hc]
      exact ⟨congrArg (Index.insert · (keyOf m) (.ofMessage m complete)) h.1, h.2⟩
  all_goals exact h.elim

theorem setExtra (s : Store) (folder name value : String) :
    SameMessages (s.setExtra folder name value) s := by
  cases s with
  | table t => exact rfl
  | rows t => exact ⟨rfl, rfl⟩

theorem saveAll (h : SameMessages s s') (saves : List (Message × Bool)) :
    SameMessages (s.saveAll saves) (s'.saveAll saves) := by
  induction saves generalizing s s' with
  | nil => exact h
  | cons m saves ih => exact ih (h.save m.1 m.2)

end SameMessages

theorem saveAll_append (s : Store) (saves later : List (Message × Bool)) :
    s.saveAll (saves ++ later) = (s.saveAll saves).saveAll later :=
  List.foldl_append

theorem saveAll_table (t : Table) (saves : List (Message × Bool)) :
    (table t).saveAll saves = table (t.saveAll saves) := by
  induction saves generalizing t with
  | nil => rfl
  | cons m saves ih => exact ih (t.save m.1 m.2)

theorem after_sameMessages (s : Store) (st : Plan.Step) :
    SameMessages (s.after st) (s.saveAll st.saved?.toList) := by
  unfold after Plan.Step.saved?
  split
  · exact .setExtra ..
  · exact .refl _
  · rename_i hsaves
    split
    · exact absurd rfl (hsaves _ _ _)
    · exact .refl _

/-- The messages are those that the saves among the steps lead to. -/
theorem replay_sameMessages (s : Store) (t : List Plan.Step) :
    SameMessages (s.replay t) (s.saveAll (t.filterMap Plan.Step.saved?)) := by
  induction t generalizing s with
  | nil => exact .refl _
  | cons st t ih =>
    have hst := (after_sameMessages s st).saveAll (t.filterMap Plan.Step.saved?)
    rw [← saveAll_append] at hst
    have hsaves : (st :: t).filterMap Plan.Step.saved? =
        st.saved?.toList ++ t.filterMap Plan.Step.saved? := by
      cases h : st.saved? <;> simp [h]
    rw [hsaves]
    exact (ih _).trans hst

/-! ### Places where nothing is saved -/

theorem get_save (s : Store) {m : Message} (complete : Bool) (h : keyOf m ≠ (f, id)) :
    (s.save m complete).get f id = s.get f id := by
  cases s with
  | table t => simp [get, save, Table.get?_save, Ne.symm h]
  | rows t => simp [get, save, Rows.get, Rows.row?_save, Ne.symm h]

theorem sheet?_save (s : Store) {m : Message} (complete : Bool) (h : keyOf m ≠ (f, id)) :
    (s.save m complete).sheet? f id = s.sheet? f id := by
  cases s with
  | table t => rfl
  | rows t => simp [sheet?, save, Rows.row?_save, Ne.symm h]

theorem count_save (s : Store) {m : Message} (complete : Bool) (h : m.folder ≠ f) :
    (s.save m complete).count f = s.count f := by
  have hkey : decide ((keyOf m).1 = f) = false := decide_eq_false h
  cases s with
  | table t =>
    simp only [count, save, Table.count, Table.save]
    split
    · rfl
    · exact t.messages.countKeys_insert _ hkey
  | rows t =>
    simp only [count, save, Rows.count, Rows.save]
    split
    · rfl
    · exact congrArg (· + _) (t.messages.countKeys_insert _ hkey)

theorem get_saveAll {saves : List (Message × Bool)} (h : ∀ m ∈ saves, keyOf m.1 ≠ (f, id)) :
    (s.saveAll saves).get f id = s.get f id ∧ (s.saveAll saves).sheet? f id = s.sheet? f id := by
  induction saves generalizing s with
  | nil => exact ⟨rfl, rfl⟩
  | cons m saves ih =>
    obtain ⟨hm, hsaves⟩ := List.forall_mem_cons.1 h
    obtain ⟨hget, hsheet⟩ := ih (s := s.save m.1 m.2) hsaves
    exact ⟨hget.trans (s.get_save m.2 hm), hsheet.trans (s.sheet?_save m.2 hm)⟩

theorem count_saveAll {saves : List (Message × Bool)} (h : ∀ m ∈ saves, m.1.folder ≠ f) :
    (s.saveAll saves).count f = s.count f := by
  induction saves generalizing s with
  | nil => rfl
  | cons m saves ih =>
    obtain ⟨hm, hsaves⟩ := List.forall_mem_cons.1 h
    exact (ih (s := s.save m.1 m.2) hsaves).trans (s.count_save m.2 hm)

/-- Steps that save nothing at a place leave what is there alone. -/
theorem get_replay (h : ∀ m ∈ t.filterMap Plan.Step.saved?, keyOf m.1 ≠ (f, id)) :
    (s.replay t).get f id = s.get f id ∧ (s.replay t).sheet? f id = s.sheet? f id := by
  have hsame := s.replay_sameMessages t
  rw [hsame.get_eq, hsame.sheet?_eq]
  exact get_saveAll h

/-- Steps that save nothing in a folder leave the number of its messages alone. -/
theorem count_replay (h : ∀ m ∈ t.filterMap Plan.Step.saved?, m.1.folder ≠ f) :
    (s.replay t).count f = s.count f := by
  rw [(s.replay_sameMessages t).count_eq]
  exact count_saveAll h

end Store

namespace Account

variable {s s' : Shared}

/-- An answer changes the store as the step does. -/
theorem Answers.store_eq {q : Query} {a : q.Answer} (h : Answers s q a s') :
    s'.store = s.store.after (.asked q a) := by
  cases h <;> rfl

/-- Steps that are answered one after another change the store as they do. -/
theorem AnswersAll.store_eq {t : List Plan.Step} (h : AnswersAll s t s') :
    s'.store = s.store.replay t := by
  induction h with
  | nil s => rfl
  | sent d r _ ih => exact ih
  | asked ha _ ih => rw [ih, ha.store_eq, Store.replay_cons]

theorem AnswersAll.append {s'' : Shared} {t t' : List Plan.Step} (h : AnswersAll s t s')
    (h' : AnswersAll s' t' s'') : AnswersAll s (t ++ t') s'' := by
  induction h with
  | nil s => exact h'
  | sent d r _ ih => exact .sent d r (ih h')
  | asked ha _ ih => exact .asked ha (ih h')

/-- A step of an operation changes the store as it does in any session. -/
theorem Session.Moves.store_eq {b b' : Session} {o : Operation} {st : Plan.Step}
    (h : b.Moves (.takes o st) b') : b'.shared.store = b.shared.store.after st := by
  cases h with
  | hears r hrest hwait => rfl
  | asks hrest ha => exact ha.store_eq

end Account

end MailSync
