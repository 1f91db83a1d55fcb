import MailSync.Json.Record
import MailSync.Proofs.JsonText

/-!
# Records read back

The fields of a record are read back by their names, where an absent field is not written or written
as null. A reader and a writer of one kind of value that undo each other can be put together: they
serve for a field that may be absent, and for a list.

* `Json.Value.fields?_recordOfPresent` : the fields of a record are read back, present or absent.
* `Json.Value.ReadsBack` : what a writer writes is read back, and is never null.
-/

namespace MailSync

namespace Json

namespace Value

/-! ### Fields -/

/-- The members of an object with those fields that are present. -/
def presentMembers (fields : List (String × Option Value)) : List (Text × Value) :=
  fields.flatMap fun f => (f.2.map (some f.1, ·)).toList

theorem recordOfPresent_eq (fields : List (String × Option Value)) :
    recordOfPresent fields = .obj (presentMembers fields) := by
  rw [recordOfPresent, record, presentMembers]
  congr 1
  induction fields with
  | nil => rfl
  | cons f rest ih =>
    obtain ⟨name, v?⟩ := f
    cases v? <;> simpa using ih

theorem record_eq (fields : List (String × Value)) :
    record fields = recordOfPresent (fields.map fun f => (f.1, some f.2)) := by
  rw [recordOfPresent, List.filterMap_map]
  congr 1
  exact List.filterMap_some.symm

variable {fields : List (String × Option Value)} {name : String} {v? : Option Value}

theorem mem_presentMembers {m : Text × Value} :
    m ∈ presentMembers fields ↔ ∃ f ∈ fields, m.2 ∈ f.2 ∧ m.1 = some f.1 := by
  obtain ⟨n, v⟩ := m
  simp [presentMembers, List.mem_flatMap, eq_comm]

/-- The members with a name are at most the field with that name, if every name stands once. -/
theorem filter_presentMembers (hnames : (fields.map (·.1)).Nodup) (h : (name, v?) ∈ fields) :
    (presentMembers fields).filter (·.1 = some name) = (v?.map (some name, ·)).toList := by
  induction fields with
  | nil => cases h
  | cons f rest ih =>
    obtain ⟨hnew, hnames⟩ := List.nodup_cons.1 hnames
    rw [presentMembers, List.flatMap_cons, List.filter_append]
    obtain rfl | h := List.mem_cons.1 h
    · have hrest : (presentMembers rest).filter (·.1 = some name) = [] := by
        refine List.filter_eq_nil_iff.2 fun m hm hname => hnew ?_
        obtain ⟨f, hf, -, hf'⟩ := mem_presentMembers.1 hm
        rw [of_decide_eq_true hname] at hf'
        exact List.mem_map.2 ⟨f, hf, (Option.some.inj hf').symm⟩
      change _ ++ (presentMembers rest).filter _ = _
      rw [hrest]
      cases v? <;> simp
    · have hne : f.1 ≠ name := by
        rintro rfl
        exact hnew (List.mem_map.2 ⟨_, h, rfl⟩)
      change _ ++ (presentMembers rest).filter _ = _
      rw [ih hnames h]
      cases f.2 <;> simp [hne]

theorem member?_presentMembers (hnames : (fields.map (·.1)).Nodup) (h : (name, v?) ∈ fields) :
    member? name (presentMembers fields) = some v? := by
  rw [member?, filter_presentMembers hnames h]
  cases v? <;> rfl

/-- The fields of a record are read back, present or absent, if every name stands once. -/
theorem fields?_recordOfPresent (hnames : (fields.map (·.1)).Nodup) :
    (recordOfPresent fields).fields? (fields.map (·.1)) = some (fields.map (·.2)) := by
  have hall : (presentMembers fields).all (·.1.isSome) = true := by
    refine List.all_eq_true.2 fun m hm => ?_
    obtain ⟨f, -, -, hf⟩ := mem_presentMembers.1 hm
    rw [hf]
    rfl
  have hread : ∀ fs : List (String × Option Value), (∀ f ∈ fs, f ∈ fields) →
      (fs.map (·.1)).mapM (member? · (presentMembers fields)) = some (fs.map (·.2)) := by
    intro fs hfs
    induction fs with
    | nil => rfl
    | cons f fs ih =>
      obtain ⟨hf, hfs⟩ := List.forall_mem_cons.1 hfs
      simp [List.mapM_cons, member?_presentMembers hnames hf, ih hfs]
  rw [recordOfPresent_eq, fields?, named?, if_pos hall]
  exact hread fields fun _ h => h

theorem fields?_record {fields : List (String × Value)} (hnames : (fields.map (·.1)).Nodup) :
    (record fields).fields? (fields.map (·.1)) = some (fields.map fun f => some f.2) := by
  have hnames' : ((fields.map fun f => (f.1, some f.2)).map (·.1)).Nodup := by
    rwa [List.map_map]
  have h := fields?_recordOfPresent hnames'
  rw [List.map_map, List.map_map] at h
  rw [record_eq]
  exact h

theorem integral_recordOfPresent (h : ∀ f ∈ fields, ∀ v ∈ f.2, v.Integral) :
    (recordOfPresent fields).Integral := by
  rw [recordOfPresent_eq, Integral, membersIntegral_iff]
  intro m hm
  obtain ⟨f, hf, hv, -⟩ := mem_presentMembers.1 hm
  exact h f hf _ hv

theorem integral_record {fields : List (String × Value)} (h : ∀ f ∈ fields, f.2.Integral) :
    (record fields).Integral := by
  rw [record_eq]
  refine integral_recordOfPresent fun f hf v hv => ?_
  obtain ⟨f', hf', rfl⟩ := List.mem_map.1 hf
  cases hv
  exact h f' hf'

theorem integral_orNull {α : Type} {write : α → Value} (h : ∀ a, (write a).Integral)
    (a? : Option α) : (orNull write a?).Integral := by
  cases a? with
  | none => trivial
  | some a => exact h a

/-! ### Readers and writers -/

/-- A reader takes what a writer writes for what has been written. That is never null, so it can be
an optional field. -/
structure ReadsBack {α : Type} (read : Value → Option α) (write : α → Value) : Prop where
  reads : ∀ a, read (write a) = some a
  ne_null : ∀ a, write a ≠ .null

namespace ReadsBack

variable {α : Type} {read : Value → Option α} {write : α → Value}

/-- A field that is written where it is present is read back. -/
@[simp] theorem optional_map (h : ReadsBack read write) (a? : Option α) :
    optional read (a?.map write) = some a? := by
  cases a? with
  | none => rfl
  | some a =>
    rw [Option.map_some, optional]
    · rw [h.reads, Option.map_some]
    · exact h.ne_null a

/-- A field that is written as null where it is absent is read back. -/
@[simp] theorem optional_orNull (h : ReadsBack read write) (a? : Option α) :
    optional read (some (orNull write a?)) = some a? := by
  cases a? with
  | none => rfl
  | some a => exact h.optional_map (some a)

theorem list (h : ReadsBack read write) : ReadsBack (list? read) fun as => .arr (as.map write) where
  reads as := by
    rw [list?]
    induction as with
    | nil => rfl
    | cons a as ih => simp [List.mapM_cons, h.reads, ih]
  ne_null _ := nofun

end ReadsBack

@[simp] theorem text_readsBack : ReadsBack text? text := ⟨fun _ => rfl, nofun⟩

@[simp] theorem bool_readsBack : ReadsBack bool? bool := ⟨fun _ => rfl, nofun⟩

@[simp] theorem integral_text (s : String) : (text s).Integral := trivial

@[simp] theorem integral_bool (b : Bool) : (bool b).Integral := trivial

@[simp] theorem integral_nat (n : Nat) : (nat n).Integral := rfl

theorem byte_readsBack : ReadsBack byte? fun b => nat b.toNat where
  reads b := by simp [nat, byte?, b.toNat_lt_size]
  ne_null _ := nofun

end Value

end Json

end MailSync
