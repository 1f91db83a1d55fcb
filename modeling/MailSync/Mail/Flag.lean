/-!
# Message flags

The five standard flags, their names, and sets of them.
-/

namespace MailSync

/-- A standard mark on a message. -/
inductive Flag where
  | seen
  | flagged
  | answered
  | deleted
  | draft
  deriving DecidableEq, Repr

namespace Flag

/-- Every flag, in the order in which they are listed. -/
def all : List Flag :=
  [seen, flagged, answered, deleted, draft]

/-- The name under which a flag is stored. -/
def name : Flag → String
  | seen => "SEEN"
  | flagged => "FLAGGED"
  | answered => "ANSWERED"
  | deleted => "DELETED"
  | draft => "DRAFT"

/-- The name of a flag in a message document. -/
def tag : Flag → String
  | seen => "Seen"
  | flagged => "Flagged"
  | answered => "Answered"
  | deleted => "Deleted"
  | draft => "Draft"

/-- The flag with a stored name. -/
def ofName? (s : String) : Option Flag :=
  all.find? (·.name = s)

/-- The flag with a name in a message document. -/
def ofTag? (s : String) : Option Flag :=
  all.find? (·.tag = s)

theorem mem_all (f : Flag) : f ∈ all := by
  cases f <;> decide

@[simp] theorem ofName?_name (f : Flag) : ofName? f.name = some f := by
  cases f <;> rfl

@[simp] theorem ofTag?_tag (f : Flag) : ofTag? f.tag = some f := by
  cases f <;> rfl

end Flag

/-- A set of flags. -/
@[ext] structure FlagSet where
  /-- The flag is in the set. -/
  contains : Flag → Bool

namespace FlagSet

/-- The set without flags. -/
def empty : FlagSet :=
  ⟨fun _ => false⟩

/-- The set in which one flag has been set or cleared. -/
def set (s : FlagSet) (f : Flag) (value : Bool) : FlagSet :=
  ⟨fun g => if g = f then value else s.contains g⟩

/-- The set of the flags in a list. -/
def ofList (fs : List Flag) : FlagSet :=
  ⟨fun g => fs.contains g⟩

/-- The flags of a set, in the order in which they are listed. -/
def toList (s : FlagSet) : List Flag :=
  Flag.all.filter s.contains

@[simp] theorem contains_set (s : FlagSet) (f g : Flag) (value : Bool) :
    (s.set f value).contains g = if g = f then value else s.contains g := rfl

@[simp] theorem mem_toList {s : FlagSet} {f : Flag} : f ∈ s.toList ↔ s.contains f = true := by
  simp [toList, Flag.mem_all]

@[simp] theorem ofList_toList (s : FlagSet) : ofList s.toList = s := by
  ext f
  cases h : s.contains f <;> simp [ofList, h]

theorem toList_injective {s t : FlagSet} (h : s.toList = t.toList) : s = t := by
  rw [← ofList_toList s, ← ofList_toList t, h]

instance : DecidableEq FlagSet := fun s t =>
  if h : s.toList = t.toList then .isTrue (toList_injective h)
  else .isFalse fun e => h (e ▸ rfl)

instance : Repr FlagSet :=
  ⟨fun s n => reprPrec s.toList n⟩

end FlagSet

end MailSync
