import Mathlib.Logic.Function.Iterate
import MailSync.Proofs.RowsRefinement

/-!
# Senders as texts

A store in rows keeps a sender as a text, and reads it from there again. Which senders survive this
depends on blanks at the ends, on quotes around the name, and on brackets in the address. A sender
that has been read from a text once survives it unless quotes have kept blanks at an end of its
name. Every cycle then takes some of the name away, so the sender settles in the end, and its
address never changes.

* `Address.bracketed_iff` : where a text has an address in brackets, the last brackets are around it.
* `Address.parse_bare_iff`, `Address.parse_named_iff` : which addresses without and with a name
  their own texts write.
* `Address.written_parse` : what every address that a text writes is like.
* `Address.parse_display_eq_self_iff` : which addresses are read back from their own texts.
* `Address.stable_once_read_iff` : which addresses stay as they are once they have been read.
-/

namespace MailSync

namespace Text

variable {p : Char → Bool} {c d : Char} {s t before behind : List Char} {i : Nat}

/-! ### Characters at the ends -/

theorem strip_sublist (p : Char → Bool) (s : List Char) : (strip p s).Sublist s := by
  have hback : ((s.dropWhile p).reverse.dropWhile p).reverse.Sublist (s.dropWhile p) := by
    simpa using (List.dropWhile_sublist p (l := (s.dropWhile p).reverse)).reverse
  exact hback.trans (List.dropWhile_sublist p)

/-- What is dropped at the front is stripped anyway. -/
theorem strip_dropWhile (p : Char → Bool) (s : List Char) :
    strip p (s.dropWhile p) = strip p s := by
  rw [strip, dropWhile_eq_self_iff.2 head?_dropWhile, strip]

/-- A character of the class at the end is stripped. -/
theorem strip_concat (hc : p c = true) : strip p (s ++ [c]) = strip p s := by
  rw [strip, strip, List.dropWhile_append]
  split
  · rename_i hs
    rw [List.isEmpty_iff.1 hs]
    simp [hc]
  · rw [List.reverse_concat, List.dropWhile_cons_of_pos hc]

/-- A character that is not of the class ends what is stripped at the front. -/
theorem strip_append_cons (hc : p c = false) (hd : p d = false) :
    strip p (s ++ c :: (t ++ [d])) = s.dropWhile p ++ c :: (t ++ [d]) := by
  have hfront : (s ++ c :: (t ++ [d])).dropWhile p = s.dropWhile p ++ c :: (t ++ [d]) := by
    rw [List.dropWhile_append]
    split
    · rename_i hs
      rw [List.isEmpty_iff.1 hs, List.dropWhile_cons_of_neg (by simp [hc]), List.nil_append]
    · rfl
  have hlast : (s.dropWhile p ++ c :: (t ++ [d])).reverse =
      d :: (s.dropWhile p ++ c :: t).reverse := by simp
  rw [strip, hfront, hlast, List.dropWhile_cons_of_neg (by simp [hd]), ← hlast,
    List.reverse_reverse]

/-- Stripping two classes one after the other changes nothing just where neither changes anything.
-/
theorem strip_strip_eq_self_iff {q : Char → Bool} :
    strip q (strip p s) = s ↔ Bare p s ∧ Bare q s := by
  constructor
  · intro h
    have hle := (strip_sublist q (strip p s)).length_le
    rw [h] at hle
    have hp : strip p s = s := (strip_sublist p s).eq_of_length_le hle
    rw [hp] at h
    exact ⟨strip_eq_self_iff.1 hp, strip_eq_self_iff.1 h⟩
  · rintro ⟨hp, hq⟩
    rw [strip_eq_self_iff.2 hp, strip_eq_self_iff.2 hq]

/-! ### Last occurrences -/

/-- A character stands at a place of a text, and at none behind it. -/
def LastAt (c : Char) (s : List Char) (i : Nat) : Prop :=
  s[i]? = some c ∧ ∀ j, i < j → s[j]? ≠ some c

theorem lastAt_append_cons (h : c ∉ behind) : LastAt c (before ++ c :: behind) before.length := by
  refine ⟨by simp, fun j hj hat => h ?_⟩
  rw [List.getElem?_append_right (Nat.le_of_lt hj), List.getElem?_cons] at hat
  split at hat
  · omega
  · exact List.mem_of_getElem? hat

theorem LastAt.split (h : LastAt c s i) :
    ∃ before behind, s = before ++ c :: behind ∧ c ∉ behind ∧ before.length = i := by
  obtain ⟨hi, hc⟩ := List.getElem?_eq_some_iff.1 h.1
  refine ⟨s.take i, s.drop (i + 1), ?_, ?_, List.length_take_of_le (Nat.le_of_lt hi)⟩
  · rw [← hc, List.getElem_cons_drop, List.take_append_drop]
  · intro hmem
    obtain ⟨j, hj⟩ := List.mem_iff_getElem?.1 hmem
    rw [List.getElem?_drop] at hj
    exact h.2 (i + 1 + j) (by omega) hj

end Text

namespace Address

open Text

variable {c : Char} {s before inside behind : List Char} {a : Address}

/-! ### The last brackets -/

/-- A text has an address in brackets: the last '<' comes before the last '>'. -/
def Bracketed (s : List Char) : Prop :=
  ∃ i j, LastAt '<' s i ∧ LastAt '>' s j ∧ i < j

theorem splitLast?_eq_none_iff : splitLast? c s = none ↔ c ∉ s := by
  induction s with
  | nil => simp [splitLast?]
  | cons d s ih =>
    rw [splitLast?]
    cases hs : splitLast? c s with
    | some x =>
      have hmem : c ∈ s := by
        by_contra hc
        rw [ih.2 hc] at hs
        cases hs
      simp [hmem]
    | none => simp [ih.1 hs, eq_comm]

theorem splitLast?_append_cons (h : c ∉ behind) :
    splitLast? c (before ++ c :: behind) = some (before, behind) := by
  induction before with
  | nil => simp [splitLast?, splitLast?_eq_none_iff.2 h]
  | cons d before ih => simp [splitLast?, ih]

theorem of_splitLast?_eq_some (h : splitLast? c s = some (before, behind)) :
    s = before ++ c :: behind ∧ c ∉ behind := by
  induction s generalizing before with
  | nil => cases h
  | cons d s ih =>
    rw [splitLast?] at h
    cases hs : splitLast? c s with
    | some x =>
      rw [hs] at h
      cases h
      obtain ⟨hsplit, hbehind⟩ := ih hs
      exact ⟨congrArg (d :: ·) hsplit, hbehind⟩
    | none =>
      rw [hs] at h
      simp only [Option.ite_none_right_eq_some, Option.some.injEq, Prod.mk.injEq] at h
      obtain ⟨rfl, rfl, rfl⟩ := h
      exact ⟨rfl, splitLast?_eq_none_iff.1 hs⟩

/-- Where a text has an address in brackets, its last brackets are around it. -/
theorem bracketed_iff :
    Bracketed s ↔ ∃ before inside behind, s = before ++ '<' :: (inside ++ '>' :: behind) ∧
      '<' ∉ inside ++ '>' :: behind ∧ '>' ∉ behind := by
  constructor
  · rintro ⟨i, j, hopen, hclose, hij⟩
    obtain ⟨before, behind, rfl, hbehind, rfl⟩ := hopen.split
    obtain ⟨before', behind', hs, hbehind', rfl⟩ := hclose.split
    -- the closing bracket comes later, so what stands before it reaches over the opening one
    obtain ⟨r, rfl, hr⟩ | ⟨r, rfl, hr⟩ := List.append_eq_append_iff.1 hs
    · cases r with
      | nil => cases hr
      | cons d inside =>
        cases hr
        exact ⟨before, inside, behind', rfl, hbehind, hbehind'⟩
    · simp only [List.length_append] at hij
      omega
  · rintro ⟨before, inside, behind, rfl, hopen, hclose⟩
    have hlast : LastAt '>' (before ++ '<' :: (inside ++ '>' :: behind))
        (before ++ '<' :: inside).length := by
      rw [← List.cons_append, ← List.append_assoc]
      exact lastAt_append_cons hclose
    exact ⟨_, _, lastAt_append_cons hopen, hlast, by simp⟩

theorem ofTrimmed_of_bracketed (hopen : '<' ∉ inside ++ '>' :: behind) (hclose : '>' ∉ behind) :
    ofTrimmed (before ++ '<' :: (inside ++ '>' :: behind)) =
      ⟨nameOf before, String.ofList (trim inside)⟩ := by
  rw [ofTrimmed, splitLast?_append_cons hopen]
  simp only
  rw [splitLast?_append_cons hclose]

theorem ofTrimmed_of_not_bracketed (h : ¬ Bracketed s) : ofTrimmed s = ⟨none, String.ofList s⟩ := by
  rw [ofTrimmed]
  split
  · rfl
  · rename_i before behind hopen
    split
    · rfl
    · rename_i inside behind' hclose
      -- brackets that have been found are the last ones
      obtain ⟨rfl, hbehind⟩ := of_splitLast?_eq_some hopen
      obtain ⟨rfl, hbehind'⟩ := of_splitLast?_eq_some hclose
      exact absurd (bracketed_iff.2 ⟨_, _, _, rfl, hbehind, hbehind'⟩) h

theorem not_bracketed_of_notMem (h : '<' ∉ s) : ¬ Bracketed s := by
  rintro ⟨i, j, hopen, -, -⟩
  exact h (List.mem_of_getElem? hopen.1)

/-! ### Addresses without a name -/

/-- The address in brackets is shorter than the text. -/
theorem length_email_lt (h : Bracketed s) : (ofTrimmed s).email.toList.length < s.length := by
  obtain ⟨before, inside, behind, rfl, hopen, hclose⟩ := bracketed_iff.1 h
  have hle := (strip_sublist isBlank inside).length_le
  rw [ofTrimmed_of_bracketed hopen hclose]
  simp only [String.toList_ofList, List.length_append, List.length_cons, trim]
  omega

/-- An address alone is read back if it has no blanks at its ends and no brackets of its own. -/
theorem parse_bare_iff {email : String} :
    parse email = ⟨none, email⟩ ↔ Bare isBlank email.toList ∧ ¬ Bracketed email.toList := by
  constructor
  · intro h
    have hle := (strip_sublist isBlank email.toList).length_le
    rw [parse] at h
    by_cases hbracketed : Bracketed (trim email.toList)
    · -- the address would be shorter than itself
      have hlt := length_email_lt hbracketed
      rw [h] at hlt
      exact absurd (Nat.lt_of_lt_of_le hlt hle) (Nat.lt_irrefl _)
    · rw [ofTrimmed_of_not_bracketed hbracketed] at h
      have hemail : String.ofList (trim email.toList) = email := congrArg Address.email h
      have htrim : trim email.toList = email.toList := by
        rw [← String.toList_ofList (l := trim email.toList), hemail]
      rw [htrim] at hbracketed
      exact ⟨strip_eq_self_iff.1 htrim, hbracketed⟩
  · rintro ⟨hbare, hbracketed⟩
    rw [parse, trim, strip_eq_self_iff.2 hbare, ofTrimmed_of_not_bracketed hbracketed,
      String.ofList_toList]

/-! ### Addresses with a name -/

theorem nameOf_eq_some_iff {name : String} :
    nameOf s = some name ↔ strip (· == '"') (trim s) = name.toList ∧ name ≠ "" := by
  rw [nameOf]
  cases h : strip (· == '"') (trim s) with
  | nil =>
    refine iff_of_false nofun ?_
    rintro ⟨hname, hne⟩
    exact hne (String.toList_inj.1 hname.symm)
  | cons d r =>
    simp only [Option.some.injEq]
    constructor
    · rintro rfl
      refine ⟨String.toList_ofList.symm, fun hempty => ?_⟩
      have hnil : (String.ofList (d :: r)).toList = [] := congrArg String.toList hempty
      rw [String.toList_ofList] at hnil
      cases hnil
    · rintro ⟨hname, -⟩
      rw [hname, String.ofList_toList]

/-- A name is read back if neither blanks nor quotes stand at its ends. -/
theorem nameOf_toList_iff {name : String} :
    nameOf name.toList = some name ↔
      name ≠ "" ∧ Bare isBlank name.toList ∧ Bare (· == '"') name.toList := by
  rw [nameOf_eq_some_iff, trim, strip_strip_eq_self_iff, and_comm]

/-- A display without the blanks before the name. None stand behind the closing bracket. -/
theorem trim_display (name email : String) :
    trim (display ⟨some name, email⟩).toList =
      (name.toList ++ [' ']).dropWhile isBlank ++ '<' :: (email.toList ++ ['>']) := by
  have htext : (display ⟨some name, email⟩).toList =
      (name.toList ++ [' ']) ++ '<' :: (email.toList ++ ['>']) := by
    simp [display]
  rw [htext, trim, strip_append_cons (by decide) (by decide)]

/-- An address without an opening bracket is the one that the last brackets are around. -/
theorem parse_display_of_notMem (name : String) {email : String} (h : '<' ∉ email.toList) :
    parse (display ⟨some name, email⟩) =
      ⟨nameOf name.toList, String.ofList (trim email.toList)⟩ := by
  have hopen : '<' ∉ email.toList ++ '>' :: [] := by simp [h]
  have hname : nameOf ((name.toList ++ [' ']).dropWhile isBlank) = nameOf name.toList := by
    have htrim : trim ((name.toList ++ [' ']).dropWhile isBlank) = trim name.toList := by
      rw [trim, strip_dropWhile, strip_concat (by decide), trim]
    rw [nameOf, nameOf, htrim]
  rw [parse, trim_display, ofTrimmed_of_bracketed hopen List.not_mem_nil, hname]

/-- Of an address with an opening bracket only what stands behind it is read. -/
theorem length_email_parse_display_lt (name : String) {email : String} (h : '<' ∈ email.toList) :
    (parse (display ⟨some name, email⟩)).email.toList.length < email.toList.length := by
  cases hsplit : splitLast? '<' email.toList with
  | none => exact absurd h (splitLast?_eq_none_iff.1 hsplit)
  | some x =>
    obtain ⟨before, behind⟩ := x
    obtain ⟨hemail, hbehind⟩ := of_splitLast?_eq_some hsplit
    have hopen : '<' ∉ behind ++ '>' :: [] := by simp [hbehind]
    have hle := (strip_sublist isBlank behind).length_le
    rw [parse, trim_display, hemail, List.append_assoc, List.cons_append, ← List.cons_append,
      ← List.append_assoc, ofTrimmed_of_bracketed hopen List.not_mem_nil]
    simp only [String.toList_ofList, trim, List.length_append, List.length_cons]
    omega

/-- An address with a name is read back if the name is, and the address has no blanks at its ends
and no opening bracket. -/
theorem parse_named_iff {name email : String} :
    parse (display ⟨some name, email⟩) = ⟨some name, email⟩ ↔
      Bare isBlank email.toList ∧ nameOf name.toList = some name ∧ '<' ∉ email.toList := by
  by_cases hmem : '<' ∈ email.toList
  · refine iff_of_false ?_ fun h => h.2.2 hmem
    intro h
    have hlt := length_email_parse_display_lt name hmem
    rw [h] at hlt
    exact Nat.lt_irrefl _ hlt
  · have htrim : String.ofList (trim email.toList) = email ↔ Bare isBlank email.toList := by
      rw [← String.toList_inj, String.toList_ofList, trim, strip_eq_self_iff]
    rw [parse_display_of_notMem name hmem, mk.injEq, htrim]
    simp [hmem, and_comm]

/-- **Which senders survive as text**: a sender is read back from its own text if and only if its
address has no blanks at its ends and either there is no name, and the address does not contain
another in brackets, or there is a name that is not empty and has neither blanks nor quotes at its
ends, and the address has no opening bracket. -/
theorem parse_display_eq_self_iff (a : Address) :
    parse a.display = a ↔ Bare isBlank a.email.toList ∧
      (a.name = none ∧ ¬ Bracketed a.email.toList ∨
        ∃ name, a.name = some name ∧ name ≠ "" ∧ Bare isBlank name.toList ∧
          Bare (· == '"') name.toList ∧ '<' ∉ a.email.toList) := by
  obtain ⟨name, email⟩ := a
  cases name with
  | none =>
    have hdisplay : display ⟨none, email⟩ = email := rfl
    rw [hdisplay, parse_bare_iff]
    simp
  | some name =>
    rw [parse_named_iff, nameOf_toList_iff]
    simp [and_assoc]

/-! ### Addresses that have been read -/

/-- The address that is read back from the text of an address. -/
def restored (a : Address) : Address :=
  parse a.display

/-- The number of characters of the name. -/
def nameLength (a : Address) : Nat :=
  (a.name.map fun name => name.toList.length).getD 0

/-- What every address that a text writes is like: it has no blanks at its ends, and without a name
no address in brackets, and with a name no opening bracket. The name is not empty and has no quotes
at its ends. -/
structure Written (a : Address) : Prop where
  email : Bare isBlank a.email.toList
  alone : a.name = none → ¬ Bracketed a.email.toList
  named : ∀ name ∈ a.name, name ≠ "" ∧ Bare (· == '"') name.toList ∧ '<' ∉ a.email.toList

theorem written_ofTrimmed (h : Bare isBlank s) : Written (ofTrimmed s) := by
  by_cases hbracketed : Bracketed s
  · obtain ⟨before, inside, behind, rfl, hopen, hclose⟩ := bracketed_iff.1 hbracketed
    have hmem : '<' ∉ trim inside := fun hmem =>
      hopen (List.mem_append_left _ ((strip_sublist isBlank inside).subset hmem))
    rw [ofTrimmed_of_bracketed hopen hclose]
    refine ⟨?_, fun _ => ?_, fun name hname => ?_⟩
    · rw [String.toList_ofList]
      exact bare_strip isBlank inside
    · rw [String.toList_ofList]
      exact not_bracketed_of_notMem hmem
    · obtain ⟨hstrip, hne⟩ := nameOf_eq_some_iff.1 (Option.mem_def.1 hname)
      rw [String.toList_ofList, ← hstrip]
      exact ⟨hne, bare_strip _ _, hmem⟩
  · rw [ofTrimmed_of_not_bracketed hbracketed]
    refine ⟨?_, fun _ => ?_, fun _ hname => nomatch hname⟩
    · rwa [String.toList_ofList]
    · rwa [String.toList_ofList]

theorem written_parse (s : String) : Written (parse s) :=
  written_ofTrimmed (bare_strip isBlank s.toList)

namespace Written

/-- An address that has been read is read back from its own text but for blanks at the ends of its
name. -/
theorem restored_eq_iff (h : Written a) :
    a.restored = a ↔ ∀ name ∈ a.name, Bare isBlank name.toList := by
  obtain ⟨name, email⟩ := a
  cases name with
  | none =>
    exact iff_of_true (parse_bare_iff.2 ⟨h.email, h.alone rfl⟩) fun _ hname => nomatch hname
  | some name =>
    obtain ⟨hne, hquotes, hmem⟩ := h.named name rfl
    have hemail := h.email
    rw [restored, parse_named_iff, nameOf_toList_iff]
    simp_all

theorem restored_named {name email : String} (h : Written ⟨some name, email⟩) :
    restored ⟨some name, email⟩ = ⟨nameOf name.toList, email⟩ := by
  have hemail : String.ofList (trim email.toList) = email := by
    rw [trim, strip_eq_self_iff.2 h.email, String.ofList_toList]
  rw [restored, parse_display_of_notMem name (h.named name rfl).2.2, hemail]

/-- The address itself stays as it is. -/
theorem email_restored (h : Written a) : a.restored.email = a.email := by
  obtain ⟨name, email⟩ := a
  cases name with
  | none => exact congrArg Address.email (parse_bare_iff.2 ⟨h.email, h.alone rfl⟩)
  | some name => rw [h.restored_named]

/-- An address that does not stay as it is loses characters of its name. -/
theorem nameLength_restored_lt (h : Written a) (hne : a.restored ≠ a) :
    a.restored.nameLength < a.nameLength := by
  obtain ⟨name, email⟩ := a
  cases name with
  | none => exact absurd (parse_bare_iff.2 ⟨h.email, h.alone rfl⟩) hne
  | some name =>
    rw [h.restored_named] at hne ⊢
    have hpos : 0 < name.toList.length :=
      List.length_pos_iff.2 fun hnil => (h.named name rfl).1 (String.toList_inj.1 hnil)
    cases hname : nameOf name.toList with
    | none => exact hpos
    | some name' =>
      obtain ⟨hstrip, -⟩ := nameOf_eq_some_iff.1 hname
      have hsub : name'.toList.Sublist name.toList := by
        rw [← hstrip]
        exact (strip_sublist _ _).trans (strip_sublist _ _)
      refine Nat.lt_of_le_of_ne hsub.length_le fun hlength => hne ?_
      rw [hname, String.toList_inj.1 (hsub.eq_of_length hlength)]

/-- An address has settled after as many cycles as its name has characters. -/
theorem settled {k : Nat} (h : Written a) (hk : a.nameLength ≤ k) :
    restored^[k + 1] a = restored^[k] a := by
  induction k generalizing a with
  | zero =>
    by_contra hne
    have hlt := h.nameLength_restored_lt hne
    omega
  | succ k ih =>
    by_cases hne : a.restored = a
    · rw [Function.iterate_succ_apply, hne]
    · have hlt := h.nameLength_restored_lt hne
      rw [Function.iterate_succ_apply, Function.iterate_succ_apply _ k]
      exact ih (written_parse a.display) (by omega)

end Written

end Address

/-! ### Senders in rows -/

namespace Store

/-- A field that is read is a proper one. -/
theorem Field.of_read_bind {α β : Type} {f : Field α} {column : Column}
    {k : α → Except StoreError β} {b : β} (h : (f.read column >>= k) = .ok b) :
    ∃ a, f = .proper a ∧ k a = .ok b := by
  cases f with
  | proper a => exact ⟨a, rfl, h⟩
  | alien kind => cases h

variable {key : Key} {stored : Stored} {folder id : String} {complete : Bool}

/-- A row that can be read holds a message of its place, with a sender that a text writes. -/
theorem Row.of_read_eq_ok {r : Row} (h : r.read key = .ok stored) :
    keyOf stored.message = key ∧ r.isComplete = stored.complete ∧
      ∀ a ∈ stored.message.sender, a.Written := by
  rw [read] at h
  obtain ⟨uid, -, h⟩ := Field.of_read_bind h
  obtain ⟨flags, -, h⟩ := Field.of_read_bind h
  obtain ⟨subject, -, h⟩ := Field.of_read_bind h
  obtain ⟨sender, -, h⟩ := Field.of_read_bind h
  obtain ⟨sentAt, -, h⟩ := Field.of_read_bind h
  obtain ⟨complete, hcomplete, h⟩ := Field.of_read_bind h
  obtain ⟨raw, -, h⟩ := Field.of_read_bind h
  obtain ⟨_, -, h⟩ := Field.of_read_bind h
  cases hraw : raw.unpack? with
  | none =>
    rw [hraw] at h
    cases h
  | some bytes =>
    rw [hraw] at h
    cases h
    refine ⟨rfl, by simp [isComplete, hcomplete], fun a ha => ?_⟩
    obtain ⟨text, -, rfl⟩ := Option.map_eq_some_iff.1 (Option.mem_def.1 ha)
    exact Address.written_parse text

/-- A message that has been saved is read back as its row keeps it. -/
theorem Rows.get_save_self (t : Rows) (m : Message)
    (h : complete = true ∨ t.hasComplete (keyOf m) = false) :
    (t.save m complete).get m.folder m.id = .ok (some ⟨m.throughRow, complete⟩) := by
  have hrow : (t.save m complete).row? m.folder m.id = some (.ofMessage m complete) := by
    rw [row?_save, if_pos ⟨rfl, h⟩]
  have hread : (Row.ofMessage m complete).read (m.folder, m.id) = .ok ⟨m.throughRow, complete⟩ :=
    Row.read_ofMessage m complete
  rw [get, hrow]
  simp only [hread]
  rfl

/-- A message that has been read and is saved as it was is read back with the sender that its
sender's text writes. -/
theorem Rows.get_resaved {t : Rows} (h : t.get folder id = .ok (some stored)) :
    (t.save stored.message stored.complete).get folder id =
        .ok (some ⟨stored.message.throughRow, stored.complete⟩) ∧
      ∀ a ∈ stored.message.sender, a.Written := by
  rw [get] at h
  cases hrow : t.row? folder id with
  | none =>
    rw [hrow] at h
    cases h
  | some r =>
    rw [hrow] at h
    cases hread : r.read (folder, id) with
    | error e =>
      simp only [hread] at h
      cases h
    | ok stored' =>
      simp only [hread] at h
      cases h
      obtain ⟨hkey, hcomplete, hsender⟩ := Row.of_read_eq_ok hread
      have hkept : t.hasComplete (keyOf stored.message) = stored.complete := by
        rw [hasComplete, hkey, ← hcomplete]
        exact congrArg (Option.any Row.isComplete) hrow
      have hsave : stored.complete = true ∨ t.hasComplete (keyOf stored.message) = false := by
        rw [hkept]
        exact Bool.eq_false_or_eq_true _
      have hget := t.get_save_self stored.message hsave
      cases hkey
      exact ⟨hget, hsender⟩

end Store

namespace Address

open Text

/-- **When a sender is stable once it has been read**: an address that a text writes is read back
from its own text if and only if no blank stands at an end of its name. Reading it back never
changes the address itself, and changes nothing any more after as many cycles as the name has
characters. So it is with the sender of every message in a store in rows that is read, saved as it
was, and read again. -/
theorem stable_once_read_iff (s : String) :
    (parse (parse s).display = parse s ↔ ∀ name ∈ (parse s).name, Bare isBlank name.toList) ∧
      (parse (parse s).display).email = (parse s).email ∧
      (∀ k, (parse s).nameLength ≤ k → restored^[k + 1] (parse s) = restored^[k] (parse s)) ∧
      ∀ (t : Store.Rows) folder id stored, t.get folder id = .ok (some stored) →
        ∃ again, (t.save stored.message stored.complete).get folder id = .ok (some again) ∧
          again.message.sender = stored.message.sender.map restored ∧
          (again.message.sender = stored.message.sender ↔
            ∀ a ∈ stored.message.sender, ∀ name ∈ a.name, Bare isBlank name.toList) := by
  have hparsed := written_parse s
  refine ⟨hparsed.restored_eq_iff, hparsed.email_restored, fun k => hparsed.settled,
    fun t folder id stored hget => ?_⟩
  obtain ⟨hagain, hwritten⟩ := Store.Rows.get_resaved hget
  refine ⟨_, hagain, rfl, ?_⟩
  change stored.message.sender.map restored = stored.message.sender ↔ _
  cases hsender : stored.message.sender with
  | none => simp
  | some a =>
    rw [hsender] at hwritten
    simpa using (hwritten a rfl).restored_eq_iff

/-- A sender whose name has blanks at its ends loses them when it is read for the first time, and
stays as it is from then on. -/
theorem stable_once_read_blanks : ∃ (t : Store.Rows) (stored again : Store.Stored),
    t.get "inbox" "5:1" = .ok (some stored) ∧
      stored.message.sender = some ⟨some "Ann", "ann@example.com"⟩ ∧
      (t.save stored.message stored.complete).get "inbox" "5:1" = .ok (some again) ∧
      again.message.sender = stored.message.sender := by
  let m : Message :=
    { Message.parse "inbox" "5:1" [] with sender := some ⟨some " Ann ", "ann@example.com"⟩ }
  have hget : (Store.Rows.empty.save m true).get "inbox" "5:1" =
      .ok (some ⟨m.throughRow, true⟩) := Store.Rows.empty.get_save_self m (.inl rfl)
  have hsender : m.throughRow.sender = some ⟨some "Ann", "ann@example.com"⟩ := by decide
  obtain ⟨-, -, -, hresaved⟩ := stable_once_read_iff " Ann  <ann@example.com>"
  obtain ⟨again, hagain, -, hiff⟩ := hresaved _ _ _ _ hget
  refine ⟨_, _, again, hget, hsender, hagain, hiff.2 fun a ha name hname => ?_⟩
  rw [hsender] at ha
  cases ha
  cases hname
  exact strip_eq_self_iff.1 (by decide)

/-- A quoted name with blanks between the quotes comes back without the blanks. -/
theorem quoted_blanks_unstable : ¬ ∀ s, parse (parse s).display = parse s := by
  intro hstable
  exact absurd (hstable "\" x \" <e>") (by decide)

end Address

end MailSync
