import Mathlib.Data.List.Induction
import MailSync.Proofs.TimeText
import MailSync.Scenario.StoreScript

/-!
# Messages in rows and messages in memory

The store in rows is the image of the store in memory: where the one keeps a message, the other keeps
the row of that message, and every save does the same to both. What is read back differs only in what
the columns cannot keep: a sender is read from its own text again, and so is a date, which is lost if
its year has no four digits and comes back in the second behind it if it lies in a leap second inside
of a minute. Bytes that have been packed here unpack to what they were (`Store.Blob.unpack?`).

* `Store.flagsOfText_flagsText` : a set of flags is read back from its text.
* `Store.Row.read_ofMessage` : what is read back from the row of a message.
* `Store.Rows.ofTable_save` : saving and taking the image may be exchanged.
* `Scenario.StoreStep.rows_refine_memory` : after the same steps, both stores give the same answers,
  but for what the columns cannot keep.
-/

namespace MailSync

/-! ### Flags read back -/

theorem Flag.comma_notMem_name (f : Flag) : ',' ∉ f.name.toList := by
  cases f <;> decide

namespace Store

theorem splitCommas_eq (s : List Char) : splitCommas s = s.splitOn ',' := by
  induction s with
  | nil => rfl
  | cons c rest ih =>
    simp only [splitCommas, ih, List.splitOn, List.splitOnP_cons_eq_if_modifyHead, beq_iff_eq]
    split
    · rfl
    · cases h : List.splitOnP (· == ',') rest with
      | nil => exact absurd h (List.splitOnP_ne_nil _ _)
      | cons part parts => rfl

/-- A set of flags is read back from its text. -/
theorem flagsOfText_flagsText (s : FlagSet) : flagsOfText (flagsText s) = s := by
  have hnames : ∀ part ∈ (s.toList.map Flag.name).map String.toList, ',' ∉ part := by
    simp only [List.map_map, List.mem_map, Function.comp_apply]
    rintro part ⟨f, -, rfl⟩
    exact f.comma_notMem_name
  have hread : ((s.toList.map Flag.name).map String.toList).filterMap
      (fun part => Flag.ofName? (String.ofList part)) = s.toList := by
    have hname : (fun part => Flag.ofName? (String.ofList part)) ∘ String.toList ∘ Flag.name =
        some := by
      funext f
      simp
    rw [List.map_map, List.filterMap_map, hname, List.filterMap_some]
  rw [flagsOfText, flagsText, splitCommas_eq, String.toList_intercalate]
  by_cases hs : s.toList = []
  · -- the text of no flags is one empty part, which names no flag
    rw [← FlagSet.ofList_toList s, hs]
    rfl
  · have hcomma : ",".toList = [','] := rfl
    rw [hcomma, List.splitOn_intercalate ',' hnames (by simpa using hs), hread,
      FlagSet.ofList_toList]

end Store

/-! ### A message read back -/

/-- A message with what the columns of a row can keep of its sender and its date. -/
def Message.throughRow (m : Message) : Message :=
  { m with
    sender := m.sender.map fun a => .parse a.display
    sentAt := (m.sentAt.filter fun t => IsPlainYear t.date.year).map Instant.asWritten }

theorem Message.throughRow_eq_self {m : Message}
    (hsender : ∀ a ∈ m.sender, Address.parse a.display = a)
    (hsentAt : ∀ t ∈ m.sentAt, IsPlainYear t.date.year ∧ t.OnClock) : m.throughRow = m := by
  have hsender' : m.sender.map (fun a => Address.parse a.display) = m.sender := by
    cases h : m.sender with
    | none => rfl
    | some a => exact congrArg some (hsender a h)
  have hsentAt' : (m.sentAt.filter fun t => IsPlainYear t.date.year).map Instant.asWritten =
      m.sentAt := by
    cases h : m.sentAt with
    | none => rfl
    | some t =>
      obtain ⟨hyear, hclock⟩ := hsentAt t h
      have hfilter : (some t).filter (fun t => decide (IsPlainYear t.date.year)) = some t :=
        Option.filter_some_pos (decide_eq_true hyear)
      rw [hfilter, Option.map_some, Instant.asWritten_of_onClock hclock]
  rw [throughRow, hsender', hsentAt']

namespace Store

/-- What is read back from the row of a message. -/
theorem Row.read_ofMessage (m : Message) (complete : Bool) :
    (ofMessage m complete).read (keyOf m) = .ok ⟨m.throughRow, complete⟩ := by
  have hsentAt : (m.sentAt.map Instant.toOffsetText).bind Instant.parseStrict? =
      (m.sentAt.filter fun t => IsPlainYear t.date.year).map Instant.asWritten := by
    cases m.sentAt with
    | none => rfl
    | some t =>
      simp only [Option.map_some, Option.bind_some, Instant.parseStrict?_toOffsetText,
        Option.filter_some, decide_eq_true_eq]
      split <;> rfl
  have hcomplete : decide ((if complete then (1 : Int) else 0) ≠ 0) = complete := by
    cases complete <;> rfl
  have hread : (ofMessage m complete).read (keyOf m) =
      .ok
        { message :=
            { id := m.id, uid := m.uid, folder := m.folder,
              flags := flagsOfText (flagsText m.flags), subject := m.subject,
              sender := (m.sender.map Address.display).map Address.parse,
              sentAt := (m.sentAt.map Instant.toOffsetText).bind Instant.parseStrict?,
              raw := m.raw }
          complete := decide ((if complete then (1 : Int) else 0) ≠ 0) } := rfl
  rw [hread, hsentAt, hcomplete, flagsOfText_flagsText, Option.map_map]
  rfl

end Store

/-! ### The image of a store in memory -/

namespace Index

variable {κ α β : Type}

/-- The index with every value replaced by its image. -/
def map (f : α → β) (ix : Index κ α) : Index κ β where
  entries := ix.entries.map fun e => (e.1, f e.2)
  nodup_keys := by
    rw [List.map_map]
    exact ix.nodup_keys

theorem countKeys_map (f : α → β) (ix : Index κ α) (p : κ → Bool) :
    (ix.map f).countKeys p = ix.countKeys p :=
  List.countP_map

variable [DecidableEq κ]

theorem map_insert (f : α → β) (ix : Index κ α) (k : κ) (a : α) :
    (ix.insert k a).map f = (ix.map f).insert k (f a) := by
  simp only [map, insert, mk.injEq, List.map_cons, List.cons.injEq, true_and]
  rw [List.filter_map]
  rfl

theorem get?_map (f : α → β) (ix : Index κ α) (k : κ) :
    (ix.map f).get? k = (ix.get? k).map f := by
  simp only [get?, map, List.find?_map, Option.map_map]
  rfl

end Index

namespace Store

namespace Rows

/-- The store in rows that keeps the row of every message of a store in memory. -/
def ofTable (t : Table) : Rows :=
  ⟨t.extras, t.messages.map fun s => .ofMessage s.message s.complete, []⟩

/-- Saving and taking the image may be exchanged. -/
theorem ofTable_save (t : Table) (m : Message) (complete : Bool) :
    ofTable (t.save m complete) = (ofTable t).save m complete := by
  have hcomplete : (ofTable t).hasComplete (keyOf m) = t.hasComplete (keyOf m) := by
    simp only [hasComplete, ofTable, Index.get?_map, Option.any_map, Row.isComplete_ofMessage,
      Table.hasComplete]
  unfold Table.save save
  rw [hcomplete]
  split
  · rfl
  · simp only [ofTable, Index.map_insert]

theorem count_ofTable (t : Table) (folder : String) :
    (ofTable t).count folder = t.count folder := by
  rw [count, ofTable, Index.countKeys_map]
  rfl

/-- What is read back from the image, where messages stand at their places. -/
theorem get_ofTable {t : Table} {folder id : String}
    (h : ∀ s, t.get? folder id = some s → keyOf s.message = (folder, id)) :
    (ofTable t).get folder id =
      .ok ((t.get? folder id).map fun s => ⟨s.message.throughRow, s.complete⟩) := by
  have hrow : (ofTable t).row? folder id =
      (t.get? folder id).map fun s => Row.ofMessage s.message s.complete :=
    Index.get?_map _ _ _
  rw [get, hrow]
  cases hget : t.get? folder id with
  | none => rfl
  | some s =>
    simp only [Option.map_some]
    rw [← h s hget, Row.read_ofMessage]
    rfl

end Rows

end Store

/-! ### Histories of both stores -/

namespace Scenario

namespace StoreStep

open Store

/-- The store after some steps. -/
def runAll (s : Store) (steps : List StoreStep) : Store :=
  steps.foldl (fun s step => (step.run s).2) s

/-- The step writes into a store past its operations. -/
def tampers : StoreStep → Bool
  | edit _ _ _ _ => true
  | _ => false

theorem runAll_append (s : Store) (steps later : List StoreStep) :
    runAll s (steps ++ later) = runAll (runAll s steps) later :=
  List.foldl_append

/-- After a step that tampers with nothing, the store in rows is still the image of the one in
memory. -/
theorem run_ofTable {step : StoreStep} (h : step.tampers = false) (t : Table) :
    ∃ t' : Table, (step.run (.table t)).2 = .table t' ∧
      (step.run (.rows (.ofTable t))).2 = .rows (.ofTable t') ∧
      ∀ folder id s, t'.get? folder id = some s →
        t.get? folder id = some s ∨
          keyOf s.message = (folder, id) ∧ step = .save s.message s.complete := by
  cases step with
  | save m complete =>
    refine ⟨t.save m complete, rfl, congrArg Store.rows (Rows.ofTable_save t m complete).symm, ?_⟩
    intro folder id s hs
    rw [Table.get?_save] at hs
    split at hs
    · rename_i hplace
      cases hs
      exact .inr ⟨hplace.1.symm, rfl⟩
    · exact .inl hs
  | writeExtra folder name value =>
    exact ⟨t.setExtra folder name value, rfl, rfl, fun _ _ _ hs => .inl hs⟩
  | get folder id =>
    refine ⟨t, ?_, ?_, fun _ _ _ hs => .inl hs⟩
    · simp only [run]
      split <;> rfl
    · simp only [run]
      split <;> rfl
  | edit folder id column cell => cases h
  | readExtra | count | reopen | sheet => exact ⟨t, rfl, rfl, fun _ _ _ hs => .inl hs⟩

/-- The store in rows stays the image of the one in memory, and what is stored has been saved for
its place. -/
theorem runAll_ofTable (steps : List StoreStep) (hsteps : ∀ step ∈ steps, step.tampers = false) :
    ∃ t : Table, runAll (.table .empty) steps = .table t ∧
      runAll (.rows .empty) steps = .rows (.ofTable t) ∧
      ∀ folder id s, t.get? folder id = some s →
        keyOf s.message = (folder, id) ∧ .save s.message s.complete ∈ steps := by
  induction steps using List.reverseRecOn with
  | nil =>
    refine ⟨.empty, rfl, rfl, fun folder id s hs => ?_⟩
    cases hs
  | append_singleton steps step ih =>
    obtain ⟨t, hmemory, hrows, hsaved⟩ := ih fun s hs => hsteps s (List.mem_append_left _ hs)
    obtain ⟨t', hmemory', hrows', hstep⟩ :=
      run_ofTable (hsteps step (List.mem_append_right _ List.mem_cons_self)) t
    refine ⟨t', ?_, ?_, fun folder id s hs => ?_⟩
    · rw [runAll_append, hmemory]
      exact hmemory'
    · rw [runAll_append, hrows]
      exact hrows'
    · rcases hstep folder id s hs with hold | ⟨hplace, rfl⟩
      · exact ⟨(hsaved folder id s hold).1, List.mem_append_left _ (hsaved folder id s hold).2⟩
      · exact ⟨hplace, List.mem_append_right _ List.mem_cons_self⟩

/-- **The store in rows refines the one in memory**: after the same steps, none of which tampers
with a row, both hold the same extra texts, count the same messages, and hold messages at the same
places, complete or not alike. What the rows give back is the message, with its sender read from the
sender's own text, and with the date that the date's own text stands for, or without a date if its
year lies outside 0 to 9999. If every saved message has a sender that is read back, and a date with
such a year and in no leap second inside of a minute, both give the same answers. -/
theorem rows_refine_memory (steps : List StoreStep) (hsteps : ∀ step ∈ steps, step.tampers = false) :
    (∀ folder name, (runAll (.rows .empty) steps).extra? folder name =
      (runAll (.table .empty) steps).extra? folder name) ∧
    (∀ folder, (runAll (.rows .empty) steps).count folder =
      (runAll (.table .empty) steps).count folder) ∧
    (∀ folder id,
      ((runAll (.table .empty) steps).get folder id = .ok none ∧
        (runAll (.rows .empty) steps).get folder id = .ok none) ∨
      ∃ m complete, (runAll (.table .empty) steps).get folder id = .ok (some ⟨m, complete⟩) ∧
        (runAll (.rows .empty) steps).get folder id = .ok (some
          ⟨{ m with
              sender := m.sender.map fun a => .parse a.display
              sentAt :=
                (m.sentAt.filter fun t => 0 ≤ t.date.year ∧ t.date.year ≤ 9999).map
                  Instant.asWritten },
            complete⟩)) ∧
    ((∀ m complete, .save m complete ∈ steps →
        (∀ a ∈ m.sender, Address.parse a.display = a) ∧
        ∀ t ∈ m.sentAt, (0 ≤ t.date.year ∧ t.date.year ≤ 9999) ∧
          (secondNanos ≤ t.nano → t.second % 60 = 59)) →
      ∀ folder id, (runAll (.rows .empty) steps).get folder id =
        (runAll (.table .empty) steps).get folder id) := by
  obtain ⟨t, hmemory, hrows, hsaved⟩ := runAll_ofTable steps hsteps
  rw [hmemory, hrows]
  have hget : ∀ folder id, (Store.rows (.ofTable t)).get folder id =
      .ok ((t.get? folder id).map fun s => ⟨s.message.throughRow, s.complete⟩) :=
    fun folder id => Rows.get_ofTable fun s hs => (hsaved folder id s hs).1
  refine ⟨fun _ _ => rfl, fun folder => Rows.count_ofTable t folder, fun folder id => ?_, ?_⟩
  · rw [hget]
    cases hs : t.get? folder id with
    | none => exact .inl ⟨congrArg Except.ok hs, rfl⟩
    | some s => exact .inr ⟨s.message, s.complete, congrArg Except.ok hs, rfl⟩
  · intro hkept folder id
    have hmemory : (Store.table t).get folder id = .ok (t.get? folder id) := rfl
    rw [hget, hmemory]
    cases hs : t.get? folder id with
    | none => rfl
    | some s =>
      obtain ⟨hsender, hsentAt⟩ := hkept _ _ (hsaved folder id s hs).2
      rw [Option.map_some, Message.throughRow_eq_self hsender hsentAt]

/-- A message of the leap second at the end of 2016. -/
def leapMessage : Message where
  id := "5:1"
  uid := "5:1"
  folder := "inbox"
  flags := .ofList [.seen, .draft]
  subject := some "Leap"
  sender := some ⟨some "Jane Roe", "jane@example.com"⟩
  sentAt := some ⟨⟨2016, 12, 31, by decide, by decide⟩, 86399, 1500000000, by decide⟩
  raw := [65]

/-- The message of a leap second is read back from the rows as it was, even after a beginning of it
has been saved. -/
theorem rows_refine_memory_leapSecond :
    (runAll (.rows .empty) [.save leapMessage true, .reopen,
      .save { leapMessage with raw := [] } false]).get "inbox" "5:1" =
        .ok (some ⟨leapMessage, true⟩) := by
  obtain ⟨-, -, -, hsame⟩ := rows_refine_memory [.save leapMessage true, .reopen,
    .save { leapMessage with raw := [] } false] (by simp [tampers])
  rw [hsame]
  · rfl
  · have hkept : (∀ a ∈ leapMessage.sender, Address.parse a.display = a) ∧
        ∀ t ∈ leapMessage.sentAt, (0 ≤ t.date.year ∧ t.date.year ≤ 9999) ∧
          (secondNanos ≤ t.nano → t.second % 60 = 59) := by
      constructor
      · rintro a ⟨⟩
        decide
      · rintro t ⟨⟩
        decide
    intro m complete hm
    simp only [List.mem_cons, save.injEq, reduceCtorEq, List.not_mem_nil, or_false, false_or] at hm
    obtain ⟨rfl, -⟩ | ⟨rfl, -⟩ := hm
    · exact hkept
    · exact hkept

/-- The same message, of a leap second inside of a minute. -/
def insideLeapMessage : Message :=
  { leapMessage with sentAt := some .insideLeap }

/-- The message of a leap second inside of a minute is given back from the rows with another date,
although its sender is read back and its year has four digits. -/
theorem insideLeap_differs :
    (∀ a ∈ insideLeapMessage.sender, Address.parse a.display = a) ∧
      (∀ t ∈ insideLeapMessage.sentAt, 0 ≤ t.date.year ∧ t.date.year ≤ 9999) ∧
      (runAll (.table .empty) [.save insideLeapMessage true]).get "inbox" "5:1" =
        .ok (some ⟨insideLeapMessage, true⟩) ∧
      (runAll (.rows .empty) [.save insideLeapMessage true]).get "inbox" "5:1" ≠
        .ok (some ⟨insideLeapMessage, true⟩) := by
  have hrows : runAll (.rows .empty) [.save insideLeapMessage true] =
      .rows (.ofTable (Table.empty.save insideLeapMessage true)) :=
    congrArg Store.rows (Rows.ofTable_save .empty insideLeapMessage true).symm
  have hstored : (Table.empty.save insideLeapMessage true).get? "inbox" "5:1" =
      some ⟨insideLeapMessage, true⟩ := rfl
  have hplace : ∀ s, (Table.empty.save insideLeapMessage true).get? "inbox" "5:1" = some s →
      keyOf s.message = ("inbox", "5:1") := by
    rw [hstored]
    rintro s ⟨⟩
    rfl
  refine ⟨?_, ?_, rfl, ?_⟩
  · rintro a ⟨⟩
    decide
  · rintro t ⟨⟩
    decide
  · rw [hrows]
    show (Rows.ofTable (Table.empty.save insideLeapMessage true)).get "inbox" "5:1" ≠ _
    rw [Rows.get_ofTable hplace, hstored, Option.map_some]
    intro hsame
    injection hsame with hsame
    injection hsame with hsame
    injection hsame with hsame
    have hdate : some Instant.insideLeap.asWritten = some Instant.insideLeap :=
      congrArg Message.sentAt hsame
    exact Instant.insideLeap_not_onClock (Instant.asWritten_eq_self_iff.1 (Option.some.inj hdate))

end StoreStep

end Scenario

end MailSync
