import MailSync.Text.Blank
import MailSync.Text.Decimal

/-!
# Digits read back

A number that has been written in decimal digits is read back as it was, whether it has leading
zeros or not, and whatever stands behind it.

* `Decimal.exactly?_padded` : a number that fits a width is read back from that many digits.
* `Decimal.run_append` : a run of digits ends where something else comes.
* `Decimal.head?_print_ne` : no number but zero is written with a zero in front.
* `Decimal.print_natOfDigits` : digits without a zero in front are the number that they write, as it
  is written.
-/

namespace MailSync

namespace Decimal

theorem isDigit_iff {c : Char} : isDigit c = true ↔ 48 ≤ c.toNat ∧ c.toNat ≤ 57 := by
  simp only [isDigit, Bool.and_eq_true, decide_eq_true_eq, Char.le_def, UInt32.le_iff_toNat_le]
  rfl

theorem tenTo_eq (n : Nat) : tenTo n = Nat.pow 10 n := by
  induction n with
  | zero => rfl
  | succ n ih =>
    rw [tenTo, ih, Nat.mul_comm]
    rfl

theorem natOfDigits_eq (ds : List Char) : natOfDigits ds = Nat.ofDigitChars 10 ds 0 := by
  rw [Nat.ofDigitChars_eq_foldl, natOfDigits]
  refine congrArg (fun f => List.foldl f 0 ds) ?_
  funext n c
  rw [Nat.mul_comm]
  rfl

@[simp] theorem natOfDigits_print (n : Nat) : natOfDigits (print n) = n := by
  rw [natOfDigits_eq, print, Nat.ofDigitChars_ten_toDigits]

@[simp] theorem natOfDigits_padded (width n : Nat) : natOfDigits (padded width n) = n := by
  rw [natOfDigits_eq, padded, Nat.ofDigitChars_append, Nat.ofDigitChars_replicate_zero,
    Nat.mul_zero, ← natOfDigits_eq, natOfDigits_print]

theorem isDigit_of_mem_print {c : Char} {n : Nat} (h : c ∈ print n) : isDigit c = true :=
  Nat.isDigit_of_mem_toDigits (by decide) (by decide) h

theorem print_ne_nil (n : Nat) : print n ≠ [] :=
  Nat.toDigits_ne_nil

/-- No number but zero is written with a zero in front. -/
theorem head?_print_ne {n : Nat} (hn : n ≠ 0) : (print n).head? ≠ some '0' := by
  have hdigit : ∀ d < 10, d ≠ 0 → Nat.digitChar d ≠ '0' := by decide
  -- on the number: its first digit is that of a tenth of it, or its only one
  induction n using Nat.strongRecOn with
  | ind n ih =>
    rw [print, Nat.toDigits_eq_if (by decide)]
    split
    · rename_i hlt
      simpa using hdigit n hlt hn
    · rename_i hle
      have hne : Nat.toDigits 10 (n / 10) ≠ [] := Nat.toDigits_ne_nil
      rw [List.head?_append, Option.or_of_isSome (List.isSome_head?.2 hne)]
      exact ih (n / 10) (by omega) (by omega)

theorem isDigit_of_mem_padded {c : Char} {width n : Nat} (h : c ∈ padded width n) :
    isDigit c = true := by
  rcases List.mem_append.1 h with h | h
  · rw [List.eq_of_mem_replicate h]
    rfl
  · exact isDigit_of_mem_print h

theorem padded_ne_nil (width n : Nat) : padded width n ≠ [] :=
  fun h => print_ne_nil n (List.append_eq_nil_iff.1 h).2

theorem isDigit_of_mem_head?_padded {c : Char} {width n : Nat} {rest : List Char}
    (h : c ∈ (padded width n ++ rest).head?) : isDigit c = true := by
  rw [List.head?_append, Option.or_of_isSome (List.isSome_head?.2 (padded_ne_nil width n))] at h
  exact isDigit_of_mem_padded (List.mem_of_mem_head? h)

/-- No digit is blank. -/
theorem isBlank_of_isDigit {c : Char} (h : isDigit c = true) : Text.isBlank c = false := by
  obtain ⟨hlow, hhigh⟩ := isDigit_iff.1 h
  simp [Text.isBlank, Text.inRanges, Text.blankRanges]
  omega

theorem length_padded {width n : Nat} (hwidth : 0 < width) (h : n < tenTo width) :
    (padded width n).length = width := by
  rw [tenTo_eq] at h
  have hle : (print n).length ≤ width := (Nat.length_toDigits_le_iff (by decide) hwidth).2 h
  rw [padded, List.length_append, List.length_replicate]
  omega

/-- A number that fits a width is read back from that many digits. -/
theorem exactly?_padded {width n : Nat} (hwidth : 0 < width) (h : n < tenTo width)
    (rest : List Char) : exactly? width (padded width n ++ rest) = some (n, rest) := by
  have hlength := length_padded hwidth h
  have htake : (padded width n ++ rest).take width = padded width n :=
    List.take_left' hlength
  have hdrop : (padded width n ++ rest).drop width = rest := List.drop_left' hlength
  have hdigits : (padded width n).all isDigit = true :=
    List.all_eq_true.2 fun c hc => isDigit_of_mem_padded hc
  simp only [exactly?, htake, hdrop, hlength, hdigits, and_self, ↓reduceIte, natOfDigits_padded]

/-- What does not start with a digit is no number of digits. -/
theorem exactly?_cons_eq_none {width : Nat} {c : Char} (hwidth : 0 < width)
    (hc : isDigit c = false) (rest : List Char) : exactly? width (c :: rest) = none := by
  obtain ⟨width, rfl⟩ : ∃ w, width = w + 1 := ⟨width - 1, by omega⟩
  simp [exactly?, hc]

/-- A run of digits ends where something else comes. -/
theorem run_append {ds rest : List Char} (hds : ∀ c ∈ ds, isDigit c = true)
    (hrest : ∀ c ∈ rest.head?, isDigit c = false) : run (ds ++ rest) = (ds, rest) := by
  have htake : rest.takeWhile isDigit = [] := by
    cases rest with
    | nil => rfl
    | cons c rest => simp [hrest c rfl]
  have hdrop : rest.dropWhile isDigit = rest := Text.dropWhile_eq_self_iff.2 hrest
  rw [run, List.takeWhile_append_of_pos hds, List.dropWhile_append_of_pos hds, htake, hdrop,
    List.append_nil]

/-- A number that fits a width is read back from as many digits as may be read. -/
theorem atMost?_padded {width n : Nat} (hwidth : 0 < width) (h : n < tenTo width)
    (rest : List Char) : atMost? width (padded width n ++ rest) = some (n, rest) := by
  have hlength := length_padded hwidth h
  have hrun : run (padded width n ++ []) = (padded width n, []) :=
    run_append (fun c hc => isDigit_of_mem_padded hc) (by simp)
  have htake : ((padded width n ++ rest).take width).takeWhile isDigit = padded width n := by
    rw [List.take_left' hlength]
    simpa [run] using congrArg Prod.fst hrun
  have hdrop : (padded width n ++ rest).drop width = rest := List.drop_left' hlength
  rw [atMost?, htake]
  split
  · rename_i hnil
    rw [hnil, List.length_nil] at hlength
    omega
  · rw [natOfDigits_padded, hlength, hdrop]

/-- A number is read back from any number of digits. -/
theorem some?_padded (width n : Nat) {rest : List Char}
    (hrest : ∀ c ∈ rest.head?, isDigit c = false) :
    some? (padded width n ++ rest) = some (n, rest) := by
  rw [some?, run_append (fun c hc => isDigit_of_mem_padded hc) hrest]
  split
  · rename_i heq
    exact absurd (Prod.mk.inj heq).1 (padded_ne_nil width n)
  · rename_i heq
    cases heq
    rw [natOfDigits_padded]

theorem some?_print (n : Nat) {rest : List Char} (hrest : ∀ c ∈ rest.head?, isDigit c = false) :
    some? (print n ++ rest) = some (n, rest) := by
  simpa [padded] using some?_padded 0 n hrest

/-! ### Digits as they stand -/

/-- A digit is the number that it stands for, as written. -/
theorem print_digitValue {c : Char} (h : isDigit c = true) : print (digitValue c) = [c] := by
  obtain ⟨hlow, hhigh⟩ := isDigit_iff.1 h
  have hchar : ∀ d < 10, Nat.digitChar d = Char.ofNat (48 + d) := by decide
  have hlt : c.toNat - 48 < 10 := by omega
  have hadd : 48 + (c.toNat - 48) = c.toNat := by omega
  change Nat.toDigits 10 (c.toNat - 48) = [c]
  rw [Nat.toDigits_of_lt_base hlt, hchar _ hlt, hadd, Char.ofNat_toNat]

/-- Digits behind a number go on with it, unless it is zero. -/
theorem print_append {n : Nat} (hn : 0 < n) {ds : List Char} (hds : ∀ c ∈ ds, isDigit c = true) :
    print n ++ ds = print (ds.foldl (fun n c => n * 10 + digitValue c) n) := by
  induction ds generalizing n with
  | nil => simp
  | cons c ds ih =>
    obtain ⟨hc, hds⟩ := List.forall_mem_cons.1 hds
    have hlt : digitValue c < 10 := by
      have := (isDigit_iff.1 hc).2
      change c.toNat - 48 < 10
      omega
    have hnext : print n ++ [c] = print (n * 10 + digitValue c) := by
      rw [← print_digitValue hc, print, print, Nat.toDigits_append_toDigits (by decide) hn hlt,
        Nat.mul_comm, print]
    rw [List.foldl_cons, ← ih (by omega) hds, ← hnext, List.append_assoc, List.singleton_append]

/-- Digits without a leading zero are the number that they write, as written. -/
theorem print_natOfDigits {ds : List Char} (hds : ∀ c ∈ ds, isDigit c = true) (hne : ds ≠ [])
    (hzero : ds.head? ≠ some '0') : print (natOfDigits ds) = ds := by
  obtain ⟨c, ds, rfl⟩ := List.exists_cons_of_ne_nil hne
  obtain ⟨hc, hds⟩ := List.forall_mem_cons.1 hds
  have hpos : 0 < digitValue c := by
    have hlow := (isDigit_iff.1 hc).1
    have hne : c.toNat ≠ 48 := fun h => hzero (congrArg some (Char.toNat_inj.1 h))
    change 0 < c.toNat - 48
    omega
  rw [natOfDigits, List.foldl_cons, Nat.zero_mul, Nat.zero_add, ← print_append hpos hds,
    print_digitValue hc, List.singleton_append]

/-- What is read as digits is digits, and stands in front of the rest. -/
theorem of_run_eq {s ds rest : List Char} (h : run s = (ds, rest)) :
    (∀ c ∈ ds, isDigit c = true) ∧ s = ds ++ rest := by
  obtain ⟨rfl, rfl⟩ := Prod.mk.inj h
  exact ⟨List.all_eq_true.1 List.all_takeWhile, List.takeWhile_append_dropWhile.symm⟩

theorem of_some?_eq_some {s rest : List Char} {n : Nat} (h : some? s = some (n, rest)) :
    ∃ ds, ds ≠ [] ∧ (∀ c ∈ ds, isDigit c = true) ∧ n = natOfDigits ds ∧ s = ds ++ rest := by
  unfold some? at h
  split at h
  · cases h
  · rename_i ds rest' hne hrun
    cases h
    obtain ⟨hds, hs⟩ := of_run_eq hrun
    exact ⟨ds, hne, hds, rfl, hs⟩

end Decimal

end MailSync
