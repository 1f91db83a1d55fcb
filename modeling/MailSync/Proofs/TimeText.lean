import MailSync.Proofs.Digits
import MailSync.Time.Printer
import MailSync.Time.Reader

/-!
# Points in time read back

A point in time that has been written as text is read back as it was, nanoseconds and the leap
seconds that clocks show included. A leap second inside of a minute is written as the second behind
it, and read back as that. A text whose year has not four digits has a sign in front, which the
strict grammar does not take and the lenient one does.

* `Instant.print_asWritten` : a leap second inside of a minute has the text of the second behind it.
* `Instant.ofClock?_shown` : a clock in UTC that shows an instant stands for that instant.
* `Instant.parseStrict?_toOffsetText` : reading the text with an offset gives back the instant that
  the text stands for, exactly when its year lies in 0 to 9999.
* `Instant.parseLenient?_toZuluText` : reading the text with a letter leniently always gives that
  instant back.
-/

namespace MailSync

/-- The year has four digits. -/
def IsPlainYear (year : Int) : Prop :=
  0 ≤ year ∧ year ≤ 9999

instance (year : Int) : Decidable (IsPlainYear year) :=
  inferInstanceAs (Decidable (_ ∧ _))

theorem IsPlainYear.toNat_lt {year : Int} (h : IsPlainYear year) :
    year.toNat < Decimal.tenTo 4 := by
  change year.toNat < 10000
  unfold IsPlainYear at h
  omega

theorem printYear_of_isPlainYear {year : Int} (h : IsPlainYear year) :
    printYear year = Decimal.padded 4 year.toNat :=
  if_pos h

theorem printYear_of_not_isPlainYear {year : Int} (h : ¬ IsPlainYear year) :
    printYear year = (if year < 0 then '-' else '+') :: Decimal.padded 4 year.natAbs :=
  if_neg h

theorem daysInMonth_le (year : Int) (month : Nat) : daysInMonth year month ≤ 31 := by
  unfold daysInMonth
  split
  case h_12 => split <;> decide
  all_goals decide

namespace Date

theorem month_lt (d : Date) : d.month < 100 := by
  have h := d.day_mem
  unfold daysInMonth at h
  split at h <;> omega

theorem day_lt (d : Date) : d.day < 100 := by
  have h := d.day_mem
  have hle := daysInMonth_le d.year d.month
  omega

end Date

namespace Instant

/-! ### What a text stands for -/

/-- A clock shows the instant: if it lies in a leap second, this extends the last second of a
minute. -/
def OnClock (t : Instant) : Prop :=
  secondNanos ≤ t.nano → t.second % 60 = 59

instance (t : Instant) : Decidable t.OnClock :=
  inferInstanceAs (Decidable (_ → _))

/-- Inside of a minute, the second behind a leap second is on the same day. -/
theorem isTime_next {t : Instant} (h : ¬ t.OnClock) :
    IsTime (t.second + 1) (t.nano - secondNanos) := by
  obtain ⟨hsecond, hnano⟩ := t.isTime
  simp only [OnClock, Classical.not_imp] at h
  simp only [IsTime, daySeconds] at hsecond ⊢
  omega

/-- The instant that the text of an instant stands for. A leap second inside of a minute is written
as the second behind it. -/
def asWritten (t : Instant) : Instant :=
  if h : t.OnClock then t
  else
    { date := t.date
      second := t.second + 1
      nano := t.nano - secondNanos
      isTime := isTime_next h }

theorem asWritten_of_onClock {t : Instant} (h : t.OnClock) : t.asWritten = t :=
  dif_pos h

theorem asWritten_of_not_onClock {t : Instant} (h : ¬ t.OnClock) :
    t.asWritten = ⟨t.date, t.second + 1, t.nano - secondNanos, isTime_next h⟩ :=
  dif_neg h

theorem onClock_asWritten (t : Instant) : t.asWritten.OnClock := by
  by_cases h : t.OnClock
  · rwa [asWritten_of_onClock h]
  · have hnano := t.isTime.2
    rw [asWritten_of_not_onClock h]
    intro hleap
    change secondNanos ≤ t.nano - secondNanos at hleap
    omega

theorem asWritten_eq_self_iff {t : Instant} : t.asWritten = t ↔ t.OnClock := by
  refine ⟨fun h => ?_, asWritten_of_onClock⟩
  rw [← h]
  exact t.onClock_asWritten

@[simp] theorem date_asWritten (t : Instant) : t.asWritten.date = t.date := by
  unfold asWritten
  split <;> rfl

/-- An instant has the same text as the one that the text stands for. -/
theorem print_asWritten (t : Instant) (zone : String) : t.asWritten.print zone = t.print zone := by
  by_cases h : t.OnClock
  · rw [asWritten_of_onClock h]
  · have hleap := h
    simp only [OnClock, Classical.not_imp, secondNanos] at hleap
    have hhour : (t.second + 1) / 3600 = t.second / 3600 := by omega
    have hminute : (t.second + 1) / 60 % 60 = t.second / 60 % 60 := by omega
    have hsecond : (t.second + 1) % 60 + (t.nano - 1000000000) / 1000000000 =
        t.second % 60 + t.nano / 1000000000 := by omega
    have hnano : (t.nano - 1000000000) % 1000000000 = t.nano % 1000000000 := by omega
    simp only [asWritten_of_not_onClock h, print, printTime, shownSecond, secondNanos, hhour,
      hminute, hsecond, hnano]

/-! ### The parts of a text -/

theorem nano_mod_lt (t : Instant) : t.nano % secondNanos < secondNanos :=
  Nat.mod_lt _ (by decide)

theorem shownSecond_lt (t : Instant) : t.shownSecond < 100 := by
  have h := t.isTime
  simp only [IsTime, secondNanos] at h
  simp only [shownSecond, secondNanos]
  omega

/-- A fraction of `k` digits that stands for `n` of its last places is read back. -/
theorem fraction?_digits {k n : Nat} (hk : 0 < k) (hk' : k ≤ 9) (hn : n < Decimal.tenTo k)
    {rest : List Char} (hrest : ∀ c ∈ rest.head?, Decimal.isDigit c = false) :
    fraction? ('.' :: (Decimal.padded k n ++ rest)) = some (n * Decimal.tenTo (9 - k), rest) := by
  have hlength := Decimal.length_padded hk hn
  have hrun : Decimal.run (Decimal.padded k n ++ rest) = (Decimal.padded k n, rest) :=
    Decimal.run_append (fun c hc => Decimal.isDigit_of_mem_padded hc) hrest
  have htake : (Decimal.padded k n).take 9 = Decimal.padded k n :=
    List.take_of_length_le (by omega)
  simp only [fraction?, hrun, htake]
  split
  · rename_i h
    rw [h, List.length_nil] at hlength
    omega
  · rw [Decimal.natOfDigits_padded, hlength]

/-- A fraction is read back, where neither a digit nor a point stands behind it. -/
theorem fraction?_printFraction {nano : Nat} (h : nano < secondNanos) {c : Char} {rest : List Char}
    (hdigit : Decimal.isDigit c = false) (hpoint : c ≠ '.') :
    fraction? (printFraction nano ++ c :: rest) = some (nano, c :: rest) := by
  have hrest : ∀ d ∈ (c :: rest).head?, Decimal.isDigit d = false := by
    rintro d ⟨⟩
    exact hdigit
  unfold secondNanos at h
  unfold printFraction
  split
  · rename_i h0
    rw [List.nil_append, fraction?, h0]
    rintro s ⟨⟩
    exact hpoint rfl
  · split
    · rename_i hmilli
      have hlt : nano / 1000000 < Decimal.tenTo 3 := by
        change _ < 1000
        omega
      rw [List.cons_append, fraction?_digits (by decide) (by decide) hlt hrest]
      change some (nano / 1000000 * 1000000, _) = _
      rw [Nat.div_mul_cancel (Nat.dvd_of_mod_eq_zero hmilli)]
    · split
      · rename_i hmicro
        have hlt : nano / 1000 < Decimal.tenTo 6 := by
          change _ < 1000000
          omega
        rw [List.cons_append, fraction?_digits (by decide) (by decide) hlt hrest]
        change some (nano / 1000 * 1000, _) = _
        rw [Nat.div_mul_cancel (Nat.dvd_of_mod_eq_zero hmicro)]
      · rw [List.cons_append, fraction?_digits (by decide) (by decide) h hrest]
        exact congrArg (fun n => some (n, c :: rest)) (Nat.mul_one nano)

theorem exactly?_printYear {year : Int} (h : IsPlainYear year) (rest : List Char) :
    Decimal.exactly? 4 (printYear year ++ rest) = some (year.toNat, rest) := by
  rw [printYear_of_isPlainYear h]
  exact Decimal.exactly?_padded (by decide) h.toNat_lt rest

theorem exactly?_printYear_eq_none {year : Int} (h : ¬ IsPlainYear year) (rest : List Char) :
    Decimal.exactly? 4 (printYear year ++ rest) = none := by
  rw [printYear_of_not_isPlainYear h, List.cons_append]
  refine Decimal.exactly?_cons_eq_none (by decide) ?_ _
  split <;> rfl

/-- What a clock in UTC stands for, if it shows a time of the day. -/
theorem ofClock?_utc {year : Int} {month day hour minute second nano : Nat} (hhour : hour < 24)
    (hminute : minute < 60) (hsecond : second ≤ 60) :
    ofClock? ⟨year, month, day, hour, minute, second, nano, 0⟩ =
      (Date.of? year month day).bind fun date =>
        fromStart? date (hour * 3600 + minute * 60 + (min second 59 : Nat) - 0 * 60)
          (if second = 60 then nano + secondNanos else nano) := by
  have hahead : (0 : Int).natAbs < 24 * 60 := by decide
  rw [ofClock?, if_pos ⟨hhour, hminute, hsecond, hahead⟩]

/-- A clock in UTC that shows an instant stands for that instant. -/
theorem ofClock?_shown {t : Instant} (hclock : t.OnClock) :
    ofClock? ⟨t.date.year, t.date.month, t.date.day, t.second / 3600, t.second / 60 % 60,
      t.shownSecond, t.nano % secondNanos, 0⟩ = some t := by
  have h := t.isTime
  have hshown : t.shownSecond = t.second % 60 + t.nano / secondNanos := rfl
  have hnanos : secondNanos = 1000000000 := rfl
  have hday : daySeconds = 86400 := rfl
  rw [IsTime, hnanos, hday] at h
  rw [OnClock, hnanos] at hclock
  rw [hnanos] at hshown
  -- a leap second is shown as second 60, and then the second itself is the last of its minute
  have hsecond : min t.shownSecond 59 = t.second % 60 := by omega
  have hnano : (if t.shownSecond = 60 then t.nano % secondNanos + secondNanos
      else t.nano % secondNanos) = t.nano := by
    rw [hnanos]
    by_cases hleap : t.shownSecond = 60
    · rw [if_pos hleap]
      omega
    · rw [if_neg hleap]
      omega
  have hstart : ((t.second / 3600 : Nat) : Int) * 3600 + ((t.second / 60 % 60 : Nat) : Int) * 60 +
      ((t.second % 60 : Nat) : Int) - 0 * 60 = t.second := by omega
  have hlt : (t.second : Int) < daySeconds := by omega
  have hnonneg : ¬ (t.second : Int) < 0 := by omega
  rw [ofClock?_utc (by omega) (by omega) (by omega), hsecond, hnano, Date.of?_self,
    Option.bind_some, hstart, fromStart?, if_neg hnonneg, if_pos hlt, Int.toNat_natCast, of?_self]

/-! ### The parts of a text, leniently -/

theorem skipBlanks_eq_self {s : List Char} (h : ∀ c ∈ s.head?, Text.isBlank c = false) :
    skipBlanks s = s :=
  Text.dropWhile_eq_self_iff.2 h

theorem skipBlanks_padded (width n : Nat) (rest : List Char) :
    skipBlanks (Decimal.padded width n ++ rest) = Decimal.padded width n ++ rest := by
  exact skipBlanks_eq_self fun c hc =>
    Decimal.isBlank_of_isDigit (Decimal.isDigit_of_mem_head?_padded hc)

/-- A year of four digits is read back without a sign. -/
theorem year?_padded {n : Nat} (h : n < Decimal.tenTo 4) (rest : List Char) :
    year? (Decimal.padded 4 n ++ rest) = some ((n : Int), rest) := by
  have hsign : ∀ c, Decimal.isDigit c = false → ∀ s, Decimal.padded 4 n ++ rest ≠ c :: s := by
    intro c hc s heq
    have hhead : c ∈ (Decimal.padded 4 n ++ rest).head? := by
      rw [heq]
      rfl
    rw [Decimal.isDigit_of_mem_head?_padded hhead] at hc
    cases hc
  rw [year?, skipBlanks_padded]
  split
  · rename_i heq
    exact absurd heq (hsign _ rfl _)
  · rename_i heq
    exact absurd heq (hsign _ rfl _)
  · rw [Decimal.atMost?_padded (by decide) h]
    rfl

/-- Any year is read back, where a hyphen stands behind it. -/
theorem year?_printYear (year : Int) (rest : List Char) :
    year? (printYear year ++ '-' :: rest) = some (year, '-' :: rest) := by
  by_cases hplain : IsPlainYear year
  · rw [printYear_of_isPlainYear hplain, year?_padded hplain.toNat_lt,
      Int.toNat_of_nonneg hplain.1]
  · have hread : Decimal.some? (Decimal.padded 4 year.natAbs ++ '-' :: rest) =
        some (year.natAbs, '-' :: rest) :=
      Decimal.some?_padded 4 year.natAbs (by rintro c ⟨⟩; rfl)
    rw [printYear_of_not_isPlainYear hplain]
    by_cases hneg : year < 0
    · have hnat : -(year.natAbs : Int) = year := by omega
      rw [if_pos hneg, List.cons_append, year?, skipBlanks_eq_self (by rintro c ⟨⟩; decide)]
      change (Decimal.some? _).map _ = _
      rw [hread]
      exact congrArg (fun y => some (y, '-' :: rest)) hnat
    · have hnat : (year.natAbs : Int) = year := by omega
      rw [if_neg hneg, List.cons_append, year?, skipBlanks_eq_self (by rintro c ⟨⟩; decide)]
      change (Decimal.some? _).map _ = _
      rw [hread]
      exact congrArg (fun y => some (y, '-' :: rest)) hnat

theorem small?_padded {n : Nat} (h : n < 100) (rest : List Char) :
    small? (Decimal.padded 2 n ++ rest) = some (n, rest) := by
  rw [small?, skipBlanks_padded]
  exact Decimal.atMost?_padded (by decide) h rest

theorem laxMark?_cons {c : Char} (h : Text.isBlank c = false) (rest : List Char) :
    laxMark? c (c :: rest) = some rest := by
  rw [laxMark?, skipBlanks_eq_self (by rintro d ⟨⟩; exact h), mark?, if_pos rfl]

/-! ### The whole text -/

theorem print_eq (t : Instant) (zone : String) :
    t.print zone = printYear t.date.year ++ '-' :: (Decimal.padded 2 t.date.month ++
      '-' :: (Decimal.padded 2 t.date.day ++ 'T' :: (Decimal.padded 2 (t.second / 3600) ++
        ':' :: (Decimal.padded 2 (t.second / 60 % 60) ++ ':' :: (Decimal.padded 2 t.shownSecond ++
          (printFraction (t.nano % secondNanos) ++ zone.toList)))))) := by
  simp only [print, Date.print, printTime, List.append_assoc, List.cons_append]

/-- Reading the text of an instant that a clock shows gives the instant back, exactly when its year
has four digits. -/
theorem parseStrict?_of_onClock {t : Instant} (hclock : t.OnClock) :
    parseStrict? t.toOffsetText = if IsPlainYear t.date.year then some t else none := by
  have htime := t.isTime
  simp only [IsTime, daySeconds] at htime
  have hmonth := t.date.month_lt
  have hday := t.date.day_lt
  have hsecond := t.shownSecond_lt
  have hzone : "+00:00".toList = '+' :: "00:00".toList := rfl
  simp only [parseStrict?, toOffsetText, String.toList_ofList, print_eq, hzone]
  split
  · rename_i hyear
    have hyear' : ((t.date.year.toNat : Nat) : Int) = t.date.year := Int.toNat_of_nonneg hyear.1
    have hoffset : zone? (mark? ':') ('+' :: "00:00".toList) = some (0, []) := by decide
    have hpadded : ∀ {n : Nat} (rest : List Char), n < 100 →
        Decimal.exactly? 2 (Decimal.padded 2 n ++ rest) = some (n, rest) :=
      fun rest h => Decimal.exactly?_padded (by decide) h rest
    simp only [exactly?_printYear hyear, Option.bind_eq_bind, Option.bind_some, mark?, dateEnd?,
      hpadded _ hmonth, hpadded _ hday, hpadded _ hsecond,
      hpadded _ (show t.second / 3600 < 100 by omega),
      hpadded _ (show t.second / 60 % 60 < 100 by omega), or_true, true_or, ↓reduceIte,
      fraction?_printFraction t.nano_mod_lt (c := '+') rfl (by decide), hoffset, hyear']
    exact ofClock?_shown hclock
  · rename_i hyear
    rw [exactly?_printYear_eq_none hyear]
    rfl

/-- Reading the text of an instant gives the instant back that the text stands for, exactly when its
year has four digits. -/
theorem parseStrict?_toOffsetText (t : Instant) :
    parseStrict? t.toOffsetText = if IsPlainYear t.date.year then some t.asWritten else none := by
  rw [toOffsetText, ← t.print_asWritten, ← t.date_asWritten]
  exact parseStrict?_of_onClock t.onClock_asWritten

/-- The lenient grammar gives back every instant that a clock shows from its text with a letter,
whatever its year. -/
theorem parseLenient?_of_onClock {t : Instant} (hclock : t.OnClock) :
    parseLenient? t.toZuluText = some t := by
  have htime := t.isTime
  simp only [IsTime, daySeconds] at htime
  have hzone : "Z".toList = ['Z'] := rfl
  have hlax : laxZone? (skipBlanks ['Z']) = some (0, []) := by decide
  have hblank : skipBlanks [] = [] := rfl
  simp only [parseLenient?, toZuluText, String.toList_ofList, print_eq, hzone, year?_printYear,
    Option.bind_eq_bind, Option.bind_some, dateEnd?,
    laxMark?_cons (c := '-') (by decide), laxMark?_cons (c := ':') (by decide),
    small?_padded t.date.month_lt, small?_padded t.date.day_lt, small?_padded t.shownSecond_lt,
    small?_padded (show t.second / 3600 < 100 by omega),
    small?_padded (show t.second / 60 % 60 < 100 by omega), or_true, true_or, ↓reduceIte,
    fraction?_printFraction t.nano_mod_lt (c := 'Z') rfl (by decide), hlax, hblank]
  exact ofClock?_shown hclock

/-- The lenient grammar gives back the instant that the text with a letter stands for, whatever its
year. -/
theorem parseLenient?_toZuluText (t : Instant) :
    parseLenient? t.toZuluText = some t.asWritten := by
  rw [toZuluText, ← t.print_asWritten]
  exact parseLenient?_of_onClock t.onClock_asWritten

/-- Half a leap second, in a year of five digits. -/
example : (parseLenient? "+12345-06-30T23:59:60.500Z").map toZuluText =
    some "+12345-06-30T23:59:60.500Z" := by decide

/-- An instant in a leap second inside of the first minute of 1970. -/
def insideLeap : Instant :=
  ⟨⟨1970, 1, 1, by decide, by decide⟩, 30, 1500000000, by decide⟩

theorem insideLeap_not_onClock : ¬ insideLeap.OnClock := by
  decide

end Instant

end MailSync
