/-!
# Decimal digits

Natural numbers as runs of decimal digits, written with or without leading zeros and read with or
without a bound on their number.
-/

namespace MailSync

namespace Decimal

/-- The decimal digits. -/
def isDigit (c : Char) : Bool :=
  '0' ≤ c && c ≤ '9'

/-- The value of a decimal digit. -/
def digitValue (c : Char) : Nat :=
  c.toNat - '0'.toNat

/-- The number that a run of decimal digits writes. -/
def natOfDigits (digits : List Char) : Nat :=
  digits.foldl (fun n c => n * 10 + digitValue c) 0

/-- Ten to a power. -/
def tenTo : Nat → Nat
  | 0 => 1
  | n + 1 => 10 * tenTo n

/-- A number in decimal digits, without leading zeros. -/
def print (n : Nat) : List Char :=
  Nat.toDigits 10 n

/-- A number in decimal digits, with leading zeros up to a width. -/
def padded (width n : Nat) : List Char :=
  List.replicate (width - (print n).length) '0' ++ print n

/-- A run of decimal digits and the text behind it. -/
def run (s : List Char) : List Char × List Char :=
  (s.takeWhile isDigit, s.dropWhile isDigit)

/-- Reads exactly `n` digits: their number, and the text behind them. -/
def exactly? (n : Nat) (s : List Char) : Option (Nat × List Char) :=
  let ds := s.take n
  if ds.length = n ∧ ds.all isDigit then some (natOfDigits ds, s.drop n) else none

/-- Reads as many digits as there are, at least one and at most `n`: their number, and the text
behind them. -/
def atMost? (n : Nat) (s : List Char) : Option (Nat × List Char) :=
  match (s.take n).takeWhile isDigit with
  | [] => none
  | ds => some (natOfDigits ds, s.drop ds.length)

/-- Reads as many digits as there are, at least one: their number, and the text behind them. -/
def some? (s : List Char) : Option (Nat × List Char) :=
  match run s with
  | ([], _) => none
  | (ds, rest) => some (natOfDigits ds, rest)

theorem length_snd_run (s : List Char) : (run s).2.length ≤ s.length :=
  (List.dropWhile_sublist isDigit).length_le

theorem length_of_some? {s rest : List Char} {n : Nat} (h : some? s = some (n, rest)) :
    rest.length < s.length := by
  unfold some? at h
  split at h
  · simp at h
  · rename_i ds rest' hne hd
    simp only [Option.some.injEq, Prod.mk.injEq] at h
    obtain ⟨-, rfl⟩ := h
    simp only [run, Prod.mk.injEq] at hd
    have := congrArg List.length (List.takeWhile_append_dropWhile (p := isDigit) (l := s))
    rw [hd.1, hd.2, List.length_append] at this
    have : ds.length ≠ 0 := fun h => hne (List.length_eq_zero_iff.1 h)
    omega

end Decimal

end MailSync
