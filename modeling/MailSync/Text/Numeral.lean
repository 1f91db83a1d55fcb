import MailSync.Text.Decimal

/-!
# Numerals

A number as a text may write it: a sign, digits with a decimal point among them, an exponent of ten,
and blanks around all of it. A numeral without point and exponent stands for itself if 64 bits hold
it. Every other one stands for a binary fraction of 53 bits: for the one that is nearest to its
leading digits times a power of ten. So what it writes may be whole without being written so.
-/

namespace MailSync

/-- A numeral: a significand times a power of ten. -/
structure Numeral where
  /-- The number is behind a minus sign. -/
  negative : Bool
  /-- The leading digits, read as a whole number. -/
  significand : Nat
  /-- The power of ten. -/
  scale : Int
  /-- The number that all digits write, if there is no point and no exponent. -/
  plain : Option Nat
  deriving DecidableEq, Repr

namespace Numeral

/-- A blank around a numeral. -/
def isBlank (c : Char) : Bool :=
  c = ' ' || ('\t' ≤ c && c ≤ '\r')

/-- A sign in front of a number, and the text behind it. -/
def sign : List Char → Bool × List Char
  | '-' :: rest => (true, rest)
  | '+' :: rest => (false, rest)
  | rest => (false, rest)

/-- Reads an exponent up to the blanks at the end of a text, where there may be none. -/
def exponent? (s : List Char) : Option Int :=
  match s with
  | 'e' :: rest | 'E' :: rest =>
    let (negative, rest) := sign rest
    match Decimal.some? rest with
    | some (n, rest) =>
      if rest.all isBlank then some (if negative then -(n : Int) else n) else none
    | none => none
  | _ => if s.all isBlank then some 0 else none

/-- A significand of this size is full: one more digit might not fit into 64 bits. -/
def full : Nat :=
  1844674407370955160

/-- A significand and a power of ten, with one more digit in front of the point. A full significand
takes the digit for a zero. -/
def addWhole (n : Nat × Int) (c : Char) : Nat × Int :=
  if n.1 < full then (n.1 * 10 + Decimal.digitValue c, n.2) else (n.1, n.2 + 1)

/-- A significand and a power of ten, with one more digit behind the point. A full significand
passes the digit over. -/
def addPlace (n : Nat × Int) (c : Char) : Nat × Int :=
  if n.1 < full then (n.1 * 10 + Decimal.digitValue c, n.2 - 1) else n

/-- Reads a numeral. There has to be a digit in front of the exponent, on either side of the
point. -/
def read? (s : String) : Option Numeral :=
  let (negative, rest) := sign (s.toList.dropWhile isBlank)
  let (whole, rest) := Decimal.run rest
  let (fraction, behind) :=
    match rest with
    | '.' :: rest => Decimal.run rest
    | _ => ([], rest)
  if whole ++ fraction = [] then none
  else
    let (significand, places) := fraction.foldl addPlace (whole.foldl addWhole (0, 0))
    (exponent? behind).map fun e =>
      ⟨negative, significand, e + places,
        if rest.all isBlank then some (Decimal.natOfDigits whole) else none⟩

/-- A quotient rounded to the nearest whole number, halves to the even one. -/
def roundHalfEven (n d : Nat) : Nat :=
  let q := n / d
  if 2 * (n % d) < d then q
  else if d < 2 * (n % d) then q + 1
  else q + q % 2

/-- The binary logarithm of a positive quotient, rounded down. -/
def log2 (n d : Nat) : Int :=
  let k : Int := Int.ofNat n.log2 - d.log2
  if n <<< (-k).toNat < d <<< k.toNat then k - 1 else k

/-- The binary fraction of 53 bits that is nearest to a positive quotient, if it is whole. The last
bit of a fraction is at least the 1074th behind the point. -/
def wholeNearest? (n d : Nat) : Option Nat :=
  let places := min (52 - log2 n d) 1074
  let rounded := roundHalfEven (n <<< places.toNat) (d <<< (-places).toNat)
  if rounded % (1 <<< places.toNat) = 0 then
    some ((rounded >>> places.toNat) <<< (-places).toNat)
  else none

/-- The number is so small that it counts as zero. That takes in some numbers that are nearer to the
least binary fraction, which is about 4.94e-324. -/
def isTiny (n : Numeral) : Bool :=
  let e := n.scale + 327
  n.significand * Decimal.tenTo e.toNat < 2745 * Decimal.tenTo (-e).toNat

/-- The whole number for which a numeral stands, without its sign. Numbers of more than 330 digits
are beyond all binary fractions. -/
def magnitude? (n : Numeral) : Option Nat :=
  let size : Int := (Decimal.print n.significand).length + n.scale
  if n.significand = 0 ∨ size < -330 then some 0
  else if 330 < size then none
  else if n.isTiny then some 0
  else
    wholeNearest? (n.significand * Decimal.tenTo n.scale.toNat) (Decimal.tenTo (-n.scale).toNat)

/-- The whole number of 64 bits that a numeral stands for. One that is not plain does not stand for
the least or the greatest of them. -/
def toInt64? (n : Numeral) : Option Int :=
  let signed (m : Nat) : Int := if n.negative then -(m : Int) else m
  let exact := (n.plain.map signed).filter fun m =>
    -0x8000000000000000 ≤ m ∧ m ≤ 0x7FFFFFFFFFFFFFFF
  exact.or
    ((n.magnitude?.map signed).filter fun m => -0x8000000000000000 < m ∧ m < 0x7FFFFFFFFFFFFFFF)

end Numeral

end MailSync
