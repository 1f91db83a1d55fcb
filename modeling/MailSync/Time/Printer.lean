import MailSync.Text.Decimal
import MailSync.Time.Instant

/-!
# Writing points in time

Date, `T`, time and zone in the form of RFC 3339. The fraction has as many digits as it needs, in
groups of three. A year outside 0 to 9999 gets a sign.
-/

namespace MailSync

/-- A year in four digits, or with a sign and at least four digits. -/
def printYear (year : Int) : List Char :=
  if 0 ≤ year ∧ year ≤ 9999 then Decimal.padded 4 year.toNat
  else (if year < 0 then '-' else '+') :: Decimal.padded 4 year.natAbs

/-- A fraction of a second behind its point. Nothing is written for a whole second. -/
def printFraction (nano : Nat) : List Char :=
  if nano = 0 then []
  else if nano % 1000000 = 0 then '.' :: Decimal.padded 3 (nano / 1000000)
  else if nano % 1000 = 0 then '.' :: Decimal.padded 6 (nano / 1000)
  else '.' :: Decimal.padded 9 nano

namespace Date

/-- A date in numbers. -/
def print (d : Date) : List Char :=
  printYear d.year ++ '-' :: Decimal.padded 2 d.month ++ '-' :: Decimal.padded 2 d.day

end Date

namespace Instant

/-- The second of the minute, where a leap second is second 60. -/
def shownSecond (t : Instant) : Nat :=
  t.second % 60 + t.nano / secondNanos

/-- The time of the day in numbers. -/
def printTime (t : Instant) : List Char :=
  Decimal.padded 2 (t.second / 3600) ++ ':' :: Decimal.padded 2 (t.second / 60 % 60) ++
    ':' :: Decimal.padded 2 t.shownSecond ++ printFraction (t.nano % secondNanos)

/-- Date and time, with the text of the zone. -/
def print (t : Instant) (zone : String) : List Char :=
  t.date.print ++ 'T' :: t.printTime ++ zone.toList

/-- The text with the zone as an offset of zero. -/
def toOffsetText (t : Instant) : String :=
  String.ofList (t.print "+00:00")

/-- The text with the zone as a letter. -/
def toZuluText (t : Instant) : String :=
  String.ofList (t.print "Z")

end Instant

end MailSync
