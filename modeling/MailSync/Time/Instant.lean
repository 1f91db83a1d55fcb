import MailSync.Time.Date

/-!
# Points in time

A point in time by date, second of the day and nanosecond, in UTC. A leap second extends the second
before it: its nanoseconds run on from one thousand million. Any second of the day can be extended,
although clocks show only the extension of the last second of a minute, as second 60.
-/

namespace MailSync

/-- The seconds of a day. -/
def daySeconds : Nat :=
  86400

/-- The nanoseconds of a second. -/
def secondNanos : Nat :=
  1000000000

/-- A second of the day and a nanosecond exist: the nanosecond lies in the second, or in a leap
second that extends it. -/
def IsTime (second nano : Nat) : Prop :=
  second < daySeconds ∧ nano < 2 * secondNanos

instance (second nano : Nat) : Decidable (IsTime second nano) :=
  inferInstanceAs (Decidable (_ ∧ _))

/-- A point in time, in UTC. -/
structure Instant where
  /-- The date. -/
  date : Date
  /-- The second of the day. -/
  second : Nat
  /-- The nanosecond of the second, which runs on through a leap second. -/
  nano : Nat
  isTime : IsTime second nano
  deriving DecidableEq, Repr

/-- A time as written: a date, a time of the day in which second 60 is a leap second, and how far
the clock is ahead of UTC. -/
structure ClockTime where
  year : Int
  month : Nat
  day : Nat
  hour : Nat
  minute : Nat
  second : Nat
  nano : Nat
  /-- Minutes ahead of UTC. -/
  ahead : Int
  deriving DecidableEq, Repr

namespace Instant

/-- The instant with a date, a second of the day and a nanosecond, if it exists. -/
def of? (date : Date) (second nano : Nat) : Option Instant :=
  if h : IsTime second nano then some ⟨date, second, nano, h⟩ else none

/-- The instant `seconds` after the start of a date, which may lie a day before or after. -/
def fromStart? (date : Date) (seconds : Int) (nano : Nat) : Option Instant :=
  if seconds < 0 then
    date.previous?.bind fun d => of? d (seconds + daySeconds).toNat nano
  else if seconds < daySeconds then of? date seconds.toNat nano
  else date.next?.bind fun d => of? d (seconds - daySeconds).toNat nano

/-- The instant at which a clock shows a time, if the time exists. -/
def ofClock? (t : ClockTime) : Option Instant :=
  if t.hour < 24 ∧ t.minute < 60 ∧ t.second ≤ 60 ∧ t.ahead.natAbs < 24 * 60 then
    let second := min t.second 59
    let nano := if t.second = 60 then t.nano + secondNanos else t.nano
    (Date.of? t.year t.month t.day).bind fun date =>
      fromStart? date (t.hour * 3600 + t.minute * 60 + second - t.ahead * 60) nano
  else none

/-- The instant a number of seconds after the start of 1970, where only the last second of a minute
may be extended. -/
def ofUnix? (seconds : Int) (nano : Nat) : Option Instant :=
  if nano < secondNanos ∨ seconds % 60 = 59 then
    (Date.ofDays? (seconds / daySeconds)).bind fun date =>
      of? date (seconds % daySeconds).toNat nano
  else none

@[simp] theorem of?_self (t : Instant) : of? t.date t.second t.nano = some t := by
  simp [of?, t.isTime]

end Instant

end MailSync
