import MailSync.Text.Blank
import MailSync.Text.Decimal
import MailSync.Time.Instant

/-!
# Reading points in time

Two grammars for a date, a time and a zone. The strict one is that of RFC 3339: fixed numbers of
digits, and nothing around them. The lenient one lets numbers be shorter, takes blanks around the
parts, and takes any year behind a sign.
-/

namespace MailSync

namespace Instant

/-! ### Parts of both grammars -/

/-- Reads a given character. -/
def mark? (c : Char) : List Char → Option (List Char)
  | d :: s => if d = c then some s else none
  | [] => none

/-- Reads what separates a date from a time. -/
def dateEnd? : List Char → Option (List Char)
  | c :: s => if c = 't' ∨ c = 'T' ∨ c = ' ' then some s else none
  | [] => none

/-- Reads a fraction of a second, if a point comes next: the nanoseconds, and the text behind the
fraction. Digits from the tenth on are passed over. -/
def fraction? : List Char → Option (Nat × List Char)
  | '.' :: s =>
    match (Decimal.run s).1.take 9 with
    | [] => none
    | ds => some (Decimal.natOfDigits ds * Decimal.tenTo (9 - ds.length), (Decimal.run s).2)
  | s => some (0, s)

/-- Reads the sign of an offset, where a minus may be a hyphen or a minus sign. -/
def sign? : List Char → Option (Int × List Char)
  | '+' :: s => some (1, s)
  | '-' :: s => some (-1, s)
  | '\u2212' :: s => some (-1, s)
  | _ => none

/-- Reads an offset from UTC in minutes, given what reads the text between hours and minutes. -/
def offset? (between : List Char → Option (List Char)) (s : List Char) :
    Option (Int × List Char) := do
  let (sign, s) ← sign? s
  let (hours, s) ← Decimal.exactly? 2 s
  let s ← between s
  let (minutes, s) ← Decimal.exactly? 2 s
  if minutes < 60 then some (sign * (hours * 60 + minutes : Nat), s) else none

/-- Reads a zone: a letter for UTC, or an offset. -/
def zone? (between : List Char → Option (List Char)) : List Char → Option (Int × List Char)
  | 'Z' :: s => some (0, s)
  | 'z' :: s => some (0, s)
  | s => offset? between s

/-! ### The strict grammar -/

/-- Reads a point in time by the strict grammar. -/
def parseStrict? (text : String) : Option Instant := do
  let (year, s) ← Decimal.exactly? 4 text.toList
  let (month, s) ← Decimal.exactly? 2 (← mark? '-' s)
  let (day, s) ← Decimal.exactly? 2 (← mark? '-' s)
  let (hour, s) ← Decimal.exactly? 2 (← dateEnd? s)
  let (minute, s) ← Decimal.exactly? 2 (← mark? ':' s)
  let (second, s) ← Decimal.exactly? 2 (← mark? ':' s)
  let (nano, s) ← fraction? s
  let (ahead, s) ← zone? (mark? ':') s
  if s = [] then ofClock? ⟨year, month, day, hour, minute, second, nano, ahead⟩ else none

/-! ### The lenient grammar -/

/-- A text without the blanks at its start. -/
def skipBlanks (s : List Char) : List Char :=
  s.dropWhile Text.isBlank

/-- Reads a year: up to four digits, or any number of digits behind a sign. -/
def year? (s : List Char) : Option (Int × List Char) :=
  match skipBlanks s with
  | '+' :: s => (Decimal.some? s).map fun (n, s) => ((n : Int), s)
  | '-' :: s => (Decimal.some? s).map fun (n, s) => (-(n : Int), s)
  | s => (Decimal.atMost? 4 s).map fun (n, s) => ((n : Int), s)

/-- Reads a number of one or two digits. -/
def small? (s : List Char) : Option (Nat × List Char) :=
  Decimal.atMost? 2 (skipBlanks s)

/-- Reads a given character behind blanks. -/
def laxMark? (c : Char) (s : List Char) : Option (List Char) :=
  mark? c (skipBlanks s)

/-- Passes over colons and blanks between the hours and minutes of an offset. -/
def laxBetween? (s : List Char) : Option (List Char) :=
  some (s.dropWhile fun c => c == ':' || Text.isBlank c)

/-- Reads a zone: the letters `UTC` in any case, a letter for UTC, or an offset. -/
def laxZone? (s : List Char) : Option (Int × List Char) :=
  if (s.take 3).map Char.toUpper = ['U', 'T', 'C'] then some (0, s.drop 3)
  else zone? laxBetween? s

/-- Reads a point in time by the lenient grammar. -/
def parseLenient? (text : String) : Option Instant := do
  let (year, s) ← year? text.toList
  let (month, s) ← small? (← laxMark? '-' s)
  let (day, s) ← small? (← laxMark? '-' s)
  let (hour, s) ← small? (← dateEnd? s)
  let (minute, s) ← small? (← laxMark? ':' s)
  let (second, s) ← small? (← laxMark? ':' s)
  let (nano, s) ← fraction? s
  let (ahead, s) ← laxZone? (skipBlanks s)
  if skipBlanks s = [] then ofClock? ⟨year, month, day, hour, minute, second, nano, ahead⟩
  else none

end Instant

end MailSync
