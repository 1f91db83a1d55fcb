import MailSync.Json.Basic
import MailSync.Text.Decimal

/-!
# JSON tokens

The lexical grammar of RFC 8259: six marks, three words, numerals and strings, with space, tab,
line feed and carriage return between them. `tokens?` reads a whole text as its tokens.
-/

namespace MailSync

namespace Json

open Decimal (isDigit digitValue)

/-- A lexical unit. -/
inductive Token where
  | openArray
  | closeArray
  | openObject
  | closeObject
  | comma
  | colon
  | null
  | bool (b : Bool)
  | num (n : Numeral)
  | str (s : Text)
  deriving DecidableEq, Repr

/-- The characters that may stand between tokens. -/
def isSpace (c : Char) : Bool :=
  c == ' ' || c == '\t' || c == '\n' || c == '\r'

/-- The value of a hexadecimal digit of either case. -/
def hexValue? (c : Char) : Option Nat :=
  if isDigit c then some (digitValue c)
  else if 'a' ≤ c ∧ c ≤ 'f' then some (c.toNat - 'a'.toNat + 10)
  else if 'A' ≤ c ∧ c ≤ 'F' then some (c.toNat - 'A'.toNat + 10)
  else none

/-! ### Strings -/

/-- An element of a string as written: a character, or a UTF-16 unit given by its number. -/
inductive Element where
  | char (c : Char)
  | unit (u : Nat)
  deriving DecidableEq, Repr

/-- The unit that four hexadecimal digits write. -/
def unit? (a b c d : Char) : Option Nat := do
  let a ← hexValue? a
  let b ← hexValue? b
  let c ← hexValue? c
  let d ← hexValue? d
  return ((a * 16 + b) * 16 + c) * 16 + d

/-- The character that a one-letter escape stands for. -/
def unescape? : Char → Option Char
  | '"' => some '"'
  | '\\' => some '\\'
  | '/' => some '/'
  | 'b' => some '\x08'
  | 'f' => some '\x0C'
  | 'n' => some '\n'
  | 'r' => some '\r'
  | 't' => some '\t'
  | _ => none

/-- Reads a string behind its opening quote: its elements, and the text behind its closing quote.
A control character has to be escaped. -/
def elements? : List Char → Option (List Element × List Char)
  | [] => none
  | '"' :: rest => some ([], rest)
  | '\\' :: 'u' :: a :: b :: c :: d :: rest =>
    match unit? a b c d, elements? rest with
    | some u, some (es, rest) => some (.unit u :: es, rest)
    | _, _ => none
  | '\\' :: e :: rest =>
    match unescape? e, elements? rest with
    | some c, some (es, rest) => some (.char c :: es, rest)
    | _, _ => none
  | c :: rest =>
    if c < ' ' ∨ c = '\\' then none
    else
      match elements? rest with
      | some (es, rest) => some (.char c :: es, rest)
      | none => none

/-- A unit that opens a surrogate pair. -/
def isHigh (u : Nat) : Bool :=
  0xD800 ≤ u && u < 0xDC00

/-- A unit that closes a surrogate pair. -/
def isLow (u : Nat) : Bool :=
  0xDC00 ≤ u && u < 0xE000

/-- The characters of a string, if each of its surrogate units is part of a pair. -/
def characters? : List Element → Option (List Char)
  | [] => some []
  | .char c :: rest => (characters? rest).map (c :: ·)
  | .unit u :: .unit v :: rest =>
    if isHigh u ∧ isLow v then
      (characters? rest).map (Char.ofNat (0x10000 + (u - 0xD800) * 1024 + (v - 0xDC00)) :: ·)
    else if isHigh u ∨ isLow u then none
    else (characters? (.unit v :: rest)).map (Char.ofNat u :: ·)
  | .unit u :: rest =>
    if isHigh u ∨ isLow u then none else (characters? rest).map (Char.ofNat u :: ·)

/-! ### Numerals -/

/-- Reads the digits before the point: a zero alone, or digits that do not start with one. -/
def whole? : List Char → Option (Nat × List Char)
  | '0' :: rest => some (0, rest)
  | s => Decimal.some? s

/-- Reads a fraction, if a point comes next: the text of it, and the text behind it. -/
def fraction? : List Char → Option (List Char × List Char)
  | '.' :: s =>
    match Decimal.run s with
    | ([], _) => none
    | (ds, rest) => some ('.' :: ds, rest)
  | s => some ([], s)

/-- The sign of an exponent, and the text behind it. -/
def exponentSign : List Char → List Char × List Char
  | '+' :: s => (['+'], s)
  | '-' :: s => (['-'], s)
  | s => ([], s)

/-- Reads an exponent, if its letter comes next: the text of it, and the text behind it. -/
def exponent? : List Char → Option (List Char × List Char)
  | [] => some ([], [])
  | e :: s =>
    if e = 'e' ∨ e = 'E' then
      let (sign, s) := exponentSign s
      match Decimal.run s with
      | ([], _) => none
      | (ds, rest) => some (e :: sign ++ ds, rest)
    else some ([], e :: s)

/-- Reads a numeral behind its sign. -/
def unsigned? (negative : Bool) (s : List Char) : Option (Numeral × List Char) := do
  let (whole, s) ← whole? s
  let (fraction, s) ← fraction? s
  let (exponent, s) ← exponent? s
  return (⟨negative, whole, fraction ++ exponent⟩, s)

/-! ### Tokens -/

/-- Reads the token that starts with `c`: the token, and the text behind it. -/
def scan? (c : Char) (s : List Char) : Option (Token × List Char) :=
  match c, s with
  | '[', s => some (.openArray, s)
  | ']', s => some (.closeArray, s)
  | '\x7b', s => some (.openObject, s)
  | '\x7d', s => some (.closeObject, s)
  | ',', s => some (.comma, s)
  | ':', s => some (.colon, s)
  | 'n', 'u' :: 'l' :: 'l' :: s => some (.null, s)
  | 't', 'r' :: 'u' :: 'e' :: s => some (.bool true, s)
  | 'f', 'a' :: 'l' :: 's' :: 'e' :: s => some (.bool false, s)
  | '"', s => (elements? s).map fun (es, s) => (.str ((characters? es).map String.ofList), s)
  | '-', s => (unsigned? true s).map fun (n, s) => (.num n, s)
  | c, s =>
    if isDigit c then (unsigned? false (c :: s)).map fun (n, s) => (.num n, s) else none

/-! ### What a reader leaves is no longer than what it was given -/

theorem length_of_elements? {s : List Char} {es : List Element} {rest : List Char}
    (h : elements? s = some (es, rest)) : rest.length ≤ s.length := by
  fun_induction elements? s generalizing es rest with
  | case1 => simp at h
  | case2 => grind
  | case3 a b c d s u es' rest' hs hu ih =>
    have := ih hs
    simp only [Option.some.injEq, Prod.mk.injEq] at h
    simp only [List.length_cons, ← h.2]
    omega
  | case4 => simp at h
  | case5 e s _ c es' rest' hs hc ih =>
    have := ih hs
    simp only [Option.some.injEq, Prod.mk.injEq] at h
    simp only [List.length_cons, ← h.2]
    omega
  | case6 => simp at h
  | case7 => simp at h
  | case8 c s _ _ _ hc es' rest' hs ih =>
    have := ih hs
    simp only [Option.some.injEq, Prod.mk.injEq] at h
    simp only [List.length_cons, ← h.2]
    omega
  | case9 => simp at h

theorem length_of_whole? {s : List Char} {n : Nat} {rest : List Char}
    (h : whole? s = some (n, rest)) : rest.length < s.length := by
  unfold whole? at h
  split at h
  · simp only [Option.some.injEq, Prod.mk.injEq] at h
    simp [← h.2]
  · exact Decimal.length_of_some? h

theorem length_of_fraction? {s ds rest : List Char} (h : fraction? s = some (ds, rest)) :
    rest.length ≤ s.length := by
  unfold fraction? at h
  split at h
  · rename_i s
    have := Decimal.length_snd_run s
    split at h <;> grind
  · grind

theorem length_of_exponent? {s ds rest : List Char} (h : exponent? s = some (ds, rest)) :
    rest.length ≤ s.length := by
  unfold exponent? at h
  split at h
  · grind
  · rename_i e s
    have hs : (exponentSign s).2.length ≤ s.length := by
      unfold exponentSign
      split <;> grind
    have := Decimal.length_snd_run (exponentSign s).2
    split at h
    · dsimp only at h
      split at h <;> grind
    · grind

theorem length_of_unsigned? {negative : Bool} {s : List Char} {n : Numeral} {rest : List Char}
    (h : unsigned? negative s = some (n, rest)) : rest.length < s.length := by
  simp only [unsigned?, Option.bind_eq_bind, Option.bind_eq_some_iff, Option.pure_def,
    Option.some.injEq, Prod.mk.injEq, Prod.exists] at h
  obtain ⟨w, s₁, h₁, f, s₂, h₂, e, s₃, h₃, -, rfl⟩ := h
  have := length_of_whole? h₁
  have := length_of_fraction? h₂
  have := length_of_exponent? h₃
  omega

theorem length_of_scan? {c : Char} {s : List Char} {t : Token} {rest : List Char}
    (h : scan? c s = some (t, rest)) : rest.length ≤ s.length := by
  unfold scan? at h
  split at h <;>
    simp only [Option.some.injEq, Prod.mk.injEq, Option.map_eq_some_iff, Prod.exists,
      Option.ite_none_right_eq_some] at h
  case h_10 => obtain ⟨es, s', hs, -, rfl⟩ := h; exact length_of_elements? hs
  case h_11 => obtain ⟨n, s', hs, -, rfl⟩ := h; exact Nat.le_of_lt (length_of_unsigned? hs)
  case h_12 =>
    obtain ⟨-, n, s', hs, -, rfl⟩ := h
    exact Nat.le_of_lt_succ (length_of_unsigned? hs)
  all_goals
    obtain ⟨-, rfl⟩ := h
    grind

/-- The tokens of a text, if it can be read as tokens and space between them. -/
def tokens? (s : List Char) : Option (List Token) :=
  match s with
  | [] => some []
  | c :: rest =>
    if isSpace c then tokens? rest
    else
      match h : scan? c rest with
      | none => none
      | some (t, behind) =>
        have := length_of_scan? h
        (tokens? behind).map (t :: ·)
termination_by s.length
decreasing_by
  all_goals
    simp only [List.length_cons]
    omega

end Json

end MailSync
