import Mathlib.Data.List.Chain
import MailSync.Json.Printer
import MailSync.Json.Token
import MailSync.Proofs.Digits

/-!
# Tokens and their spellings

A token can be written in several ways, as a character of a string stands for itself or is escaped,
and between tokens there may be space. Reading undoes exactly this: a text is read as tokens if it
is made of spellings of them, one behind another, where no numeral is cut in two.

* `Json.elements?_eq_some_iff` : a string goes up to the first quote that is not escaped.
* `Json.characters?_eq_some_iff` : halves of surrogate pairs stand for characters only together.
* `Json.unsigned?_spelled` : a numeral is read as far as it goes.
* `Json.layout_of_tokens?`, `Json.tokens?_of_layout` : what is read as tokens is made of spellings
  of them, and the other way round.
-/

namespace MailSync

namespace Json

open Decimal (isDigit)

/-! ### Strings -/

/-- The ways to write an element of a string. A control character, a quote and a backslash have to
be escaped. -/
inductive Element.SpelledAs : Element → List Char → Prop
  | plain {c : Char} (hcontrol : ¬c < ' ') (hquote : c ≠ '"') (hback : c ≠ '\\') :
    (char c).SpelledAs [c]
  | letter {e c : Char} (h : unescape? e = some c) : (char c).SpelledAs ['\\', e]
  | unit {a b c d : Char} {u : Nat} (h : unit? a b c d = some u) :
    (unit u).SpelledAs ['\\', 'u', a, b, c, d]

/-- The text is made of spellings of the elements. -/
inductive Spells : List Element → List Char → Prop
  | nil : Spells [] []
  | cons {e : Element} {w : List Char} {es : List Element} {s : List Char} (h : e.SpelledAs w)
    (hs : Spells es s) : Spells (e :: es) (w ++ s)

/-- An element is read from any of its spellings. -/
theorem elements?_spelled {e : Element} {w : List Char} (h : e.SpelledAs w) (s : List Char) :
    elements? (w ++ s) = (elements? s).map fun p => (e :: p.1, p.2) := by
  cases h with
  | @plain c hcontrol hquote hback =>
    rw [List.singleton_append, elements?]
    · simp only [hcontrol, hback, or_self, ↓reduceIte]
      cases elements? s <;> rfl
    · exact hquote
    · rintro _ _ _ _ _ rfl
      exact absurd rfl hback
    · rintro _ _ rfl
      exact absurd rfl hback
  | @letter e c h =>
    rw [List.cons_append, List.singleton_append, elements?]
    · rw [h]
      cases elements? s <;> rfl
    · -- the letter of a unit stands for no character
      rintro _ _ _ _ _ rfl
      cases h
  | unit h =>
    simp only [List.cons_append, List.nil_append, elements?, h]
    cases elements? s <;> rfl

/-- A string is read up to the first quote that is no part of a spelling. -/
theorem elements?_eq_some_iff {s rest : List Char} {es : List Element} :
    elements? s = some (es, rest) ↔ ∃ w, Spells es w ∧ s = w ++ '"' :: rest := by
  constructor
  · intro h
    fun_induction elements? s generalizing es rest with
    | case1 | case4 | case6 | case7 | case9 => cases h
    | case2 =>
      cases h
      exact ⟨[], .nil, rfl⟩
    | case3 a b c d s u es' rest' hs hu ih =>
      cases h
      obtain ⟨w, hw, rfl⟩ := ih hs
      exact ⟨_, .cons (.unit hu) hw, rfl⟩
    | case5 e s _ c es' rest' hs hc ih =>
      cases h
      obtain ⟨w, hw, rfl⟩ := ih hs
      exact ⟨_, .cons (.letter hc) hw, rfl⟩
    | case8 c s hquote _ _ hc es' rest' hs ih =>
      cases h
      obtain ⟨w, hw, rfl⟩ := ih hs
      obtain ⟨hcontrol, hback⟩ := not_or.1 hc
      exact ⟨_, .cons (.plain hcontrol hquote hback) hw, rfl⟩
  · rintro ⟨w, hw, rfl⟩
    induction hw with
    | nil => rfl
    | cons he _ ih =>
      rw [List.append_assoc, elements?_spelled he, ih]
      rfl

/-- The characters that the elements of a string stand for. Halves of surrogate pairs stand for a
character only together. -/
inductive StandFor : List Element → List Char → Prop
  | nil : StandFor [] []
  | char {c : Char} {es : List Element} {cs : List Char} (h : StandFor es cs) :
    StandFor (.char c :: es) (c :: cs)
  | unit {u : Nat} {es : List Element} {cs : List Char} (hhigh : isHigh u = false)
    (hlow : isLow u = false) (h : StandFor es cs) : StandFor (.unit u :: es) (Char.ofNat u :: cs)
  | pair {u v : Nat} {es : List Element} {cs : List Char} (hhigh : isHigh u = true)
    (hlow : isLow v = true) (h : StandFor es cs) :
    StandFor (.unit u :: .unit v :: es)
      (Char.ofNat (0x10000 + (u - 0xD800) * 1024 + (v - 0xDC00)) :: cs)

/-- A unit that is no half of a pair is a character by itself. -/
theorem characters?_unit {u : Nat} (hhigh : isHigh u = false) (hlow : isLow u = false)
    (es : List Element) :
    characters? (.unit u :: es) = (characters? es).map (Char.ofNat u :: ·) := by
  cases es with
  | nil => simp [characters?, hhigh, hlow]
  | cons e es => cases e <;> simp [characters?, hhigh, hlow]

theorem characters?_eq_some_iff {es : List Element} {cs : List Char} :
    characters? es = some cs ↔ StandFor es cs := by
  constructor
  · intro h
    fun_induction characters? es generalizing cs with
    | case1 =>
      cases h
      exact .nil
    | case2 c es ih =>
      obtain ⟨cs, hcs, rfl⟩ := Option.map_eq_some_iff.1 h
      exact .char (ih hcs)
    | case3 u v es hpair ih =>
      obtain ⟨cs, hcs, rfl⟩ := Option.map_eq_some_iff.1 h
      exact .pair hpair.1 hpair.2 (ih hcs)
    | case4 | case6 => cases h
    | case5 u v es _ hnone ih | case7 u es _ hnone ih =>
      obtain ⟨cs, hcs, rfl⟩ := Option.map_eq_some_iff.1 h
      obtain ⟨hhigh, hlow⟩ := not_or.1 hnone
      exact .unit (Bool.eq_false_iff.2 hhigh) (Bool.eq_false_iff.2 hlow) (ih hcs)
  · intro h
    induction h with
    | nil => rfl
    | char _ ih => rw [characters?, ih, Option.map_some]
    | unit hhigh hlow _ ih => rw [characters?_unit hhigh hlow, ih, Option.map_some]
    | pair hhigh hlow _ ih => rw [characters?, if_pos ⟨hhigh, hlow⟩, ih, Option.map_some]

/-! ### Numerals -/

/-- A text that does not go on with a numeral in front of it. -/
def EndsNumeral (rest : List Char) : Prop :=
  ∀ c ∈ rest.head?, isDigit c = false ∧ c ≠ '.' ∧ c ≠ 'e' ∧ c ≠ 'E'

theorem whole?_print (n : Nat) {rest : List Char} (hrest : ∀ c ∈ rest.head?, isDigit c = false) :
    whole? (Decimal.print n ++ rest) = some (n, rest) := by
  have hsome := Decimal.some?_print n hrest
  -- only zero starts with a zero
  by_cases hn : n = 0
  · subst hn
    rfl
  obtain ⟨c, cs, hprint⟩ := List.exists_cons_of_ne_nil (Decimal.print_ne_nil n)
  have hc := Decimal.head?_print_ne hn
  rw [hprint] at hsome hc ⊢
  rw [List.cons_append, whole?]
  · exact hsome
  · rintro _ ⟨⟩
    exact hc rfl

theorem exponent?_ends {rest : List Char} (h : EndsNumeral rest) :
    exponent? rest = some ([], rest) := by
  cases rest with
  | nil => rfl
  | cons c rest =>
    obtain ⟨-, -, he, hE⟩ := h c rfl
    simp only [exponent?, he, hE, or_self, ↓reduceIte]

/-- The ways to write a fraction, or none. -/
inductive Fraction : List Char → Prop
  | absent : Fraction []
  | digits {ds : List Char} (hne : ds ≠ []) (hds : ∀ c ∈ ds, isDigit c = true) :
    Fraction ('.' :: ds)

/-- The ways to write an exponent, or none. -/
inductive Exponent : List Char → Prop
  | absent : Exponent []
  | digits {e : Char} {sign ds : List Char} (he : e = 'e' ∨ e = 'E')
    (hsign : sign ∈ [[], ['+'], ['-']]) (hne : ds ≠ []) (hds : ∀ c ∈ ds, isDigit c = true) :
    Exponent (e :: (sign ++ ds))

/-- Behind the digits before the point stand a fraction and an exponent, or one of them, or none. -/
def Numeral.WellFormed (n : Numeral) : Prop :=
  ∃ f e, Fraction f ∧ Exponent e ∧ n.tail = f ++ e

theorem eq_print_of_whole? {s rest : List Char} {n : Nat} (h : whole? s = some (n, rest)) :
    s = Decimal.print n ++ rest := by
  unfold whole? at h
  split at h
  · cases h
    rfl
  · rename_i hzero
    obtain ⟨ds, hne, hds, rfl, rfl⟩ := Decimal.of_some?_eq_some h
    obtain ⟨c, ds, rfl⟩ := List.exists_cons_of_ne_nil hne
    rw [Decimal.print_natOfDigits hds hne]
    rintro ⟨⟩
    exact hzero _ rfl

theorem fraction_of_fraction? {s f rest : List Char} (h : fraction? s = some (f, rest)) :
    Fraction f ∧ s = f ++ rest := by
  unfold fraction? at h
  split at h
  · split at h
    · cases h
    · rename_i ds rest' hne hrun
      cases h
      obtain ⟨hds, rfl⟩ := Decimal.of_run_eq hrun
      exact ⟨.digits hne hds, rfl⟩
  · cases h
    exact ⟨.absent, rfl⟩

theorem exponentSign_append (s : List Char) :
    (exponentSign s).1 ∈ [[], ['+'], ['-']] ∧ s = (exponentSign s).1 ++ (exponentSign s).2 := by
  unfold exponentSign
  split <;> simp

theorem exponent_of_exponent? {s e rest : List Char} (h : exponent? s = some (e, rest)) :
    Exponent e ∧ s = e ++ rest := by
  unfold exponent? at h
  split at h
  · cases h
    exact ⟨.absent, rfl⟩
  · rename_i e s
    obtain ⟨hsign, hs⟩ := exponentSign_append s
    split at h
    · rename_i he
      dsimp only at h
      split at h
      · cases h
      · rename_i ds rest' hne hrun
        cases h
        obtain ⟨hds, hrest⟩ := Decimal.of_run_eq hrun
        rw [hrest, ← List.append_assoc] at hs
        exact ⟨.digits he hsign hne hds, congrArg (e :: ·) hs⟩
    · cases h
      exact ⟨.absent, rfl⟩

/-- What is read as a numeral is one, as it stands. -/
theorem of_unsigned?_eq_some {negative : Bool} {s rest : List Char} {n : Numeral}
    (h : unsigned? negative s = some (n, rest)) :
    n.negative = negative ∧ n.WellFormed ∧ s = Decimal.print n.whole ++ n.tail ++ rest := by
  simp only [unsigned?, Option.bind_eq_bind, Option.bind_eq_some_iff, Option.pure_def,
    Option.some.injEq, Prod.mk.injEq, Prod.exists] at h
  obtain ⟨w, s₁, hw, f, s₂, hf, e, s₃, he, rfl, rfl⟩ := h
  obtain ⟨hfraction, rfl⟩ := fraction_of_fraction? hf
  obtain ⟨hexponent, rfl⟩ := exponent_of_exponent? he
  refine ⟨rfl, ⟨f, e, hfraction, hexponent, rfl⟩, ?_⟩
  rw [eq_print_of_whole? hw]
  simp

theorem exponent?_spelled {e rest : List Char} (he : Exponent e) (h : EndsNumeral rest) :
    exponent? (e ++ rest) = some (e, rest) := by
  cases he with
  | absent => exact exponent?_ends h
  | @digits e sign ds he hsign hne hds =>
    have hrun := Decimal.run_append hds fun c hc => (h c hc).1
    obtain ⟨c, ds, rfl⟩ := List.exists_cons_of_ne_nil hne
    have hc : c ≠ '+' ∧ c ≠ '-' := by
      have hdigit := hds c List.mem_cons_self
      constructor <;> (rintro rfl; cases hdigit)
    have hexponentSign : exponentSign (sign ++ (c :: ds ++ rest)) = (sign, c :: ds ++ rest) := by
      simp only [List.mem_cons, List.not_mem_nil, or_false] at hsign
      obtain rfl | rfl | rfl := hsign
      · rw [List.nil_append, List.cons_append, exponentSign]
        · rintro _ ⟨⟩
          exact hc.1 rfl
        · rintro _ ⟨⟩
          exact hc.2 rfl
      · rfl
      · rfl
    rw [List.cons_append, List.append_assoc, exponent?, if_pos he, hexponentSign]
    dsimp only
    rw [hrun]
    rfl

theorem fraction?_spelled {f s : List Char} (hf : Fraction f)
    (hs : ∀ c ∈ s.head?, isDigit c = false ∧ c ≠ '.') : fraction? (f ++ s) = some (f, s) := by
  cases hf with
  | absent =>
    cases s with
    | nil => rfl
    | cons c s =>
      rw [List.nil_append, fraction?]
      rintro _ ⟨⟩
      exact (hs _ rfl).2 rfl
  | @digits ds hne hds =>
    have hrun := Decimal.run_append hds fun c hc => (hs c hc).1
    obtain ⟨c, ds, rfl⟩ := List.exists_cons_of_ne_nil hne
    rw [List.cons_append, fraction?, hrun]

/-- A numeral is read as far as it goes. -/
theorem unsigned?_spelled {n : Numeral} (hn : n.WellFormed) {rest : List Char}
    (h : EndsNumeral rest) :
    unsigned? n.negative (Decimal.print n.whole ++ n.tail ++ rest) = some (n, rest) := by
  obtain ⟨negative, whole, tail⟩ := n
  obtain ⟨f, e, hf, he, rfl⟩ := hn
  have hpoint : ∀ c ∈ (e ++ rest).head?, isDigit c = false ∧ c ≠ '.' := by
    intro c hc
    cases he with
    | absent => exact ⟨(h c hc).1, (h c hc).2.1⟩
    | digits he => obtain rfl | rfl := he <;> cases hc <;> decide
  have hdigit : ∀ c ∈ (f ++ (e ++ rest)).head?, isDigit c = false := by
    intro c hc
    cases hf with
    | absent => exact (hpoint c hc).1
    | digits => cases hc; rfl
  have hwhole := whole?_print whole hdigit
  simp only [unsigned?, List.append_assoc, hwhole, fraction?_spelled hf hpoint,
    exponent?_spelled he h, Option.bind_eq_bind, Option.bind_some, Option.pure_def]

/-! ### Tokens -/

/-- The ways to write a token. -/
inductive Token.SpelledAs : Token → List Char → Prop
  | openArray : openArray.SpelledAs ['[']
  | closeArray : closeArray.SpelledAs [']']
  | openObject : openObject.SpelledAs ['\x7b']
  | closeObject : closeObject.SpelledAs ['\x7d']
  | comma : comma.SpelledAs [',']
  | colon : colon.SpelledAs [':']
  | null : null.SpelledAs ['n', 'u', 'l', 'l']
  | true : (bool true).SpelledAs ['t', 'r', 'u', 'e']
  | false : (bool false).SpelledAs ['f', 'a', 'l', 's', 'e']
  | num {n : Numeral} (h : n.WellFormed) : (num n).SpelledAs (printNumeral n)
  | text {es : List Element} {w cs : List Char} (h : Spells es w) (hcs : StandFor es cs) :
    (str (some (String.ofList cs))).SpelledAs ('"' :: (w ++ ['"']))
  | lone {es : List Element} {w : List Char} (h : Spells es w) (hlone : ∀ cs, ¬StandFor es cs) :
    (str none).SpelledAs ('"' :: (w ++ ['"']))

/-- The token is a numeral. -/
def Token.isNumeral : Token → Bool
  | num _ => true
  | _ => false

theorem scan?_digit {c : Char} (hc : isDigit c = true) (s : List Char) :
    scan? c s = (unsigned? false (c :: s)).map fun (n, s) => (.num n, s) := by
  rw [scan?.eq_def]
  split <;> first | cases hc | skip
  simp [hc]

/-- What is read as a token is one of its spellings. -/
theorem spelled_of_scan? {c : Char} {s rest : List Char} {t : Token}
    (h : scan? c s = some (t, rest)) : ∃ w, t.SpelledAs w ∧ c :: s = w ++ rest := by
  unfold scan? at h
  split at h
  -- the tokens with more than one spelling: strings, and numerals with a sign and without
  case h_10 =>
    obtain ⟨⟨es, s⟩, hs, h⟩ := Option.map_eq_some_iff.1 h
    cases h
    obtain ⟨w, hw, rfl⟩ := elements?_eq_some_iff.1 hs
    refine ⟨'"' :: (w ++ ['"']), ?_, by simp⟩
    cases hcs : characters? es with
    | none =>
      refine .lone hw fun cs h => ?_
      rw [characters?_eq_some_iff.2 h] at hcs
      cases hcs
    | some cs => exact .text hw (characters?_eq_some_iff.1 hcs)
  case h_11 =>
    obtain ⟨⟨n, s⟩, hs, h⟩ := Option.map_eq_some_iff.1 h
    cases h
    obtain ⟨hnegative, hn, rfl⟩ := of_unsigned?_eq_some hs
    exact ⟨_, .num hn, by simp [printNumeral, hnegative]⟩
  case h_12 =>
    split at h
    · obtain ⟨⟨n, s⟩, hs, h⟩ := Option.map_eq_some_iff.1 h
      cases h
      obtain ⟨hnegative, hn, hspelled⟩ := of_unsigned?_eq_some hs
      exact ⟨_, .num hn, by simp [printNumeral, hnegative, hspelled]⟩
    · cases h
  all_goals
    cases h
    exact ⟨_, by constructor, rfl⟩

/-- No numeral goes on with space. -/
theorem ends_of_isSpace {c : Char} (h : isSpace c = true) :
    isDigit c = false ∧ c ≠ '.' ∧ c ≠ 'e' ∧ c ≠ 'E' := by
  simp only [isSpace, Bool.or_eq_true, beq_iff_eq] at h
  obtain ((rfl | rfl) | rfl) | rfl := h <;> decide

theorem isSpace_of_isDigit {c : Char} (h : isDigit c = true) : isSpace c = false := by
  refine Bool.eq_false_iff.2 fun hspace => ?_
  rw [(ends_of_isSpace hspace).1] at h
  cases h

/-- A numeral is a token, where it does not go on behind it. -/
theorem scan?_printNumeral {n : Numeral} (hn : n.WellFormed) {rest : List Char}
    (hrest : EndsNumeral rest) :
    ∃ c s, printNumeral n ++ rest = c :: s ∧ isSpace c = false ∧
      scan? c s = some (.num n, rest) := by
  have hunsigned := unsigned?_spelled hn hrest
  cases hnegative : n.negative with
  | true =>
    rw [hnegative] at hunsigned
    refine ⟨'-', Decimal.print n.whole ++ n.tail ++ rest, by simp [printNumeral, hnegative], rfl,
      ?_⟩
    change (unsigned? true _).map _ = _
    rw [hunsigned]
    rfl
  | false =>
    obtain ⟨c, cs, hdigits⟩ := List.exists_cons_of_ne_nil (Decimal.print_ne_nil n.whole)
    have hc : isDigit c = true := Decimal.isDigit_of_mem_print (n := n.whole) (by simp [hdigits])
    rw [hnegative, hdigits] at hunsigned
    refine ⟨c, cs ++ n.tail ++ rest, by simp [printNumeral, hnegative, hdigits],
      isSpace_of_isDigit hc, ?_⟩
    rw [scan?_digit hc]
    change (unsigned? false (c :: cs ++ n.tail ++ rest)).map _ = _
    rw [hunsigned]
    rfl

/-- A string is a token, up to its closing quote. -/
theorem scan?_quoted {es : List Element} {w : List Char} (h : Spells es w) (rest : List Char) :
    scan? '"' (w ++ '"' :: rest) = some (.str ((characters? es).map String.ofList), rest) := by
  change (elements? (w ++ '"' :: rest)).map _ = _
  rw [elements?_eq_some_iff.2 ⟨w, h, rfl⟩, Option.map_some]

/-- A token is read from any of its spellings, where no numeral goes on behind it. -/
theorem scan?_spelled {t : Token} {w : List Char} (h : t.SpelledAs w) {rest : List Char}
    (hrest : t.isNumeral = true → EndsNumeral rest) :
    ∃ c s, w ++ rest = c :: s ∧ isSpace c = false ∧ scan? c s = some (t, rest) := by
  cases h with
  | num hn => exact scan?_printNumeral hn (hrest rfl)
  | @text es w cs hw hcs =>
    refine ⟨'"', w ++ '"' :: rest, by simp, rfl, ?_⟩
    rw [scan?_quoted hw, characters?_eq_some_iff.2 hcs, Option.map_some]
  | @lone es w hw hlone =>
    have hnone : characters? es = none :=
      Option.eq_none_iff_forall_ne_some.2 fun cs hcs => hlone cs (characters?_eq_some_iff.1 hcs)
    refine ⟨'"', w ++ '"' :: rest, by simp, rfl, ?_⟩
    rw [scan?_quoted hw, hnone, Option.map_none]
  | _ => exact ⟨_, _, rfl, rfl, rfl⟩

/-! ### Texts of tokens -/

/-- The text is made of spellings of the tokens, with any space before, between and behind them. -/
inductive Layout : List Token → List Char → Prop
  | nil : Layout [] []
  | space {c : Char} {ts : List Token} {s : List Char} (hc : isSpace c = true) (h : Layout ts s) :
    Layout ts (c :: s)
  | token {t : Token} {w : List Char} {ts : List Token} {s : List Char} (ht : t.SpelledAs w)
    (h : Layout ts s) : Layout (t :: ts) (w ++ s)

/-- No numeral is followed by another one. -/
def Apart (ts : List Token) : Prop :=
  ts.IsChain fun t t' => t.isNumeral = true → t'.isNumeral = false

variable {c : Char} {s : List Char} {t : Token} {ts : List Token}

theorem tokens?_cons {rest : List Char} (hspace : isSpace c = false)
    (h : scan? c s = some (t, rest)) : tokens? (c :: s) = (tokens? rest).map (t :: ·) := by
  rw [tokens?]
  simp only [hspace, Bool.false_eq_true, ↓reduceIte]
  split
  · rename_i hnone
    rw [h] at hnone
    cases hnone
  · rename_i t' rest' hsome
    rw [h] at hsome
    cases hsome
    rfl

/-- A token that has been read stands in front of those behind it. -/
theorem Layout.scan {rest : List Char} (hscan : scan? c s = some (t, rest)) (h : Layout ts rest) :
    Layout (t :: ts) (c :: s) := by
  obtain ⟨w, hw, hs⟩ := spelled_of_scan? hscan
  rw [hs]
  exact .token hw h

/-- What is read as tokens is made of spellings of them. -/
theorem layout_of_tokens? (h : tokens? s = some ts) : Layout ts s := by
  fun_induction tokens? s generalizing ts with
  | case1 =>
    cases h
    exact .nil
  | case2 c s hc ih => exact .space hc (ih h)
  | case3 => cases h
  | case4 c s _ t rest hscan _ ih =>
    obtain ⟨ts, hts, rfl⟩ := Option.map_eq_some_iff.1 h
    exact .scan hscan (ih hts)

/-- Where no numeral comes next, none goes on. -/
theorem Layout.endsNumeral (h : Layout ts s) (hts : ∀ t ∈ ts.head?, t.isNumeral = false) :
    EndsNumeral s := by
  intro c hc
  cases h with
  | nil => cases hc
  | space hspace _ =>
    cases hc
    exact ends_of_isSpace hspace
  | token ht _ =>
    have hnumeral := hts _ rfl
    cases ht with
    | num => cases hnumeral
    | _ =>
      cases hc
      decide

/-- Spellings of tokens are read as the tokens, as long as no two numerals run into one. -/
theorem tokens?_of_layout (h : Layout ts s) (hts : Apart ts) : tokens? s = some ts := by
  induction h with
  | nil => rw [tokens?]
  | space hc _ ih =>
    rw [tokens?, if_pos hc]
    exact ih hts
  | @token t w ts s ht hs ih =>
    obtain ⟨hhead, hts⟩ := List.isChain_cons.1 hts
    obtain ⟨c, s', heq, hspace, hscan⟩ :=
      scan?_spelled ht fun hnumeral => hs.endsNumeral fun t' ht' => hhead t' ht' hnumeral
    rw [heq, tokens?_cons hspace hscan, ih hts]
    rfl

end Json

end MailSync
