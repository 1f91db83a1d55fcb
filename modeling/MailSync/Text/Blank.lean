/-!
# Blank characters

The characters with the Unicode property White_Space, and the removal of a class of characters
from both ends of a text.

* `strip_eq_self_iff` : a text is its own stripped form exactly when neither end holds a character
  of the class.
* `bare_strip` : neither end of a stripped text holds a character of the class.
-/

namespace MailSync

namespace Text

/-- The code points with the Unicode property White_Space, as inclusive ranges. -/
def blankRanges : List (Nat × Nat) :=
  [(0x09, 0x0D), (0x20, 0x20), (0x85, 0x85), (0xA0, 0xA0), (0x1680, 0x1680), (0x2000, 0x200A),
   (0x2028, 0x2029), (0x202F, 0x202F), (0x205F, 0x205F), (0x3000, 0x3000)]

/-- A code point lies in one of the ranges. -/
def inRanges (ranges : List (Nat × Nat)) (c : Char) : Bool :=
  ranges.any fun (low, high) => low ≤ c.toNat && c.toNat ≤ high

/-- A character is blank when it has the property White_Space. -/
def isBlank (c : Char) : Bool :=
  inRanges blankRanges c

/-- A text without the characters of a class at its two ends. -/
def strip (p : Char → Bool) (s : List Char) : List Char :=
  ((s.dropWhile p).reverse.dropWhile p).reverse

/-- A text without blank characters at its two ends. -/
def trim (s : List Char) : List Char :=
  strip isBlank s

/-- Neither end of a text holds a character of the class. -/
def Bare (p : Char → Bool) (s : List Char) : Prop :=
  (∀ c ∈ s.head?, p c = false) ∧ ∀ c ∈ s.getLast?, p c = false

instance (p : Char → Bool) (s : List Char) : Decidable (Bare p s) :=
  inferInstanceAs (Decidable (_ ∧ _))

/-! ### Dropping at one end -/

theorem dropWhile_eq_self_iff {p : Char → Bool} {s : List Char} :
    s.dropWhile p = s ↔ ∀ c ∈ s.head?, p c = false := by
  cases s with
  | nil => simp
  | cons c r =>
    cases h : p c with
    | false => simp [h]
    | true =>
      simp only [List.dropWhile_cons, h, if_true, List.head?_cons, Option.mem_def,
        Option.some.injEq, forall_eq', Bool.true_eq_false, iff_false]
      intro hr
      have := (List.dropWhile_sublist p (l := r)).length_le
      rw [hr, List.length_cons] at this
      omega

theorem head?_dropWhile {p : Char → Bool} {s : List Char} :
    ∀ c ∈ (s.dropWhile p).head?, p c = false := by
  induction s with
  | nil => simp
  | cons c r ih =>
    cases h : p c with
    | false => simp [h]
    | true => simpa [h] using ih

/-- The last character of what is left after dropping at the front is the last one of the text. -/
theorem getLast?_dropWhile_mem {p : Char → Bool} {s : List Char} {c : Char}
    (h : c ∈ (s.dropWhile p).getLast?) : c ∈ s.getLast? := by
  have hs : s.takeWhile p ++ s.dropWhile p = s := List.takeWhile_append_dropWhile
  rw [← hs, List.getLast?_append, Option.mem_def.1 h]
  rfl

/-! ### Dropping at both ends -/

theorem bare_strip (p : Char → Bool) (s : List Char) : Bare p (strip p s) := by
  constructor
  · intro c hc
    rw [strip, List.head?_reverse] at hc
    have := getLast?_dropWhile_mem hc
    rw [List.getLast?_reverse] at this
    exact head?_dropWhile c this
  · intro c hc
    rw [strip, List.getLast?_reverse] at hc
    exact head?_dropWhile c hc

theorem strip_eq_self_iff {p : Char → Bool} {s : List Char} : strip p s = s ↔ Bare p s := by
  constructor
  · intro h
    rw [← h]
    exact bare_strip p s
  · rintro ⟨hhead, hlast⟩
    have hl : ∀ c ∈ s.reverse.head?, p c = false := by rwa [List.head?_reverse]
    rw [strip, dropWhile_eq_self_iff.2 hhead, dropWhile_eq_self_iff.2 hl, List.reverse_reverse]

end Text

end MailSync
