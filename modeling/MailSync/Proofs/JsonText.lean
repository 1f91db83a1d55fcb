import MailSync.Json.Printer
import MailSync.Proofs.JsonGrammar

/-!
# JSON read back

The text of a value writes that value: the printer chooses one spelling for each of its tokens and
puts no space between them. So the text is read back as the value.

* `Json.spelledAs_printText` : a text is written as a string.
* `Json.spelledAs_print` : the text of a value without fractions and exponents writes the value.
* `Json.parse?_render` : the text of a value without fractions and exponents is read back.
-/

namespace MailSync

namespace Json

/-! ### Strings -/

/-- The element that a character is written as in a string. -/
def written (c : Char) : Element :=
  if c < ' ' ∧ c ∉ ['\x08', '\x0C', '\n', '\r', '\t'] then .unit c.toNat else .char c

theorem unit?_hexDigit :
    ∀ n < 32, unit? '0' '0' (hexDigit (n / 16)) (hexDigit (n % 16)) = some n := by
  decide

/-- A character is written as one element. -/
theorem spelledAs_escape (c : Char) : (written c).SpelledAs (escape c) := by
  have hletter : ∀ {e : Char}, unescape? e = some c → written c = .char c →
      (written c).SpelledAs ['\\', e] := by
    intro e he hc
    rw [hc]
    exact .letter he
  unfold escape
  -- the seven characters that are escaped by a letter
  iterate 7
    split
    · subst c
      exact hletter rfl rfl
  split
  · rename_i hlt
    have hn : c.toNat < 32 := hlt
    have hwritten : written c = .unit c.toNat := if_pos ⟨hlt, by simp [*]⟩
    rw [hwritten]
    exact .unit (unit?_hexDigit _ hn)
  · rename_i hquote hback _ _ _ _ _ hcontrol
    have hwritten : written c = .char c := if_neg fun h => hcontrol h.1
    rw [hwritten]
    exact .plain hcontrol hquote hback

theorem spells_flatMap_escape (cs : List Char) : Spells (cs.map written) (cs.flatMap escape) := by
  induction cs with
  | nil => exact .nil
  | cons c cs ih => exact .cons (spelledAs_escape c) ih

/-- The elements that characters are written as stand for the characters. -/
theorem standFor_map_written (cs : List Char) : StandFor (cs.map written) cs := by
  induction cs with
  | nil => exact .nil
  | cons c cs ih =>
    rw [List.map_cons, written]
    split
    · rename_i h
      have hn : c.toNat < 32 := h.1
      have hhigh : isHigh c.toNat = false := by
        simp only [isHigh, Bool.and_eq_false_iff, decide_eq_false_iff_not]
        omega
      have hlow : isLow c.toNat = false := by
        simp only [isLow, Bool.and_eq_false_iff, decide_eq_false_iff_not]
        omega
      simpa using StandFor.unit hhigh hlow ih
    · exact .char ih

theorem not_standFor_half (cs : List Char) : ¬StandFor [.unit 0xD800] cs := by
  rintro (_ | _ | ⟨hhigh, _, _⟩)
  cases hhigh

/-- A text is written as a string. -/
theorem spelledAs_printText (s : Text) : (Token.str s).SpelledAs (printText s) := by
  cases s with
  | none => exact .lone (.cons (.unit rfl) .nil) not_standFor_half
  | some s =>
    have h := Token.SpelledAs.text (spells_flatMap_escape s.toList) (standFor_map_written s.toList)
    rwa [String.ofList_toList] at h

/-! ### Values -/

mutual

/-- Every number in the value is an integer. -/
def Value.Integral : Value → Prop
  | .num n => n.tail = []
  | .arr items => ItemsIntegral items
  | .obj members => MembersIntegral members
  | _ => True

/-- Every number in the elements is an integer. -/
def ItemsIntegral : List Value → Prop
  | [] => True
  | v :: rest => v.Integral ∧ ItemsIntegral rest

/-- Every number in the members is an integer. -/
def MembersIntegral : List (Text × Value) → Prop
  | [] => True
  | (_, v) :: rest => v.Integral ∧ MembersIntegral rest

end

theorem itemsIntegral_iff {items : List Value} :
    ItemsIntegral items ↔ ∀ v ∈ items, v.Integral := by
  induction items with
  | nil => simp [ItemsIntegral]
  | cons v rest ih => simp [ItemsIntegral, ih]

theorem membersIntegral_iff {members : List (Text × Value)} :
    MembersIntegral members ↔ ∀ m ∈ members, m.2.Integral := by
  induction members with
  | nil => simp [MembersIntegral]
  | cons m rest ih => simp [MembersIntegral, ih]

theorem wellFormed_of_tail_eq_nil {n : Numeral} (h : n.tail = []) : n.WellFormed :=
  ⟨[], [], .absent, .absent, h⟩

/-- A text of tokens behind another one. -/
theorem Layout.append {ts ts' : List Token} {s s' : List Char} (h : Layout ts s)
    (h' : Layout ts' s') : Layout (ts ++ ts') (s ++ s') := by
  induction h with
  | nil => exact h'
  | space hc _ ih => exact .space hc ih
  | token ht _ ih =>
    rw [List.append_assoc]
    exact .token ht ih

/-- A token of one character in front of a text of tokens. -/
theorem Layout.mark {t : Token} {c : Char} {ts : List Token} {s : List Char} (h : Layout ts s)
    (ht : t.SpelledAs [c]) : Layout (t :: ts) (c :: s) :=
  .token ht h

theorem layout_token {t : Token} {w : List Char} (h : t.SpelledAs w) : Layout [t] w := by
  simpa using Layout.token h .nil

mutual

/-- The text of a value writes the value. -/
theorem spelledAs_print (v : Value) (hv : v.Integral) : v.SpelledAs v.print := by
  match v with
  | .null => exact layout_token .null
  | .bool true => exact layout_token .true
  | .bool false => exact layout_token .false
  | .num n => exact layout_token (.num (wellFormed_of_tail_eq_nil hv))
  | .str s => exact layout_token (spelledAs_printText s)
  | .arr items =>
    have hitems := (layout_items items hv).append (layout_token .closeArray)
    exact hitems.mark .openArray
  | .obj members =>
    have hmembers := (layout_members members hv).append (layout_token .closeObject)
    exact hmembers.mark .openObject

theorem layout_items (items : List Value) (h : ItemsIntegral items) :
    Layout (itemTokens items) (printItems items) := by
  match items with
  | [] => exact .nil
  | [v] => exact spelledAs_print v h.1
  | v :: w :: rest =>
    exact (spelledAs_print v h.1).append ((layout_items (w :: rest) h.2).mark .comma)

theorem layout_members (members : List (Text × Value)) (h : MembersIntegral members) :
    Layout (memberTokens members) (printMembers members) := by
  match members with
  | [] => exact .nil
  | [(name, v)] => exact .token (spelledAs_printText name) ((spelledAs_print v h.1).mark .colon)
  | (name, v) :: m :: rest =>
    have hrest := (layout_members (m :: rest) h.2).mark .comma
    have hvalue := ((spelledAs_print v h.1).append hrest).mark .colon
    simpa [memberTokens, printMembers] using Layout.token (spelledAs_printText name) hvalue

end

theorem spelledAs_render {v : Value} (hv : v.Integral) : v.SpelledAs v.render.toList := by
  rw [Value.render, String.toList_ofList]
  exact spelledAs_print v hv

/-- The text of a value is read back as the value, if every number in it is an integer. -/
theorem parse?_render {v : Value} (hv : v.Integral) : parse? v.render = some v :=
  parse?_eq_some_iff.2 (spelledAs_render hv)

end Json

end MailSync
