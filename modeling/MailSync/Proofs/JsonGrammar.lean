import MailSync.Json.Parser
import MailSync.Proofs.JsonTokens

/-!
# The grammar of JSON

A text writes a value if it is made of the tokens of the value, each in one of its spellings, with
any space around them. The reader accepts these texts and no others. It reads in two stages, and so
does the proof: the text as tokens, and the tokens as the value, whatever containers are open around
it.

* `Json.reads_tokens` : the tokens of a value lead through it, whatever containers are open.
* `Json.State.tokens_push?` : a state of the reader tells which tokens have been read.
* `Json.ofTokens?_eq_some_iff` : no other tokens are read as a value than its own.
* `Json.parse?_eq_some_iff` : a text is read as a value if and only if it writes the value.
-/

namespace MailSync

namespace Json

/-! ### Tokens of a value -/

mutual

/-- The tokens of a value. -/
def Value.tokens : Value → List Token
  | .null => [.null]
  | .bool b => [.bool b]
  | .num n => [.num n]
  | .str s => [.str s]
  | .arr items => .openArray :: (itemTokens items ++ [.closeArray])
  | .obj members => .openObject :: (memberTokens members ++ [.closeObject])

/-- The tokens of elements, with commas between them. -/
def itemTokens : List Value → List Token
  | [] => []
  | [v] => v.tokens
  | v :: rest => v.tokens ++ .comma :: itemTokens rest

/-- The tokens of members, with commas between them. -/
def memberTokens : List (Text × Value) → List Token
  | [] => []
  | [(name, v)] => .str name :: .colon :: v.tokens
  | (name, v) :: rest => .str name :: .colon :: v.tokens ++ .comma :: memberTokens rest

end

/-! ### The value of tokens -/

namespace State

/-- The tokens lead from one state to another. -/
def Reads (st : State) (ts : List Token) (st' : State) : Prop :=
  ts.foldlM push? st = some st'

variable {st st₁ st' : State} {t : Token} {ts ts' : List Token}

theorem reads_nil (st : State) : st.Reads [] st := rfl

theorem Reads.cons (h : st.push? t = some st₁) (h' : st₁.Reads ts st') :
    st.Reads (t :: ts) st' := by
  rw [Reads, List.foldlM_cons, h]
  exact h'

theorem Reads.append (h : st.Reads ts st₁) (h' : st₁.Reads ts' st') : st.Reads (ts ++ ts') st' := by
  rw [Reads, List.foldlM_append, h]
  exact h'

/-- Where an array has just been opened, tokens that do not close it start its elements. -/
theorem Reads.first {outer : List Container} (h : (value (.array [] :: outer)).Reads ts st')
    (ht : ts.head? = some t) (hne : t ≠ .closeArray) : (element outer).Reads ts st' := by
  obtain ⟨ts', rfl⟩ := List.head?_eq_some_iff.1 ht
  have hpush : (element outer).push? t = (value (.array [] :: outer)).push? t := by
    cases t <;> first | rfl | exact absurd rfl hne
  rw [Reads, List.foldlM_cons] at h ⊢
  rwa [hpush]

end State

/-- No element starts with the end of an array. -/
theorem head?_itemTokens (v : Value) (rest : List Value) (ts : List Token) :
    ∃ t, (itemTokens (v :: rest) ++ ts).head? = some t ∧ t ≠ .closeArray := by
  have hv : ∃ t ts', v.tokens = t :: ts' ∧ t ≠ .closeArray := by
    cases v <;> exact ⟨_, _, rfl, nofun⟩
  obtain ⟨t, ts', hv, hne⟩ := hv
  refine ⟨t, ?_, hne⟩
  cases rest <;> simp [itemTokens, hv]

open State

mutual

/-- The tokens of a value are read as the value, whatever containers are open. -/
theorem reads_tokens (v : Value) (outer : List Container) :
    (value outer).Reads v.tokens (complete outer v) := by
  match v with
  | .null | .bool _ | .num _ | .str _ | .arr [] | .obj [] => rfl
  | .arr (v :: rest) =>
    obtain ⟨t, ht, hne⟩ := head?_itemTokens v rest [.closeArray]
    exact .cons rfl ((reads_itemTokens (v :: rest) nofun [] outer).first ht hne)
  | .obj (m :: rest) => exact .cons rfl (reads_memberTokens (m :: rest) nofun [] outer true)

/-- The elements that are left of an array are read up to its end. -/
theorem reads_itemTokens (items : List Value) (hne : items ≠ []) (before : List Value)
    (outer : List Container) :
    (value (.array before :: outer)).Reads (itemTokens items ++ [.closeArray])
      (complete outer (.arr (before.reverse ++ items))) := by
  match items with
  | [v] =>
    rw [← List.reverse_cons]
    exact (reads_tokens v _).append (.cons rfl (reads_nil _))
  | v :: w :: rest =>
    have hrest := reads_itemTokens (w :: rest) nofun (v :: before) outer
    rw [List.append_cons before.reverse, ← List.reverse_cons, itemTokens, List.append_assoc]
    · exact (reads_tokens v _).append (.cons rfl hrest)
    · nofun

/-- The members that are left of an object are read up to its end. -/
theorem reads_memberTokens (members : List (Text × Value)) (hne : members ≠ [])
    (before : List (Text × Value)) (outer : List Container) (closable : Bool) :
    (member outer before closable).Reads (memberTokens members ++ [.closeObject])
      (complete outer (.obj (before.reverse ++ members))) := by
  match members with
  | [(name, v)] =>
    rw [← List.reverse_cons]
    exact .cons rfl (.cons rfl ((reads_tokens v _).append (.cons rfl (reads_nil _))))
  | (name, v) :: m :: rest =>
    have hrest := reads_memberTokens (m :: rest) nofun ((name, v) :: before) outer false
    rw [List.append_cons before.reverse, ← List.reverse_cons, memberTokens, List.append_assoc]
    · exact .cons rfl (.cons rfl ((reads_tokens v _).append (.cons rfl hrest)))
    · nofun

end

theorem ofTokens?_tokens (v : Value) : ofTokens? v.tokens = some v := by
  rw [ofTokens?, reads_tokens v []]
  rfl

/-! ### What has been read -/

/-- The tokens of elements, with a comma behind each. -/
def earlierItems (items : List Value) : List Token :=
  items.flatMap fun v => v.tokens ++ [.comma]

/-- The tokens of members, with a comma behind each. -/
def earlierMembers (members : List (Text × Value)) : List Token :=
  members.flatMap fun m => .str m.1 :: .colon :: m.2.tokens ++ [.comma]

theorem itemTokens_concat (items : List Value) (v : Value) :
    itemTokens (items ++ [v]) = earlierItems items ++ v.tokens := by
  induction items with
  | nil => rfl
  | cons w rest ih =>
    rw [List.cons_append, itemTokens, ih, earlierItems, earlierItems, List.flatMap_cons]
    · simp
    · simp

theorem memberTokens_concat (members : List (Text × Value)) (name : Text) (v : Value) :
    memberTokens (members ++ [(name, v)]) =
      earlierMembers members ++ .str name :: .colon :: v.tokens := by
  induction members with
  | nil => rfl
  | cons m rest ih =>
    obtain ⟨n, w⟩ := m
    rw [List.cons_append, memberTokens, ih, earlierMembers, earlierMembers, List.flatMap_cons]
    · simp
    · simp

/-- The tokens of a container up to the value that is being read. -/
def Container.tokens : Container → List Token
  | array items => .openArray :: earlierItems items.reverse
  | object members name =>
    .openObject :: (earlierMembers members.reverse ++ [.str name, .colon])

/-- The tokens of the containers that are still open, up to the value that is being read. -/
def openTokens (outer : List Container) : List Token :=
  outer.reverse.flatMap Container.tokens

theorem openTokens_cons (k : Container) (outer : List Container) :
    openTokens (k :: outer) = openTokens outer ++ k.tokens := by
  simp [openTokens]

namespace State

/-- The tokens that have been read. -/
def tokens : State → List Token
  | value outer => openTokens outer
  | element outer => openTokens outer ++ [.openArray]
  | member outer members _ => openTokens outer ++ .openObject :: earlierMembers members.reverse
  | colon outer members name =>
    openTokens outer ++ .openObject :: (earlierMembers members.reverse ++ [.str name])
  | complete outer v => openTokens outer ++ v.tokens

/-- An object can be closed where a member's name might follow only if it has no member yet. -/
def Proper : State → Prop
  | member _ members closable => closable = true → members = []
  | _ => True

variable {st st' : State} {t : Token} {ts : List Token}

theorem tokens_pushValue? {outer : List Container} (h : pushValue? outer t = some st') :
    st'.tokens = openTokens outer ++ [t] ∧ st'.Proper := by
  unfold pushValue? at h
  split at h <;> cases h <;> simp [tokens, Proper, Value.tokens, earlierMembers]

/-- One more token has been read. -/
theorem tokens_push? (hproper : st.Proper) (h : st.push? t = some st') :
    st'.tokens = st.tokens ++ [t] ∧ st'.Proper := by
  unfold push? at h
  split at h
  -- the first token of a value, of an array's first element, and the end of an object
  case h_1 => exact tokens_pushValue? h
  case h_3 =>
    simpa [openTokens_cons, Container.tokens, earlierItems, tokens] using tokens_pushValue? h
  case h_5 =>
    cases h
    obtain rfl := hproper rfl
    simp [tokens, Proper, Value.tokens, memberTokens, earlierMembers]
  case h_11 => cases h
  all_goals
    cases h
    simp [tokens, Proper, Value.tokens, openTokens_cons, Container.tokens, itemTokens,
      itemTokens_concat, memberTokens_concat, earlierItems, earlierMembers]

theorem tokens_foldlM (hproper : st.Proper) (h : ts.foldlM push? st = some st') :
    st'.tokens = st.tokens ++ ts := by
  induction ts generalizing st with
  | nil =>
    cases h
    simp
  | cons t ts ih =>
    rw [List.foldlM_cons] at h
    obtain ⟨st₁, hst₁, h⟩ := Option.bind_eq_some_iff.1 h
    obtain ⟨htokens, hproper⟩ := tokens_push? hproper hst₁
    rw [ih hproper h, htokens, List.append_assoc, List.singleton_append]

theorem of_value?_eq_some {v : Value} (h : st.value? = some v) : st = complete [] v := by
  unfold value? at h
  split at h <;> cases h
  rfl

end State

/-- No other tokens are read as a value than its own. -/
theorem ofTokens?_eq_some_iff {ts : List Token} {v : Value} :
    ofTokens? ts = some v ↔ ts = v.tokens := by
  constructor
  · intro h
    obtain ⟨st, hst, hv⟩ := Option.bind_eq_some_iff.1 h
    have hproper : (State.value []).Proper := trivial
    have htokens := State.tokens_foldlM hproper hst
    rw [State.of_value?_eq_some hv] at htokens
    exact htokens.symm
  · rintro rfl
    exact ofTokens?_tokens v

/-! ### Texts of a value -/

/-- The text is made of spellings of the value's tokens, with any space around them. -/
def Value.SpelledAs (v : Value) (s : List Char) : Prop :=
  Layout v.tokens s

namespace State

variable {st st' : State} {t : Token} {ts : List Token}

/-- Behind a value there is no numeral. -/
theorem push?_complete_num (outer : List Container) (v : Value) (n : Numeral) :
    (complete outer v).push? (.num n) = none := by
  cases outer with
  | nil => rfl
  | cons k outer => cases k <;> rfl

/-- A numeral completes a value. -/
theorem push?_num {n : Numeral} (h : st.push? (.num n) = some st') :
    ∃ outer, st' = complete outer (.num n) := by
  cases st with
  | value outer | element outer =>
    cases h
    exact ⟨_, rfl⟩
  | member outer members closable => cases closable <;> cases h
  | colon => cases h
  | complete outer v =>
    rw [push?_complete_num] at h
    cases h

/-- Tokens that can be read do not hold two numerals next to each other. -/
theorem Reads.apart (h : st.Reads ts st') : Apart ts := by
  induction ts generalizing st with
  | nil => exact .nil
  | cons t ts ih =>
    rw [Reads, List.foldlM_cons] at h
    obtain ⟨st₁, hst₁, h⟩ := Option.bind_eq_some_iff.1 h
    refine List.isChain_cons.2 ⟨fun t' ht' hnumeral => ?_, ih h⟩
    obtain ⟨ts', rfl⟩ := List.head?_eq_some_iff.1 ht'
    rw [List.foldlM_cons] at h
    obtain ⟨st₂, hst₂, -⟩ := Option.bind_eq_some_iff.1 h
    cases t with
    | num n =>
      obtain ⟨outer, rfl⟩ := push?_num hst₁
      cases t' with
      | num =>
        rw [push?_complete_num] at hst₂
        cases hst₂
      | _ => rfl
    | _ => cases hnumeral

end State

/-- A text is read as a value if and only if it writes the value. -/
theorem parse?_eq_some_iff {s : String} {v : Value} : parse? s = some v ↔ v.SpelledAs s.toList := by
  constructor
  · intro h
    obtain ⟨ts, hts, hv⟩ := Option.bind_eq_some_iff.1 h
    obtain rfl := ofTokens?_eq_some_iff.1 hv
    exact layout_of_tokens? hts
  · intro h
    rw [parse?, tokens?_of_layout h (reads_tokens v []).apart, Option.bind_some, ofTokens?_tokens]

end Json

end MailSync
