import MailSync.Config.Basic
import MailSync.Proofs.Records

/-!
# What a configuration text says

A configuration is read from an object by the members with the two names that it knows. Other
members are passed over, whatever their values, and the order of the members is immaterial. A member
that is absent leaves the default, but one that is there is never taken for absent: it stands alone
and is a plain number of 64 bits, or the text is refused.

* `SyncConfig.gives_or_spoils` : what an object has for a key is nothing, a number, or unfit.
* `SyncConfig.ofJson?_obj_eq_some_iff` : a configuration is read from an object by its two keys.
* `SyncConfig.parse_eq_of_known_perm` : objects with the same known members are read alike.
* `SyncConfig.known_keys_decide` : what is read from the text of an object, however it is spelled,
  and from the text of a configuration.
-/

namespace MailSync

namespace SyncConfig

open Json (Value Text)
open Json.Value (nat uint64? member? named? leadingFields? orElse record)

/-- The name of the member for the number of messages. -/
def limitKey : String :=
  "default_visible_limit"

/-- The name of the member for the size of bodies. -/
def sizeKey : String :=
  "maximum_auto_download_message_size"

/-- The members of an object give nothing for a key, as no member has that name, or a number, as
just one member has it, and is that number written plainly. -/
def Gives (members : List (Text × Value)) (key : String) : Option UInt64 → Prop
  | none => ∀ m ∈ members, m.1 ≠ some key
  | some n => (some key, nat n.toNat) ∈ members ∧ members.countP (·.1 = some key) = 1

/-- Two members have the name, or one that has it is no plain number of 64 bits. -/
def Spoils (members : List (Text × Value)) (key : String) : Prop :=
  2 ≤ members.countP (·.1 = some key) ∨
    ∃ v, (some key, v) ∈ members ∧ ∀ n : UInt64, v ≠ nat n.toNat

/-- The members whose names are known. -/
def known (members : List (Text × Value)) : List (Text × Value) :=
  members.filter fun m => m.1 = some limitKey ∨ m.1 = some sizeKey

/-- Every name is a text, with no half of a surrogate pair alone in it. -/
def Named (members : List (Text × Value)) : Prop :=
  ∀ m ∈ members, m.1 ≠ none

variable {members members' : List (Text × Value)} {key : String} {v : Value}

/-! ### One key -/

theorem uint64?_eq_some_iff {n : UInt64} : uint64? v = some n ↔ v = nat n.toNat := by
  constructor
  · intro h
    cases v with
    | num m =>
      obtain ⟨negative, whole, tail⟩ := m
      simp only [uint64?, Json.Numeral.toNat?, Option.bind_eq_some_iff,
        Option.ite_none_right_eq_some, Option.some.injEq] at h
      obtain ⟨k, ⟨⟨rfl, rfl⟩, rfl⟩, hk, rfl⟩ := h
      rw [UInt64.toNat_ofNat_of_lt' hk]
      rfl
    | _ => cases h
  · rintro rfl
    simp [nat, uint64?, n.toNat_lt_size]

theorem countP_pos_of_mem (h : (some key, v) ∈ members) :
    0 < members.countP (·.1 = some key) :=
  List.countP_pos_iff.2 ⟨_, h, by simp⟩

theorem member?_of_absent (h : ∀ m ∈ members, m.1 ≠ some key) :
    member? key members = some none := by
  have hnil : members.filter (·.1 = some key) = [] := by
    simpa [List.filter_eq_nil_iff] using h
  rw [member?, hnil]

theorem member?_of_alone (hmem : (some key, v) ∈ members)
    (hone : members.countP (·.1 = some key) = 1) : member? key members = some (some v) := by
  rw [List.countP_eq_length_filter] at hone
  obtain ⟨m, hm⟩ := List.length_eq_one_iff.1 hone
  have hv : (some key, v) ∈ members.filter (·.1 = some key) := by simpa using hmem
  rw [hm, List.mem_singleton] at hv
  rw [member?, hm, ← hv]

theorem member?_of_repeated (h : 2 ≤ members.countP (·.1 = some key)) :
    member? key members = none := by
  rw [List.countP_eq_length_filter] at h
  rw [member?]
  split
  · rename_i hnil
    simp [hnil] at h
  · rename_i hone
    simp [hone] at h
  · rfl

/-- What an object has for a key is nothing, a number, or unfit. -/
theorem gives_or_spoils (members : List (Text × Value)) (key : String) :
    (∃ n?, Gives members key n?) ∨ Spoils members key := by
  by_cases habsent : ∀ m ∈ members, m.1 ≠ some key
  · exact .inl ⟨none, habsent⟩
  by_cases hplain : ∀ v, (some key, v) ∈ members → ∃ n : UInt64, v = nat n.toNat
  · push Not at habsent
    obtain ⟨⟨_, v⟩, hmem, rfl⟩ := habsent
    obtain ⟨n, rfl⟩ := hplain v hmem
    have hpos := countP_pos_of_mem hmem
    by_cases hone : members.countP (·.1 = some key) = 1
    · exact .inl ⟨some n, hmem, hone⟩
    · exact .inr (.inl (by omega))
  · push Not at hplain
    exact .inr (.inr hplain)

theorem field_of_gives {n? : Option UInt64} (h : Gives members key n?) (default : UInt64) :
    (member? key members).bind (orElse uint64? default) = some (n?.getD default) := by
  cases n? with
  | none =>
    rw [member?_of_absent h]
    rfl
  | some n =>
    rw [member?_of_alone h.1 h.2, Option.bind_some, orElse, uint64?_eq_some_iff.2 rfl]
    rfl

theorem field_of_spoils (h : Spoils members key) (default : UInt64) :
    (member? key members).bind (orElse uint64? default) = none := by
  by_cases hrepeated : 2 ≤ members.countP (·.1 = some key)
  · rw [member?_of_repeated hrepeated, Option.bind_none]
  · obtain ⟨v, hmem, hv⟩ := h.resolve_left hrepeated
    have hpos := countP_pos_of_mem hmem
    rw [member?_of_alone hmem (by omega), Option.bind_some, orElse]
    exact Option.eq_none_iff_forall_ne_some.2 fun n hn => hv n (uint64?_eq_some_iff.1 hn)

/-! ### Both keys -/

/-- A configuration is read from an object by its two keys, if every name in it is a text. -/
theorem ofJson?_obj_eq_some_iff {c : SyncConfig} :
    ofJson? (.obj members) = some c ↔ Named members ∧
      (member? limitKey members).bind (orElse uint64? 25) = some c.visibleLimit ∧
      (member? sizeKey members).bind (orElse uint64? 32768) = some c.maxDownloadSize := by
  obtain ⟨limit, size⟩ := c
  have hall : members.all (·.1.isSome) = true ↔ Named members := by
    simp only [Named, List.all_eq_true, Option.isSome_iff_ne_none]
  rw [ofJson?, leadingFields?, named?, ← hall]
  by_cases hnames : members.all (·.1.isSome) = true
  · simp only [hnames, ↓reduceIte, true_and, List.mapM_cons, List.mapM_nil, Option.pure_def,
      Option.bind_eq_bind, limitKey, sizeKey]
    cases member? "default_visible_limit" members with
    | none => simp only [Option.bind_none, reduceCtorEq, false_and]
    | some l =>
      cases member? "maximum_auto_download_message_size" members with
      | none => simp only [Option.bind_some, Option.bind_none, reduceCtorEq, and_false]
      | some m =>
        simp only [Option.bind_some, Option.bind_eq_some_iff, Option.some.injEq, mk.injEq]
        constructor
        · rintro ⟨_, hl, _, hm, rfl, rfl⟩
          exact ⟨hl, hm⟩
        · rintro ⟨hl, hm⟩
          exact ⟨_, hl, _, hm, rfl, rfl⟩
  · rw [if_neg hnames]
    constructor
    · intro h
      cases h
    · intro h
      exact absurd h.1 hnames

theorem ofJson?_of_gives (hnames : Named members) {limit? size? : Option UInt64}
    (hlimit : Gives members limitKey limit?) (hsize : Gives members sizeKey size?) :
    ofJson? (.obj members) = some ⟨limit?.getD 25, size?.getD 32768⟩ :=
  ofJson?_obj_eq_some_iff.2 ⟨hnames, field_of_gives hlimit 25, field_of_gives hsize 32768⟩

theorem ofJson?_of_spoils (h : Spoils members limitKey ∨ Spoils members sizeKey) :
    ofJson? (.obj members) = none := by
  refine Option.eq_none_iff_forall_ne_some.2 fun c hc => ?_
  obtain ⟨-, hlimit, hsize⟩ := ofJson?_obj_eq_some_iff.1 hc
  rcases h with h | h
  · rw [field_of_spoils h] at hlimit
    cases hlimit
  · rw [field_of_spoils h] at hsize
    cases hsize

/-! ### The known members -/

theorem mem_known (hkey : key = limitKey ∨ key = sizeKey) :
    (some key, v) ∈ known members ↔ (some key, v) ∈ members := by
  simp [known, hkey]

theorem countP_known (hkey : key = limitKey ∨ key = sizeKey) :
    (known members).countP (·.1 = some key) = members.countP (·.1 = some key) := by
  rw [known, List.countP_filter]
  refine List.countP_congr fun m _ => ?_
  simp only [Bool.and_eq_true, decide_eq_true_eq, and_iff_left_iff_imp]
  intro hm
  simpa [hm] using hkey

/-- Objects with the same known members, in any order, give the same for a known key. -/
theorem Gives.perm (hkey : key = limitKey ∨ key = sizeKey)
    (hknown : (known members).Perm (known members')) {n? : Option UInt64}
    (h : Gives members key n?) : Gives members' key n? := by
  have hmem : ∀ v, (some key, v) ∈ members' ↔ (some key, v) ∈ members := fun v => by
    rw [← mem_known hkey, ← hknown.mem_iff, mem_known hkey]
  cases n? with
  | none =>
    rintro ⟨_, v⟩ hm rfl
    exact h _ ((hmem v).1 hm) rfl
  | some n =>
    refine ⟨(hmem _).2 h.1, ?_⟩
    rw [← countP_known hkey, ← hknown.countP_eq, countP_known hkey, h.2]

/-! ### Texts -/

theorem parse_of_gives {s : String} (hs : (Value.obj members).SpelledAs s.toList)
    (hnames : Named members) {limit? size? : Option UInt64} (hlimit : Gives members limitKey limit?)
    (hsize : Gives members sizeKey size?) :
    parse s = .ok ⟨limit?.getD 25, size?.getD 32768⟩ := by
  simp only [parse, Json.parse?_eq_some_iff.2 hs, Option.bind_some,
    ofJson?_of_gives hnames hlimit hsize]

theorem parse_of_spoils {s : String} (hs : (Value.obj members).SpelledAs s.toList)
    (h : Spoils members limitKey ∨ Spoils members sizeKey) : parse s = .error .invalidText := by
  simp only [parse, Json.parse?_eq_some_iff.2 hs, Option.bind_some, ofJson?_of_spoils h]

/-- Objects with the same known members are read alike. -/
theorem parse_eq_of_known_perm {s s' : String} (hs : (Value.obj members).SpelledAs s.toList)
    (hs' : (Value.obj members').SpelledAs s'.toList) (hnames : Named members)
    (hnames' : Named members') (hknown : (known members).Perm (known members')) :
    parse s = parse s' := by
  have hspoils : ∀ key, key = limitKey ∨ key = sizeKey → (¬∃ n?, Gives members key n?) →
      Spoils members key ∧ Spoils members' key := by
    intro key hkey hnone
    refine ⟨(gives_or_spoils members key).resolve_left hnone,
      (gives_or_spoils members' key).resolve_left ?_⟩
    rintro ⟨n?, hn⟩
    exact hnone ⟨n?, hn.perm hkey hknown.symm⟩
  by_cases hlimit : ∃ n?, Gives members limitKey n?
  · by_cases hsize : ∃ n?, Gives members sizeKey n?
    · obtain ⟨limit?, hlimit⟩ := hlimit
      obtain ⟨size?, hsize⟩ := hsize
      rw [parse_of_gives hs hnames hlimit hsize, parse_of_gives hs' hnames'
        (hlimit.perm (.inl rfl) hknown) (hsize.perm (.inr rfl) hknown)]
    · obtain ⟨h, h'⟩ := hspoils sizeKey (.inr rfl) hsize
      rw [parse_of_spoils hs (.inr h), parse_of_spoils hs' (.inr h')]
  · obtain ⟨h, h'⟩ := hspoils limitKey (.inl rfl) hlimit
    rw [parse_of_spoils hs (.inl h), parse_of_spoils hs' (.inl h')]

/-- A configuration is written as an object that gives its two numbers. -/
theorem gives_toJson (c : SyncConfig) :
    ∃ members, c.toJson = .obj members ∧ Named members ∧
      Gives members limitKey (some c.visibleLimit) ∧
      Gives members sizeKey (some c.maxDownloadSize) := by
  refine ⟨_, rfl, ?_, ⟨?_, ?_⟩, ?_, ?_⟩ <;> simp [Named, limitKey, sizeKey]

/-- The text of a configuration is read back. -/
theorem parse_render (c : SyncConfig) : parse c.render = .ok c := by
  have hrender : c.toJson.SpelledAs c.render.toList :=
    Json.spelledAs_render (Json.Value.integral_record (by simp))
  obtain ⟨members, hmembers, hnames, hlimit, hsize⟩ := gives_toJson c
  rw [hmembers] at hrender
  exact parse_of_gives hrender hnames hlimit hsize

/-- What is read from a text that writes an object is decided by its members with the known names
alone. If the names are texts and each known one gives a number or nothing, the configuration has
these numbers, and the default ones for what is absent. If a known name stands twice, or with
anything but a plain number of 64 bits, the text is refused. Other members, the order of the members
and the spelling make no difference. The text of a configuration is read as that configuration. -/
theorem known_keys_decide :
    (∀ (s : String) (members : List (Text × Value)), (Value.obj members).SpelledAs s.toList →
      (Named members → ∀ limit? size?, Gives members limitKey limit? →
        Gives members sizeKey size? →
        parse s = .ok ⟨limit?.getD ({} : SyncConfig).visibleLimit,
          size?.getD ({} : SyncConfig).maxDownloadSize⟩) ∧
      (Spoils members limitKey ∨ Spoils members sizeKey → parse s = .error .invalidText) ∧
      ∀ (s' : String) (members' : List (Text × Value)), (Value.obj members').SpelledAs s'.toList →
        Named members → Named members' → (known members).Perm (known members') →
        parse s = parse s') ∧
    ∀ c : SyncConfig, parse c.render = .ok c := by
  refine ⟨fun s members hs => ⟨?_, ?_, ?_⟩, parse_render⟩
  · intro hnames limit? size? hlimit hsize
    exact parse_of_gives hs hnames hlimit hsize
  · exact parse_of_spoils hs
  · intro s' members' hs' hnames hnames' hknown
    exact parse_eq_of_known_perm hs hs' hnames hnames' hknown

/-- A text with space around its tokens, with a known name further inside and with an escape in
another one. -/
def nestedText : String :=
  " \x7b\"skip\":[1e999,\x7b\"default_visible_limit\":\"]\\u007d\"\x7d],\n" ++
    "\"default\\u005fvisible_limit\" : 7\x7d"

/-- The members that it writes. -/
def nestedMembers : List (Text × Value) :=
  [(some "skip", .arr [.num ⟨false, 1, "e999".toList⟩, .obj [(some limitKey, .text "]\x7d")]]),
    (some limitKey, nat 7)]

/-- The member that is known of these. -/
def plainMembers : List (Text × Value) :=
  [(some limitKey, nat 7)]

/-- A member that is known and is null. -/
def nullMembers : List (Text × Value) :=
  [(some sizeKey, .null)]

theorem known_keys_decide_nested :
    ((Value.obj nestedMembers).SpelledAs nestedText.toList ∧ Named nestedMembers ∧
      Gives nestedMembers limitKey (some 7) ∧ Gives nestedMembers sizeKey none ∧
      parse nestedText = .ok ⟨7, 32768⟩) ∧
    ((Value.obj plainMembers).SpelledAs (Value.obj plainMembers).render.toList ∧
      Named plainMembers ∧ (known nestedMembers).Perm (known plainMembers) ∧
      parse nestedText = parse (Value.obj plainMembers).render) ∧
    (Value.obj nullMembers).SpelledAs (Value.obj nullMembers).render.toList ∧
      Spoils nullMembers sizeKey ∧
      parse (Value.obj nullMembers).render = .error .invalidText := by
  have hnested : (Value.obj nestedMembers).SpelledAs nestedText.toList := by
    change Json.Layout _ _
    -- token by token, each of them read from the text
    repeat' first
      | exact .nil
      | refine .space rfl ?_
      | refine .scan rfl ?_
  have hnames : Named nestedMembers := by simp [Named, nestedMembers]
  have hlimit : Gives nestedMembers limitKey (some 7) := by simp [Gives, nestedMembers, limitKey]
  have hsize : Gives nestedMembers sizeKey none := by
    simp [Gives, nestedMembers, limitKey, sizeKey]
  have hplain : (Value.obj plainMembers).SpelledAs (Value.obj plainMembers).render.toList :=
    Json.spelledAs_render ⟨rfl, trivial⟩
  have hplainNames : Named plainMembers := by simp [Named, plainMembers]
  have hknown : (known nestedMembers).Perm (known plainMembers) := by
    simp [known, nestedMembers, plainMembers, limitKey, sizeKey]
  have hnull : (Value.obj nullMembers).SpelledAs (Value.obj nullMembers).render.toList :=
    Json.spelledAs_render ⟨trivial, trivial⟩
  have hspoils : Spoils nullMembers sizeKey := .inr ⟨_, List.mem_cons_self, fun n => nofun⟩
  refine ⟨⟨hnested, hnames, hlimit, hsize, ?_⟩, ⟨hplain, hplainNames, hknown, ?_⟩, hnull, hspoils,
    ?_⟩
  · exact (known_keys_decide.1 _ _ hnested).1 hnames _ _ hlimit hsize
  · exact (known_keys_decide.1 _ _ hnested).2.2 _ _ hplain hnames hplainNames hknown
  · exact (known_keys_decide.1 _ _ hnull).2.1 (.inr hspoils)

end SyncConfig

end MailSync
