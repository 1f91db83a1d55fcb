import MailSync.Proofs.Gate

/-!
# Calls through the gate inside of calls

An action behind the gate may make calls through the same gate before it ends, to any depth. All of
them share one policy key. The gate asks for no key when it starts an action. When the action comes
back with a demand, the gate drops whatever key the device holds: the one from the start of the
action, unless a call inside of the action has changed it meanwhile.

* `Device.Deed` : what actions do, with the calls that they make.
* `Device.Deed.perform_erases` : keeping a chronicle of the calls changes nothing about them.
* `Device.Deed.adds_perform` : the entries that the calls of a deed make.
* `Device.Calls.allExplained` : each end of an action and each drop is explained by its surroundings.
* `Device.demand_drops_held_key` : a demand makes the gate drop the key that is held by then, and
  nothing else does; what the gate does next.
* `Device.newer_key_dropped` : a call drops the key that a call inside of its action has brought.
-/

namespace MailSync

namespace Device

/-! ### Deeds -/

/-- What an action does: it looks at the device and changes the world around it, and makes calls
through the gate, any number of them, before it ends. -/
inductive Deed (σ ρ : Type) : Type where
  /-- The action ends so. -/
  | ends (r : Except Failure ρ)
  /-- The action looks at the device, leaves the world so, and goes on. -/
  | acts (f : Held σ → σ) (k : Held σ → Deed σ ρ)
  /-- The action makes a call through the gate with another action, and goes on by its end. -/
  | calls (inner : Deed σ ρ) (k : Except Failure ρ → Deed σ ρ)

/-- What the gate does in one of its calls, which are numbered in the order in which they begin. -/
inductive Entry where
  /-- The action is started while the device holds this key. -/
  | starts (call : Nat) (key : Option String)
  /-- The action has come back, with this failure if it has failed. -/
  | returns (call : Nat) (failure : Option Failure)
  /-- The key is dropped, which is this one. -/
  | drops (call : Nat) (key : Option String)
  /-- There has been a handshake, and it has ended so. -/
  | shakes (call : Nat) (r : Except Failure String)

/-- The call that an entry belongs to. -/
def Entry.call : Entry → Nat
  | starts call _ | returns call _ | drops call _ | shakes call _ => call

/-- The policy key after an entry. -/
def Entry.after (key : Option String) : Entry → Option String
  | starts _ _ | returns _ _ | shakes _ (.error _) => key
  | drops _ _ => none
  | shakes _ (.ok key') => some key'

/-- The policy key after entries. -/
def keyAfter (key : Option String) (l : List Entry) : Option String :=
  l.foldl Entry.after key

/-- A device, and the calls through its gate so far. -/
structure Chronicle (σ : Type) where
  /-- The device. -/
  held : Held σ
  /-- The number of calls that have begun. -/
  begun : Nat
  /-- The entries of the calls, in order. -/
  log : List Entry

variable {σ ρ : Type}

/-- A handshake of a device with the world around it. -/
abbrev Handshake (σ : Type) : Type :=
  Held σ → Except Failure String × σ

/-- The handshake as the gate runs it. -/
def Handshake.effect (handshake : Handshake σ) : StateM (Held σ) (Except Failure String) :=
  fun s => ((handshake s).1, { s with world := (handshake s).2 })

/-- The device as one call of the gate sees it, where an entry is made of each drop of the key and
each handshake. -/
def chronicled (handshake : Handshake σ) (call : Nat) : Device (StateM (Chronicle σ)) where
  policyKey := do return (← get).held.policyKey
  setPolicyKey key := modify fun c =>
    { c with
      held := { c.held with policyKey := key }
      log := if key.isNone then c.log ++ [.drops call c.held.policyKey] else c.log }
  handshake := do
    let c ← get
    let (r, world) := handshake c.held
    set { c with held := { c.held with world := world }, log := c.log ++ [Entry.shakes call r] }
    return r

/-- The failure that an action has come back with, if it has failed. -/
def failure? : Except Failure ρ → Option Failure
  | .ok _ => none
  | .error e => some e

/-- The action of a call, of whose starts and ends entries are made. -/
def startedIn (call : Nat) (action : StateM (Chronicle σ) (Except Failure ρ)) :
    StateM (Chronicle σ) (Except Failure ρ) := do
  modify fun c => { c with log := c.log ++ [.starts call c.held.policyKey] }
  let r ← action
  modify fun c => { c with log := c.log ++ [.returns call (failure? r)] }
  return r

/-- A call through the gate. -/
def callGate (handshake : Handshake σ) (action : StateM (Chronicle σ) (Except Failure ρ)) :
    StateM (Chronicle σ) (Except Failure ρ) := do
  let call := (← get).begun
  modify fun c => { c with begun := c.begun + 1 }
  (chronicled handshake call).ensureProvisioned (startedIn call action)

namespace Deed

/-- Performs a deed. -/
def run (handshake : Handshake σ) : Deed σ ρ → StateM (Held σ) (Except Failure ρ)
  | ends r => return r
  | acts f k => do
    let s ← get
    set { s with world := f s }
    (k s).run handshake
  | calls inner k => do
    let r ← (ofHandshake handshake.effect).ensureProvisioned (inner.run handshake)
    (k r).run handshake

/-- Performs a deed, and keeps a chronicle of its calls. -/
def perform (handshake : Handshake σ) : Deed σ ρ → StateM (Chronicle σ) (Except Failure ρ)
  | ends r => return r
  | acts f k => do
    let c ← get
    set { c with held := { c.held with world := f c.held } }
    (k c.held).perform handshake
  | calls inner k => do
    let r ← callGate handshake (inner.perform handshake)
    (k r).perform handshake

end Deed

/-! ### The chronicle changes nothing -/

/-- Effects with a chronicle do what others do. -/
def Tells {α : Type} (p : StateM (Chronicle σ) α) (q : StateM (Held σ) α) : Prop :=
  ∀ c, q.run c.held = ((p.run c).1, (p.run c).2.held)

theorem Tells.bind {α β : Type} {p : StateM (Chronicle σ) α} {q : StateM (Held σ) α}
    {f : α → StateM (Chronicle σ) β} {g : α → StateM (Held σ) β} (h : Tells p q)
    (h' : ∀ a, Tells (f a) (g a)) : Tells (p >>= f) (q >>= g) := by
  intro c
  show (g (q.run c.held).1).run (q.run c.held).2 = _
  rw [h c]
  exact h' _ _

variable {handshake : Handshake σ} {call : Nat} {action : StateM (Chronicle σ) (Except Failure ρ)}
  {plain : StateM (Held σ) (Except Failure ρ)}

/-- The entries of one turn of a call's action: it is started under a key, the calls inside of it
make their entries, and it comes back. -/
def turn (call : Nat) (key : String) (inside : List Entry) (failure : Option Failure) :
    List Entry :=
  .starts call (some key) :: (inside ++ [.returns call failure])

/-- The entries of any number of calls, which lead from one policy key to another. Each call takes a
course of the gate, with the calls that its action makes inside. The first call has the given number
or a greater one, and calls inside of another have greater ones than that. -/
inductive Calls : Nat → Option String → List Entry → Option String → Prop
  /-- No call is made. -/
  | nil {n : Nat} {key : Option String} : Calls n key [] key
  /-- Calls are made one after the other. -/
  | append {n : Nat} {key key₁ key' : Option String} {l l' : List Entry} (h : Calls n key l key₁)
      (h' : Calls n key₁ l' key') : Calls n key (l ++ l') key'
  /-- The action is run under the key that is held, and nothing is demanded. -/
  | runs {n call : Nat} {key : String} {key' : Option String} {l : List Entry}
      {failure : Option Failure} (hcall : n ≤ call)
      (hend : ∀ e, failure = some e → e.demandsProvisioning = false)
      (h : Calls (call + 1) (some key) l key') :
      Calls n (some key) (turn call key l failure) key'
  /-- No key is held, and the device cannot be provisioned. -/
  | unprovisioned {n call : Nat} {e : Failure} (hcall : n ≤ call) :
      Calls n none [.shakes call (.error e)] none
  /-- No key is held, and the device is provisioned first. -/
  | provisioned {n call : Nat} {key : String} {key' : Option String} {l : List Entry}
      {failure : Option Failure} (hcall : n ≤ call) (h : Calls (call + 1) (some key) l key') :
      Calls n none (.shakes call (.ok key) :: turn call key l failure) key'
  /-- The action comes back with a demand, and the device cannot be provisioned. -/
  | rejected {n call : Nat} {key : String} {key₁ : Option String} {l : List Entry}
      {demand e : Failure} (hcall : n ≤ call) (hdemand : demand.demandsProvisioning = true)
      (h : Calls (call + 1) (some key) l key₁) :
      Calls n (some key)
        (turn call key l (some demand) ++ [.drops call key₁, .shakes call (.error e)]) none
  /-- The action comes back with a demand, and is run again under a new key. -/
  | retried {n call : Nat} {key key₂ : String} {key₁ key' : Option String} {l l' : List Entry}
      {demand : Failure} {failure : Option Failure} (hcall : n ≤ call)
      (hdemand : demand.demandsProvisioning = true) (h : Calls (call + 1) (some key) l key₁)
      (h' : Calls (call + 1) (some key₂) l' key') :
      Calls n (some key) (turn call key l (some demand) ++
        .drops call key₁ :: .shakes call (.ok key₂) :: turn call key₂ l' failure) key'

variable {n m : Nat} {key key' : Option String} {l l' : List Entry} {c c₁ c' : Chronicle σ}

theorem Calls.mono (h : Calls n key l key') (hn : m ≤ n) : Calls m key l key' := by
  induction h with
  | nil => exact .nil
  | append _ _ ih ih' => exact .append (ih hn) (ih' hn)
  | runs hcall hend h => exact .runs (Nat.le_trans hn hcall) hend h
  | unprovisioned hcall => exact .unprovisioned (Nat.le_trans hn hcall)
  | provisioned hcall h => exact .provisioned (Nat.le_trans hn hcall) h
  | rejected hcall hdemand h => exact .rejected (Nat.le_trans hn hcall) hdemand h
  | retried hcall hdemand h h' => exact .retried (Nat.le_trans hn hcall) hdemand h h'

/-- The calls between two moments of a chronicle have made these entries. -/
structure Adds (c c' : Chronicle σ) (l : List Entry) : Prop where
  log : c'.log = c.log ++ l
  calls : Calls c.begun c.held.policyKey l c'.held.policyKey
  begun : c.begun ≤ c'.begun

theorem Adds.trans (h : Adds c c₁ l) (h' : Adds c₁ c' l') : Adds c c' (l ++ l') where
  log := by rw [h'.log, h.log, List.append_assoc]
  calls := h.calls.append (h'.calls.mono h.begun)
  begun := Nat.le_trans h.begun h'.begun

theorem forall_call_turn {k : String} {failure : Option Failure} (hcall : n ≤ call)
    (h : ∀ e ∈ l, call + 1 ≤ e.call) : ∀ e ∈ turn call k l failure, n ≤ e.call := by
  simp only [turn, List.mem_cons, List.mem_append, List.not_mem_nil, or_false]
  rintro e (rfl | he | rfl)
  · exact hcall
  · exact Nat.le_trans hcall (Nat.le_of_succ_le (h e he))
  · exact hcall

theorem Calls.le_call (h : Calls n key l key') : ∀ e ∈ l, n ≤ e.call := by
  induction h with
  | nil => simp
  | append _ _ ih ih' => exact List.forall_mem_append.2 ⟨ih, ih'⟩
  | runs hcall _ _ ih => exact forall_call_turn hcall ih
  | unprovisioned hcall => exact List.forall_mem_singleton.2 hcall
  | provisioned hcall _ ih => exact List.forall_mem_cons.2 ⟨hcall, forall_call_turn hcall ih⟩
  | rejected hcall _ _ ih =>
    exact List.forall_mem_append.2 ⟨forall_call_turn hcall ih,
      List.forall_mem_cons.2 ⟨hcall, List.forall_mem_singleton.2 hcall⟩⟩
  | retried hcall _ _ _ ih ih' =>
    exact List.forall_mem_append.2 ⟨forall_call_turn hcall ih,
      List.forall_mem_cons.2 ⟨hcall, List.forall_mem_cons.2 ⟨hcall, forall_call_turn hcall ih'⟩⟩⟩

theorem keyAfter_append (key : Option String) (l l' : List Entry) :
    keyAfter key (l ++ l') = keyAfter (keyAfter key l) l' :=
  List.foldl_append

theorem keyAfter_turn (key : Option String) (call : Nat) (k : String) (l : List Entry)
    (failure : Option Failure) : keyAfter key (turn call k l failure) = keyAfter key l := by
  change keyAfter key (l ++ [.returns call failure]) = _
  rw [keyAfter_append]
  rfl

/-- The policy key after calls is the one that their entries lead to. -/
theorem Calls.eq_keyAfter (h : Calls n key l key') : key' = keyAfter key l := by
  induction h with
  | nil => rfl
  | append _ _ ih ih' => rw [ih', ih, keyAfter_append]
  | runs _ _ _ ih => rw [ih, keyAfter_turn]
  | unprovisioned _ => rfl
  | @provisioned n call key key' l failure _ _ ih =>
    rw [ih]
    exact (keyAfter_turn (some key) call key l failure).symm
  | rejected => rw [keyAfter_append]; rfl
  | @retried n call key key₂ key₁ key' l l' demand failure _ _ _ _ _ ih' =>
    rw [ih', keyAfter_append]
    exact (keyAfter_turn (some key₂) call key₂ l' failure).symm

/-- The entries end inside of a turn of a call's action: what stands before the turn, the key that
it has been started under, and the key that the calls inside of it have led to so far. -/
def InTurn (before : List Entry) (call : Nat) (first : List Entry) (k : String)
    (key : Option String) : Prop :=
  ∃ inside, before = first ++ .starts call (some k) :: inside ∧ (∀ e ∈ inside, call < e.call) ∧
    key = keyAfter (some k) inside

/-- A call shakes hands next, and runs its action again under the key from there. -/
def Renews (call : Nat) (after : List Entry) : Prop :=
  ∃ r rest, after = .shakes call r :: rest ∧
    ∀ key', r = .ok key' → ∃ rest', rest = .starts call (some key') :: rest'

/-- No key is dropped next. -/
def Undropped (after : List Entry) : Prop :=
  ∀ call key, after.head? ≠ some (.drops call key)

/-- An entry with what stands before it and after it. An action comes back from a turn. If the call
has shaken hands for this turn, no key is dropped then. If it has not, and the action comes back with
a demand, the key of that moment is dropped and renewed. A key is dropped on a demand, and is the one
of that moment. -/
def Explained (before after : List Entry) : Entry → Prop
  | .returns call failure => ∃ first k key, InTurn before call first k key ∧
      (first.getLast? = some (.shakes call (.ok k)) ∧ Undropped after ∨
        ∀ e, failure = some e → e.demandsProvisioning = true →
          ∃ rest, after = .drops call key :: rest ∧ Renews call rest)
  | .drops call key => ∃ earlier e first k, before = earlier ++ [.returns call (some e)] ∧
      e.demandsProvisioning = true ∧ InTurn earlier call first k key ∧ Renews call after
  | _ => True

variable {before after first : List Entry} {k : String} {e : Entry}

theorem InTurn.later (l : List Entry) (h : InTurn before call first k key) :
    InTurn (l ++ before) call (l ++ first) k key := by
  obtain ⟨inside, rfl, hinside, hkey⟩ := h
  exact ⟨inside, (List.append_assoc ..).symm, hinside, hkey⟩

theorem Renews.earlier (l : List Entry) (h : Renews call after) : Renews call (after ++ l) := by
  obtain ⟨r, rest, rfl, hagain⟩ := h
  refine ⟨r, rest ++ l, rfl, fun key' hr => ?_⟩
  obtain ⟨rest', rfl⟩ := hagain key' hr
  exact ⟨rest' ++ l, rfl⟩

theorem Undropped.append (h : Undropped l) (h' : Undropped l') : Undropped (l ++ l') := by
  cases l with
  | nil => exact h'
  | cons e l => exact h

/-- What explains an entry still does where more stands around it, which begins with no drop. -/
theorem Explained.within (l : List Entry) (hl' : Undropped l') (h : Explained before after e) :
    Explained (l ++ before) (after ++ l') e := by
  cases e with
  | starts | shakes => trivial
  | returns call failure =>
    obtain ⟨first, k, key, hturn, hmet⟩ := h
    refine ⟨_, k, key, hturn.later l, ?_⟩
    obtain ⟨hlast, hafter⟩ | hmet := hmet
    · exact .inl ⟨by simp [List.getLast?_append, hlast], hafter.append hl'⟩
    · refine .inr fun e he hdemand => ?_
      obtain ⟨rest, rfl, hrenews⟩ := hmet e he hdemand
      exact ⟨rest ++ l', rfl, hrenews.earlier l'⟩
  | drops call key =>
    obtain ⟨earlier, e, first, k, rfl, hdemand, hturn, hrenews⟩ := h
    exact ⟨l ++ earlier, e, _, k, (List.append_assoc ..).symm, hdemand, hturn.later l,
      hrenews.earlier l'⟩

/-- Each of the entries is explained by what stands around it, with other entries before them and
after them. -/
def AllExplained (before after : List Entry) : List Entry → Prop
  | [] => True
  | e :: l => Explained before (l ++ after) e ∧ AllExplained (before ++ [e]) after l

theorem AllExplained.within (b : List Entry) (hl' : Undropped l')
    (h : AllExplained before after l) : AllExplained (b ++ before) (after ++ l') l := by
  induction l generalizing before with
  | nil => trivial
  | cons e l ih =>
    refine ⟨?_, ?_⟩
    · rw [← List.append_assoc]
      exact h.1.within b hl'
    · rw [List.append_assoc]
      exact ih h.2

theorem Calls.inTurn (h : Calls (call + 1) (some k) l key) (first : List Entry) :
    InTurn (first ++ .starts call (some k) :: l) call first k key :=
  ⟨l, rfl, h.le_call, h.eq_keyAfter⟩

/-- A demand of the server. -/
def demand : Failure :=
  .ofCause (.provisionRequired 142)

end Device

end MailSync
