import MailSync.Gate

/-!
# The moves of the provisioning gate

The gate makes moves of its own, running the action and shaking hands, at most three of them. They
are watched here on a device with any handshake and any action: both may do to the device, and to
the world around it, whatever they like, and end differently from run to run.

* `Device.ensureProvisioned_watched` : watching the gate changes neither what it does nor how it
  ends.
* `Device.gated_watch` : the six courses that the gate may take.
* `Device.ensureProvisioned_protocol` : which moves there are, when one follows another, how the
  gate ends, and which key it leaves behind.
-/

namespace MailSync

namespace Device

variable {σ α : Type}

/-- A device, and the world around it. -/
structure Held (σ : Type) where
  /-- The policy key that the device holds. -/
  policyKey : Option String
  /-- The world around the device. -/
  world : σ

/-- The device with a handshake. -/
def ofHandshake (handshake : StateM (Held σ) (Except Failure String)) :
    Device (StateM (Held σ)) where
  policyKey := do return (← get).policyKey
  setPolicyKey key := modify fun s => { s with policyKey := key }
  handshake := handshake

/-- A move of the gate. -/
inductive Move (α : Type) where
  /-- The action has been started while the device held this key, and has ended so. -/
  | action (policyKey : Option String) (r : Except Failure α)
  /-- There has been a handshake, and it has ended so. -/
  | handshake (r : Except Failure String)

/-- The move is a run of the action. -/
def Move.isAction : Move α → Bool
  | action _ _ => true
  | handshake _ => false

/-- Effects whose moves are watched. -/
abbrev Watched (σ α : Type) : Type → Type :=
  StateT (List (Move α)) (StateM (Held σ))

/-- The device with a handshake, whose handshakes are watched. -/
def watched (handshake : StateM (Held σ) (Except Failure String)) : Device (Watched σ α) where
  policyKey := StateT.lift (ofHandshake handshake).policyKey
  setPolicyKey key := StateT.lift ((ofHandshake handshake).setPolicyKey key)
  handshake := do
    let r ← StateT.lift handshake
    modify (· ++ [.handshake r])
    return r

/-- The action, whose runs are watched. -/
def watchedAction (action : StateM (Held σ) (Except Failure α)) :
    Watched σ α (Except Failure α) := do
  let s ← StateT.lift get
  let r ← StateT.lift action
  modify (· ++ [.action s.policyKey r])
  return r

/-- What a watcher sees of the gate. -/
structure Watch (σ α : Type) where
  /-- How the gate has ended. -/
  result : Except Failure α
  /-- The moves of the gate, in order. -/
  moves : List (Move α)
  /-- The device and its world afterwards. -/
  held : Held σ

/-- Watches the gate. -/
def watch (handshake : StateM (Held σ) (Except Failure String))
    (action : StateM (Held σ) (Except Failure α)) (s : Held σ) : Watch σ α :=
  let ((result, moves), held) :=
    ((watched handshake).ensureProvisioned (watchedAction action)).run [] |>.run s
  ⟨result, moves, held⟩

/-- What the gate does when the first run of the action has ended. -/
def afterFirst {m : Type → Type} [Monad m] (d : Device m) (action : m (Except Failure α)) :
    Except Failure α → m (Except Failure α)
  | .ok a => return .ok a
  | .error e => do
    if e.demandsProvisioning then
      d.invalidate
      d.provisionThen action
    else return .error e

variable {handshake : StateM (Held σ) (Except Failure String)}
  {action : StateM (Held σ) (Except Failure α)} {s s' s₁ : Held σ} {r : Except Failure α}
  {moves : List (Move α)}

/-! ### Watching changes nothing -/

/-- Watched effects do what others do. -/
def Erases {β : Type} (p : Watched σ α β) (q : StateM (Held σ) β) : Prop :=
  ∀ moves s, q.run s = (((p.run moves).run s).1.1, ((p.run moves).run s).2)

theorem Erases.bind {β γ : Type} {p : Watched σ α β} {q : StateM (Held σ) β}
    {f : β → Watched σ α γ} {g : β → StateM (Held σ) γ} (h : Erases p q)
    (h' : ∀ b, Erases (f b) (g b)) : Erases (p >>= f) (q >>= g) := by
  intro moves s
  show (g (q.run s).1).run (q.run s).2 = _
  rw [h moves s]
  exact h' _ _ _

theorem erases_provisionThen :
    Erases ((watched handshake).provisionThen (watchedAction action))
      ((ofHandshake handshake).provisionThen action) := by
  have hprovision : Erases (α := α) (watched handshake).provision
      (ofHandshake handshake).provision := by
    refine .bind (fun _ _ => rfl) fun r => ?_
    cases r with
    | error e => exact fun _ _ => rfl
    | ok key => exact .bind (fun _ _ => rfl) fun _ _ _ => rfl
  refine hprovision.bind fun r => ?_
  cases r with
  | error e => exact fun _ _ => rfl
  | ok _ => exact fun _ _ => rfl

theorem erases_ensureProvisioned :
    Erases ((watched handshake).ensureProvisioned (watchedAction action))
      ((ofHandshake handshake).ensureProvisioned action) := by
  refine .bind (fun _ _ => rfl) fun key => ?_
  cases key with
  | none => exact erases_provisionThen
  | some key =>
    refine .bind (fun _ _ => rfl) fun r => ?_
    cases r with
    | ok a => exact fun _ _ => rfl
    | error e =>
      by_cases he : e.demandsProvisioning = true
      · simp only [he, ↓reduceIte]
        exact .bind (fun _ _ => rfl) fun _ => erases_provisionThen
      · simp only [he, Bool.false_eq_true, ↓reduceIte]
        exact fun _ _ => rfl

/-- Watching the gate changes neither what it does nor how it ends. -/
theorem ensureProvisioned_watched (s : Held σ) :
    ((ofHandshake handshake).ensureProvisioned action).run s =
      ((watch handshake action s).result, (watch handshake action s).held) :=
  erases_ensureProvisioned [] s

/-! ### The courses of the gate -/

/-- The gate provisions the device, and runs the action if that succeeds. -/
inductive Provisions (handshake : StateM (Held σ) (Except Failure String))
    (action : StateM (Held σ) (Except Failure α)) (s : Held σ) :
    Except Failure α → List (Move α) → Held σ → Prop
  | fails {e : Failure} {s₁ : Held σ} (hshake : handshake.run s = (.error e, s₁)) :
      Provisions handshake action s (.error (e.within "Device provisioning failed"))
        [.handshake (.error e)] s₁
  | succeeds {key : String} {s₁ s₂ : Held σ} {r : Except Failure α}
      (hshake : handshake.run s = (.ok key, s₁))
      (hrun : action.run { s₁ with policyKey := some key } = (r, s₂)) :
      Provisions handshake action s r [.handshake (.ok key), .action (some key) r] s₂

/-- The courses that the gate may take. -/
inductive Gated (handshake : StateM (Held σ) (Except Failure String))
    (action : StateM (Held σ) (Except Failure α)) (s : Held σ) :
    Except Failure α → List (Move α) → Held σ → Prop
  | provisions {r : Except Failure α} {moves : List (Move α)} {s' : Held σ}
      (hkey : s.policyKey = none) (h : Provisions handshake action s r moves s') :
      Gated handshake action s r moves s'
  | runs {key : String} {r : Except Failure α} {s₁ : Held σ} (hkey : s.policyKey = some key)
      (hrun : action.run s = (r, s₁))
      (hend : ∀ e, r = .error e → e.demandsProvisioning = false) :
      Gated handshake action s r [.action (some key) r] s₁
  | retries {key : String} {e : Failure} {r : Except Failure α} {moves : List (Move α)}
      {s₁ s' : Held σ} (hkey : s.policyKey = some key) (hrun : action.run s = (.error e, s₁))
      (hdemand : e.demandsProvisioning = true)
      (h : Provisions handshake action { s₁ with policyKey := none } r moves s') :
      Gated handshake action s r (.action (some key) (.error e) :: moves) s'

theorem run_handshake (moves : List (Move α)) (s : Held σ) :
    ((watched handshake).handshake.run moves).run s =
      (((handshake.run s).1, moves ++ [.handshake (handshake.run s).1]), (handshake.run s).2) :=
  rfl

theorem run_provisionThen_error {e : Failure} (moves : List (Move α))
    (hshake : handshake.run s = (.error e, s₁)) :
    (((watched handshake).provisionThen (watchedAction action)).run moves).run s =
      ((.error (e.within "Device provisioning failed"), moves ++ [.handshake (.error e)]), s₁) := by
  simp only [provisionThen, provision, bind_assoc, StateT.run_bind, run_handshake, hshake]
  rfl

theorem run_provisionThen_ok {key : String} (moves : List (Move α))
    (hshake : handshake.run s = (.ok key, s₁)) :
    (((watched handshake).provisionThen (watchedAction action)).run moves).run s =
      ((watchedAction action).run (moves ++ [.handshake (.ok key)])).run
        { s₁ with policyKey := some key } := by
  simp only [provisionThen, provision, bind_assoc, StateT.run_bind, run_handshake, hshake]
  rfl

variable (handshake action) in
theorem provisions_provisionThen (moves : List (Move α)) (s : Held σ) :
    ∃ r moves' s', (((watched handshake).provisionThen (watchedAction action)).run moves).run s =
      ((r, moves ++ moves'), s') ∧ Provisions handshake action s r moves' s' := by
  cases hshake : (handshake.run s).1 with
  | error e =>
    have hfails : handshake.run s = (.error e, (handshake.run s).2) := Prod.ext hshake rfl
    exact ⟨_, _, _, run_provisionThen_error moves hfails, .fails hfails⟩
  | ok key =>
    have hsucceeds : handshake.run s = (.ok key, (handshake.run s).2) := Prod.ext hshake rfl
    refine ⟨_, _, _, (run_provisionThen_ok moves hsucceeds).trans ?_, .succeeds hsucceeds rfl⟩
    exact congrArg (fun moves => ((_, moves), _)) (List.append_assoc _ _ _)

theorem run_ensureProvisioned_none (hkey : s.policyKey = none) :
    (((watched handshake).ensureProvisioned (watchedAction action)).run []).run s =
      (((watched handshake).provisionThen (watchedAction action)).run []).run s := by
  have hheld : ((watched (α := α) handshake).policyKey.run []).run s = ((none, []), s) := by
    rw [← hkey]
    rfl
  simp only [ensureProvisioned, StateT.run_bind, hheld]
  rfl

theorem run_ensureProvisioned_some {key : String} (hkey : s.policyKey = some key)
    (hrun : action.run s = (r, s₁)) :
    (((watched handshake).ensureProvisioned (watchedAction action)).run []).run s =
      (((watched handshake).afterFirst (watchedAction action) r).run [.action (some key) r]).run
        s₁ := by
  have hheld : ((watched (α := α) handshake).policyKey.run []).run s = ((some key, []), s) := by
    rw [← hkey]
    rfl
  have hfirst : ((watchedAction action).run []).run s = ((r, [.action (some key) r]), s₁) := by
    have hwatched : ((watchedAction action).run []).run s =
        (((action.run s).1, [.action s.policyKey (action.run s).1]), (action.run s).2) := rfl
    rw [hwatched, hkey, hrun]
  simp only [ensureProvisioned, StateT.run_bind, hheld]
  change ((_ >>= (watched handshake).afterFirst (watchedAction action)).run []).run s = _
  simp only [StateT.run_bind, hfirst]
  rfl

theorem gated_watch (s : Held σ) :
    Gated handshake action s (watch handshake action s).result (watch handshake action s).moves
      (watch handshake action s).held := by
  have hgated : ∃ r moves s',
      (((watched handshake).ensureProvisioned (watchedAction action)).run []).run s =
        ((r, moves), s') ∧ Gated handshake action s r moves s' := by
    cases hkey : s.policyKey with
    | none =>
      obtain ⟨r, moves, s', hrun, h⟩ := provisions_provisionThen handshake action [] s
      exact ⟨r, moves, s', (run_ensureProvisioned_none hkey).trans hrun, .provisions hkey h⟩
    | some key =>
      rcases hrun : action.run s with ⟨r, s₁⟩
      rw [run_ensureProvisioned_some hkey hrun]
      cases r with
      | ok a => exact ⟨_, _, _, rfl, .runs hkey hrun (by simp)⟩
      | error e =>
        by_cases he : e.demandsProvisioning = true
        · obtain ⟨r, moves, s', hagain, h⟩ := provisions_provisionThen handshake action
            [.action (some key) (.error e)] { s₁ with policyKey := none }
          refine ⟨r, _, s', ?_, .retries hkey hrun he h⟩
          simp only [afterFirst, he, ↓reduceIte]
          exact hagain
        · refine ⟨_, _, _, ?_, .runs hkey hrun fun e' he' => ?_⟩
          · simp only [afterFirst, he, Bool.false_eq_true, ↓reduceIte]
            rfl
          · cases he'
            simpa using he
  obtain ⟨r, moves, s', hrun, h⟩ := hgated
  simpa only [watch, hrun] using h

/-! ### The protocol -/

/-- What a watcher sees of a gate that keeps to its protocol. -/
structure Watch.Proper (s : Held σ) (w : Watch σ α) : Prop where
  moves : w.moves.map Move.isAction ∈
    [[true], [true, false], [true, false, true], [false], [false, true]]
  opening : w.moves.head?.map Move.isAction = some s.policyKey.isSome
  provisions : ∀ key r, w.moves[0]? = some (.action key r) →
    ((∃ r', w.moves[1]? = some (.handshake r')) ↔
      ∃ e, r = .error e ∧ e.demandsProvisioning = true)
  retries : ∀ i r, w.moves[i]? = some (.handshake r) →
    ((∃ key r', w.moves[i + 1]? = some (.action key r')) ↔ ∃ key, r = .ok key)
  held : ∀ key r, .action key r ∈ w.moves → key ≠ none
  result : (∃ key, w.moves.getLast? = some (.action key w.result)) ∨
    ∃ e, w.moves.getLast? = some (.handshake (.error e)) ∧
      w.result = .error (e.within "Device provisioning failed")

/-- The server has demanded provisioning, and the handshake has failed. -/
def Rejected (moves : List (Move α)) : Prop :=
  (∃ key e, .action key (.error e) ∈ moves ∧ e.demandsProvisioning = true) ∧
    ∃ e, .handshake (.error e) ∈ moves

/-- The key afterwards is that of the handshake, or none if the device has been rejected, or else
the one from before. -/
structure Watch.Keyed (s : Held σ) (w : Watch σ α) : Prop where
  renewed : ∀ key, .handshake (.ok key) ∈ w.moves → w.held.policyKey = some key
  dropped : Rejected w.moves → w.held.policyKey = none
  kept : (∀ key, .handshake (.ok key) ∉ w.moves) → ¬ Rejected w.moves →
    w.held.policyKey = s.policyKey

theorem Gated.proper (h : Gated handshake action s r moves s') :
    Watch.Proper s ⟨r, moves, s'⟩ := by
  -- in each course the moves are all there, so a question about one of them is about its place
  cases h with
  | @runs key r s₁ hkey hrun hend =>
    refine ⟨by simp [Move.isAction], by simp [Move.isAction, hkey], ?_, ?_, by simp, by simp⟩
    · rintro key' r' h
      cases h
      constructor
      · rintro ⟨r', h⟩
        cases h
      · rintro ⟨e, rfl, he⟩
        rw [hend e rfl] at he
        cases he
    · rintro (_ | i) r' h
      · cases h
      · cases h
  | provisions hkey h =>
    cases h with
    | fails hshake =>
      refine ⟨by simp [Move.isAction], by simp [Move.isAction, hkey], by simp, ?_, by simp, by simp⟩
      rintro (_ | i) r' h
      · cases h
        simp
      · cases h
    | succeeds hshake hrun =>
      refine ⟨by simp [Move.isAction], by simp [Move.isAction, hkey], by simp, ?_, by simp, by simp⟩
      rintro (_ | _ | i) r' h
      · cases h
        simp
      · cases h
      · cases h
  | retries hkey hrun hdemand h =>
    cases h with
    | fails hshake =>
      refine ⟨by simp [Move.isAction], by simp [Move.isAction, hkey], ?_, ?_, by simp, by simp⟩
      · rintro key' r' h
        cases h
        simp [hdemand]
      · rintro (_ | _ | i) r' h
        · cases h
        · cases h
          simp
        · cases h
    | succeeds hshake hrun' =>
      refine ⟨by simp [Move.isAction], by simp [Move.isAction, hkey], ?_, ?_, ?_, by simp⟩
      · rintro key' r' h
        cases h
        simp [hdemand]
      · rintro (_ | _ | _ | i) r' h
        · cases h
        · cases h
          simp
        · cases h
        · cases h
      · intro key' r' h
        simp only [List.mem_cons, Move.action.injEq, reduceCtorEq, false_or, List.not_mem_nil,
          or_false] at h
        obtain ⟨rfl, -⟩ | ⟨rfl, -⟩ := h
        · exact Option.some_ne_none _
        · exact Option.some_ne_none _

/-- A handshake leaves its key behind, or the one from before if it fails. -/
theorem Provisions.policyKey (haction : ∀ s, (action.run s).2.policyKey = s.policyKey)
    (hhandshake : ∀ s, (handshake.run s).2.policyKey = s.policyKey)
    (h : Provisions handshake action s r moves s') :
    (∃ e, moves = [.handshake (.error e)] ∧ s'.policyKey = s.policyKey) ∨
      ∃ key, moves = [.handshake (.ok key), .action (some key) r] ∧ s'.policyKey = some key := by
  cases h with
  | @fails e s₁ hshake =>
    have hkept := hhandshake s
    rw [hshake] at hkept
    exact .inl ⟨e, rfl, hkept⟩
  | @succeeds key s₁ s₂ r hshake hrun =>
    have hkept := haction { s₁ with policyKey := some key }
    rw [hrun] at hkept
    exact .inr ⟨key, rfl, hkept⟩

theorem Gated.keyed (haction : ∀ s, (action.run s).2.policyKey = s.policyKey)
    (hhandshake : ∀ s, (handshake.run s).2.policyKey = s.policyKey)
    (h : Gated handshake action s r moves s') : Watch.Keyed s ⟨r, moves, s'⟩ := by
  cases h with
  | runs hkey hrun hend =>
    have hkept := haction s
    rw [hrun] at hkept
    exact ⟨by simp, by simp [Rejected], fun _ _ => hkept⟩
  | provisions hkey h =>
    rcases h.policyKey haction hhandshake with ⟨e, rfl, hkept⟩ | ⟨key, rfl, hrenewed⟩
    · exact ⟨by simp, by simp [Rejected], fun _ _ => hkept⟩
    · refine ⟨?_, by simp [Rejected], fun hnone => absurd List.mem_cons_self (hnone key)⟩
      simpa using hrenewed
  | @retries key e r moves s₁ s' hkey hrun hdemand h =>
    rcases h.policyKey haction hhandshake with ⟨e', rfl, hkept⟩ | ⟨key', rfl, hrenewed⟩
    · refine ⟨by simp, fun _ => hkept, fun _ hnot => absurd ?_ hnot⟩
      exact ⟨⟨_, e, List.mem_cons_self, hdemand⟩, e', List.mem_cons_of_mem _ List.mem_cons_self⟩
    · refine ⟨?_, by simp [Rejected], fun hnone => absurd ?_ (hnone key')⟩
      · simpa using hrenewed
      · exact List.mem_cons_of_mem _ List.mem_cons_self

/-- **The gate keeps to its protocol**, whatever the handshake and the action do: it runs the action
at most twice and shakes hands at most once, in one of five orders, and where neither of the two
touches the policy key, the key afterwards is the one that the protocol leads to. -/
theorem ensureProvisioned_protocol (handshake : StateM (Held σ) (Except Failure String))
    (action : StateM (Held σ) (Except Failure α)) (s : Held σ) :
    ((ofHandshake handshake).ensureProvisioned action).run s =
        ((watch handshake action s).result, (watch handshake action s).held) ∧
      (watch handshake action s).Proper s ∧
      ((∀ s, (action.run s).2.policyKey = s.policyKey) →
        (∀ s, (handshake.run s).2.policyKey = s.policyKey) → (watch handshake action s).Keyed s) :=
  ⟨ensureProvisioned_watched s, (gated_watch s).proper,
    fun haction hhandshake => (gated_watch s).keyed haction hhandshake⟩

/-- An action that the server answers with a demand for provisioning the first time. -/
def demandingOnce : StateM (Held Nat) (Except Failure Unit) := do
  let s ← get
  set { s with world := s.world + 1 }
  return if s.world = 0 then .error (.ofCause (.provisionRequired 142)) else .ok ()

/-- A demand for provisioning is met with one handshake, and the action is run again. -/
theorem gate_renews_key :
    (watch (pure (.ok "Q")) demandingOnce ⟨some "P", 0⟩).moves =
        [.action (some "P") (.error (.ofCause (.provisionRequired 142))), .handshake (.ok "Q"),
          .action (some "Q") (.ok ())] ∧
      (watch (pure (.ok "Q")) demandingOnce ⟨some "P", 0⟩).held.policyKey = some "Q" := by
  obtain ⟨-, -, hkeyed⟩ :=
    ensureProvisioned_protocol (pure (.ok "Q")) demandingOnce ⟨some "P", 0⟩
  have hmoves : (watch (pure (.ok "Q")) demandingOnce ⟨some "P", 0⟩).moves =
      [.action (some "P") (.error (.ofCause (.provisionRequired 142))), .handshake (.ok "Q"),
        .action (some "Q") (.ok ())] := rfl
  refine ⟨hmoves, (hkeyed (fun _ => rfl) fun _ => rfl).renewed "Q" ?_⟩
  rw [hmoves]
  exact List.mem_cons_of_mem _ List.mem_cons_self

end Device

end MailSync
