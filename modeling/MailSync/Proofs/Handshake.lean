import MailSync.Proofs.Tenure

/-!
# When a folder is introduced

A folder is introduced to the server by a handshake, which carries the key of a folder without state
and asks for nothing. A sync makes one if and only if it starts without a key, and then as its first
round trip and never again. As long as the server does not send a folder back to that key, a folder
is introduced once and for all, however the operations on it fail.

* `Account.windows_inTurn`, `Account.pulls_inTurn` : the requests and deliveries of a sync come in
  their turn.
* `Account.Session.Introduces.before` : the key of a handshake is stored where there is none yet.
* `Account.handshake_discipline` : all of this over every run of a session.
-/

namespace MailSync

/-- The handshake of a folder: its class, the key "0" and the folder, and nothing else. -/
def Wire.Sync.introduction (folder : String) : Wire.Sync :=
  .ofCollection { className := some "Email", syncKey := some "0", collectionId := some folder }

theorem Wire.Sync.handshake_initialKey (folder : String) :
    handshake folder initialKey = introduction folder := rfl

/-- The step stores a message, or announces one. -/
def Plan.Step.delivers : Plan.Step → Bool
  | .asked (.save _ _) _ | .asked (.notify (.newMessage _ _ _)) _ => true
  | _ => false

namespace Account

open Exchange FolderSync

/-- The number of round trips that an operation has begun. -/
def roundTrips (past : List Plan.Step) : Nat :=
  past.countP (·.opensTrip)

/-- A step of a sync comes in its turn. The key is read before any is written, a handshake is the
request of the first round trip of a sync that has found no key, and messages come from other
requests. -/
def InTurn (folder : String) (past : List Plan.Step) : Plan.Step → Prop
  | .sent d _ =>
    ∃ found, readStep folder (.ok found) ∈ past ∧
      (d = .introduction folder ↔
        roundTrips past = 1 ∧ found.getD Wire.initialKey = Wire.initialKey)
  | .asked (.readExtra _ _) _ => keyWritten? folder past = none
  | .asked (.save _ _) _ | .asked (.notify (.newMessage _ _ _)) _ =>
    ∃ d r, past.findSome? Plan.Step.exchange? = some (d, r) ∧ d ≠ .introduction folder
  | _ => True

/-- The next round trip is no handshake: the sync has made one before, or has found a key. -/
def Introduced (folder : String) (past : List Plan.Step) : Prop :=
  ∃ found, readStep folder (.ok found) ∈ past ∧
    (0 < roundTrips past ∨ found.getD Wire.initialKey ≠ Wire.initialKey)

variable {past t t' : List Plan.Step} {st : Plan.Step} {d : Wire.Sync} {c : Wire.Collection}
  {folder key : String}

theorem Introduced.append (h : Introduced folder past) (t : List Plan.Step) :
    Introduced folder (t ++ past) := by
  obtain ⟨found, hread, h⟩ := h
  refine ⟨found, List.mem_append_right _ hread, h.imp_left fun hpos => ?_⟩
  rw [roundTrips, List.countP_append]
  exact Nat.add_pos_right _ hpos

/-- A request for items is no handshake. -/
theorem ne_introduction (hasks : d.asksForItems = true) : d ≠ .introduction folder := by
  rintro rfl
  cases hasks

/-! ### The courses of a sync -/

/-- A round trip sends its request in its turn, if it is known whether it is to be a handshake. -/
theorem trip_inTurn {r : Except Failure Wire.Sync} {found : Option String}
    (hread : readStep folder (.ok found) ∈ past)
    (hd : d = .introduction folder ↔
      roundTrips past = 0 ∧ found.getD Wire.initialKey = Wire.initialKey)
    (h : Trip d t r) : Plan.Throughout (InTurn folder) past t := by
  have hsend : ∀ (later : List Plan.Step) (key : Option String) reply,
      roundTrips later = 0 →
        InTurn folder (later ++ .asked .policyKey key :: past) (.sent d reply) := by
    intro later key reply hlater
    have hcount : roundTrips (later ++ .asked .policyKey key :: past) = roundTrips past + 1 := by
      unfold roundTrips at hlater ⊢
      rw [List.countP_append, hlater, Nat.zero_add, List.countP_cons_of_pos rfl]
    refine ⟨found, List.mem_append_right _ (List.mem_cons_of_mem _ hread), ?_⟩
    rw [hd, hcount]
    simp
  cases h with
  | held key reply => exact ⟨trivial, hsend [] _ _ rfl, trivial⟩
  | unprovisioned e => exact ⟨trivial, trivial, trivial⟩
  | provisioned key reply => exact ⟨trivial, trivial, trivial, hsend [_, _] _ _ rfl, trivial⟩
  | rejected key reply e => exact ⟨trivial, hsend [] _ _ rfl, trivial, trivial, trivial⟩
  | retried key reply key' reply' =>
    exact ⟨trivial, hsend [] _ _ rfl, trivial, trivial, trivial, hsend [_, _, _, _] _ _ rfl, trivial⟩

theorem commits_inTurn {r : Except Failure (Wire.Collection × String)} {found : Option String}
    (hread : readStep folder (.ok found) ∈ past)
    (hd : d = .introduction folder ↔
      roundTrips past = 0 ∧ found.getD Wire.initialKey = Wire.initialKey)
    (h : Commits folder (accepted folder) d t r) : Plan.Throughout (InTurn folder) past t := by
  cases h with
  | fails h => exact trip_inTurn hread hd h
  | refused h => exact trip_inTurn hread hd h
  | keyless h => exact trip_inTurn hread hd h
  | unwritten h | stored h =>
    exact Plan.throughout_append.2 ⟨trip_inTurn hread hd h, trivial, trivial⟩

theorem roundTrips_pos (past : List Plan.Step) {r : Except Failure Wire.Sync} (h : Trip d t r) :
    0 < roundTrips (t.reverse ++ past) := by
  refine List.countP_pos_iff.2 ?_
  cases h <;> simp [Plan.Step.opensTrip]

/-- An exchange whose key has been stored has been a round trip, and is the latest. -/
theorem commits_latest (past : List Plan.Step)
    (h : Commits folder (accepted folder) d t (.ok (c, key))) :
    0 < roundTrips (t.reverse ++ past) ∧
      ∃ r, (t.reverse ++ past).findSome? Plan.Step.exchange? = some (d, r) := by
  cases h with
  | @stored t response _ _ h =>
    obtain ⟨-, hlatest, -⟩ := trip_underWay past h rfl
    rw [List.reverse_concat]
    exact ⟨roundTrips_pos past h, .ok response, findSome?_of_underWay hlatest⟩

theorem delivers_inTurn {items : List Wire.Item} {r : Except Failure Unit}
    {reply : Except Failure Wire.Sync}
    (hlatest : past.findSome? Plan.Step.exchange? = some (d, reply))
    (hd : d ≠ .introduction folder) (h : Delivers folder items t r) :
    Plan.Throughout (InTurn folder) past t := by
  induction h generalizing past with
  | nil | nameless => trivial
  | refused => exact ⟨⟨d, reply, hlatest, hd⟩, trivial⟩
  | delivered _ _ ih =>
    exact ⟨⟨d, reply, hlatest, hd⟩, ⟨d, reply, hlatest, hd⟩, ih hlatest⟩

variable {config : SyncConfig} {cancellable : Bool} {stats : SyncStats}

theorem checks_inTurn : Plan.Throughout (InTurn folder) past (checks cancellable) := by
  cases cancellable <;> simp [checks, Plan.Throughout, InTurn]

/-- Where the folder has been introduced, the request of the next window is no handshake. -/
theorem next_inTurn {r : Except Failure (Wire.Collection × String)}
    (hpast : Introduced folder past)
    (h : Commits folder (accepted folder) (nextWindow folder config key stats) t r) :
    Plan.Throughout (InTurn folder) past (checks cancellable ++ t) := by
  obtain ⟨found, hread, hintroduced⟩ := hpast.append (checks cancellable).reverse
  refine Plan.throughout_append.2 ⟨checks_inTurn, commits_inTurn hread ?_ h⟩
  refine iff_of_false (ne_introduction rfl) ?_
  rintro ⟨hzero, hfound⟩
  obtain hpos | hne := hintroduced
  · omega
  · exact hne hfound

/-- A window whose key has been stored, and the delivery of its items. -/
theorem window_inTurn {key' : String} {r : Except Failure Unit} (hpast : Introduced folder past)
    (h : Commits folder (accepted folder) (nextWindow folder config key stats) t (.ok (c, key')))
    (hitems : Delivers folder c.added t' r) :
    Plan.Throughout (InTurn folder) past (checks cancellable ++ t ++ t') := by
  refine Plan.throughout_append.2 ⟨next_inTurn hpast h, ?_⟩
  rw [List.reverse_append, List.append_assoc]
  obtain ⟨-, reply, hlatest⟩ := commits_latest ((checks cancellable).reverse ++ past) h
  exact delivers_inTurn hlatest (ne_introduction rfl) hitems

theorem windows_inTurn {r : Except Failure SyncStats} (hpast : Introduced folder past)
    (h : Windows folder config cancellable key stats t r) :
    Plan.Throughout (InTurn folder) past t := by
  -- along the windows: once a folder has been introduced, it stays so
  induction h generalizing past with
  | spent => trivial
  | cancelled => exact ⟨trivial, trivial⟩
  | fails _ hadvance => exact next_inTurn hpast hadvance
  | undelivered _ hadvance hitems =>
    rw [← List.append_assoc]
    exact window_inTurn hpast hadvance hitems
  | last _ hadvance hitems =>
    rw [← List.append_assoc]
    exact window_inTurn hpast hadvance hitems
  | empty _ hadvance hitems =>
    rw [← List.append_assoc]
    exact window_inTurn hpast hadvance hitems
  | next _ hadvance hitems _ _ _ ih =>
    rw [← List.append_assoc, ← List.append_assoc]
    exact Plan.throughout_append.2 ⟨window_inTurn hpast hadvance hitems, ih (hpast.append _)⟩

theorem pulls_inTurn {r : Except Failure SyncStats} (htrips : roundTrips past = 0)
    (hwritten : keyWritten? folder past = none) (h : Pulls folder config cancellable t r) :
    Plan.Throughout (InTurn folder) past t := by
  cases h with
  | unread e => exact ⟨hwritten, trivial⟩
  | known hkey h =>
    exact ⟨hwritten, windows_inTurn ⟨_, List.mem_cons_self, .inr hkey⟩ h⟩
  | @refused stored t e hkey hadvance =>
    have htrips' : roundTrips (readStep folder (.ok stored) :: past) = 0 := htrips
    refine ⟨hwritten, commits_inTurn List.mem_cons_self ?_ hadvance⟩
    exact iff_of_true (Wire.Sync.handshake_initialKey folder) ⟨htrips', hkey⟩
  | @introduced stored c key t t' r hkey hadvance h =>
    have htrips' : roundTrips (readStep folder (.ok stored) :: past) = 0 := htrips
    obtain ⟨hpos, -⟩ := commits_latest (readStep folder (.ok stored) :: past) hadvance
    refine ⟨hwritten, Plan.throughout_append.2 ⟨commits_inTurn List.mem_cons_self ?_ hadvance,
      windows_inTurn ⟨stored, List.mem_append_right _ List.mem_cons_self, .inl hpos⟩ h⟩⟩
    exact iff_of_true (Wire.Sync.handshake_initialKey folder) ⟨htrips', hkey⟩

theorem plan_inTurn {o : Operation} {r : Except Failure o.Value} (hsync : o.isSync = true)
    (h : Plan.Runs o.plan t r) : Plan.Throughout (InTurn o.folder) [] t := by
  obtain ⟨e, rfl, -⟩ | ⟨guard, t', rfl, hbody⟩ := course_of_runs h
  · exact ⟨trivial, trivial⟩
  · cases o with
    | sync folder config | syncCancellable folder config =>
      obtain ⟨t'', rfl, hpulls⟩ := runs_sync_cases hbody
      have hlast : ∀ r, InTurn folder (t''.reverse ++ [.asked (.notify (.started folder)) (),
          .asked (.acquire folder) (.ok guard)]) (.asked (.notify (lastNotice folder r)) ()) := by
        intro r
        cases r <;> trivial
      refine ⟨trivial, trivial, Plan.throughout_append.2 ⟨Plan.throughout_append.2
        ⟨pulls_inTurn rfl rfl hpulls, hlast _, trivial⟩, trivial, trivial⟩⟩
    | fetch folder id => cases hsync

/-- Every step of a sync on its course has come in its turn. -/
theorem Task.OnCourse.inTurn {u : Task} (h : u.OnCourse) (hsync : u.operation.isSync = true)
    (hst : st :: past <:+ u.past) : InTurn u.folder past st := by
  obtain ⟨t', r, hruns⟩ := h.extends
  exact (Plan.throughout_append.1 (plan_inTurn hsync hruns)).1.holds (by rwa [List.reverse_reverse])

/-! ### Whole sessions -/

/-- Among the events, no accepted response for the folder carries the key "0". -/
def NeverReset (f : String) (τ : List Event) : Prop :=
  ∀ o d response c, .takes o (.sent d (.ok response)) ∈ τ → o.folder = f →
    response.Accepted c → c.syncKey ≠ some "0"

/-- The store holds no key for a folder, or the one of a folder without state. -/
def Session.Blank (b : Session) (f : String) : Prop :=
  b.syncKey? f = none ∨ b.syncKey? f = some "0"

namespace Session

variable {b₀ b b₁ b' b'' : Session} {τ τ' : List Event} {e e' : Event} {o : Operation} {f : String}

theorem blank_iff : b.Blank f ↔ (b.syncKey? f).getD Wire.initialKey = Wire.initialKey := by
  unfold Blank
  cases b.syncKey? f <;> simp [Wire.initialKey]

/-- An operation stores the key of a handshake for a folder. -/
structure Introduces (b : Session) (f : String) (e : Event) (b' : Session) : Prop where
  move : b.Moves e b'
  stores : ∃ t ts response key, b.tasks = t :: ts ∧ t.folder = f ∧
    t.latest = some (.introduction f, .ok response) ∧
    e = .takes t.operation (writeStep f key (.ok ()))

/-- The steps that an operation in progress has taken are events of the session. -/
theorem Run.mem_of_past (hidle : b₀.Idle) (hrun : b₀.Run τ b) :
    ∀ t ∈ b.tasks, ∀ st ∈ t.past, .takes t.operation st ∈ τ := by
  induction hrun with
  | nil => simp [hidle.tasks]
  | @snoc τ b b' e hrun hm ih =>
    have hgrow : ∀ t ∈ b.tasks, ∀ st ∈ t.past, .takes t.operation st ∈ τ ++ [e] :=
      fun t ht st hst => List.mem_append_left _ (ih t ht st hst)
    cases hm with
    | starts o =>
      refine List.forall_mem_cons.2 ⟨fun st hst => ?_, hgrow⟩
      cases hst
    | outside => exact hgrow
    | returns => exact (List.forall_mem_cons.1 hgrow).2
    | sends => exact List.forall_mem_cons.2 (List.forall_mem_cons.1 hgrow)
    | hears | asks =>
      obtain ⟨ht, hts⟩ := List.forall_mem_cons.1 hgrow
      refine List.forall_mem_cons.2 ⟨List.forall_mem_cons.2 ⟨?_, ht⟩, hts⟩
      exact List.mem_append_right _ List.mem_cons_self

/-- A sync that has had its folder since `b` sends a handshake in its first round trip, if there has
been no key at `b`, and in no other. -/
theorem Tenure.sends (h : b.Tenure o τ' b') (hidle : b₀.Idle) (hrun : b₀.Run τ b)
    (hsync : o.isSync = true) {t : Task} {ts : List Task} (htasks : b'.tasks = t :: ts)
    {d : Wire.Sync} (hm : b'.Moves (.sends o d) b'') :
    d = .introduction o.folder ↔ roundTrips t.past = 1 ∧ b.Blank o.folder := by
  have hrun' := h.run hrun
  cases hm with
  | @sends s t' ts' d k hrest =>
    cases htasks
    obtain ⟨hworks, -⟩ := (hrun'.cursor_sound hidle).sending hrest
    have howns := h.owns hidle hrun t List.mem_cons_self hworks rfl
    have hcourse := hrun'.onCourse hidle t List.mem_cons_self
    -- the request comes in its turn, whatever the reply to it will be
    have hnext := hcourse.hear hrest (.error (busy t.folder))
    obtain ⟨found, hread, hd⟩ := hnext.inTurn hsync List.suffix_rfl
    obtain ⟨later, before, hpast⟩ := List.append_of_mem hread
    have hsuffix : readStep t.folder (.ok found) :: before <:+ t.past := ⟨later, hpast.symm⟩
    have hblank : found = b.syncKey? t.folder := by
      have hnone : keyWritten? t.folder before = none := hcourse.inTurn hsync hsuffix
      have hfound := howns.reads found before hsuffix
      rw [keyAfter] at hfound
      exact hfound.trans (congrArg (Option.or · _) hnone)
    rw [blank_iff]
    rw [hblank] at hd
    exact hd

/-- A sync stores and announces messages when its latest request is no handshake. -/
theorem Run.delivers (hidle : b₀.Idle) (hrun : b₀.Run τ b) (hsync : o.isSync = true) {t : Task}
    {ts : List Task} (htasks : b.tasks = t :: ts) {st : Plan.Step} (hst : st.delivers = true)
    (hm : b.Moves (.takes o st) b') :
    ∃ d r, t.latest = some (d, r) ∧ d ≠ .introduction o.folder := by
  cases hm with
  | hears => cases hst
  | @asks s s' t' ts' q k a hrest ha =>
    cases htasks
    have hnext := (hrun.onCourse hidle t List.mem_cons_self).ask hrest a
    have hturn := hnext.inTurn hsync List.suffix_rfl
    cases q with
    | save => exact hturn
    | notify n =>
      cases n with
      | newMessage => exact hturn
      | _ => cases hst
    | _ => cases hst

/-- In an exchange that has changed nothing, no key has been stored since the request. -/
theorem written_of_untouched {past : List Plan.Step} {d : Wire.Sync} {r : Except Failure Wire.Sync}
    (huntouched : Untouched past)
    (hlatest : (underWay past).findSome? Plan.Step.exchange? = some (d, r)) :
    ∃ before, .sent d r :: before <:+ past ∧ keyWritten? f past = keyWritten? f before := by
  induction past with
  | nil => cases hlatest
  | cons st past ih =>
    rw [Untouched, underWay_cons] at huntouched
    rw [underWay_cons] at hlatest
    split at hlatest
    · cases hlatest
    · rename_i hopens
      rw [if_neg hopens] at huntouched
      obtain ⟨hst, hpast⟩ := List.forall_mem_cons.1 huntouched
      rw [List.findSome?_cons] at hlatest
      cases hexchange : st.exchange? with
      | some p =>
        rw [hexchange] at hlatest
        cases hlatest
        cases eq_sent_of_exchange? hexchange
        exact ⟨past, List.suffix_rfl, rfl⟩
      | none =>
        rw [hexchange] at hlatest
        obtain ⟨before, hbefore, hwritten⟩ := ih hpast hlatest
        refine ⟨before, hbefore.trans (List.suffix_cons ..), ?_⟩
        have hwrites : st.writes? (f, Store.syncKeyName) = none := by
          cases hst' : st.writes? (f, Store.syncKeyName) with
          | none => rfl
          | some value =>
            cases eq_asked_of_writes? hst'
            cases hst
        rw [← hwritten, keyWritten?, List.findSome?_cons, hwrites]
        rfl

/-- The key of a handshake is stored where there is none yet. -/
theorem Introduces.before (h : b.Introduces f e b') (hidle : b₀.Idle) (hrun : b₀.Run τ b) :
    b.Blank f := by
  obtain ⟨hm, t, ts, response, key, htasks, rfl, hlatest, rfl⟩ := h
  obtain ⟨s, tasks⟩ := b
  cases htasks
  have hcourse := hrun.onCourse hidle t List.mem_cons_self
  cases hm with
  | asks hrest ha =>
    have hnext := hcourse.ask hrest (.ok ())
    -- the operation is at work, so it knows which key is stored
    have hworks := hcourse.works_of_ask hrest nofun
    have hactive : t.folder ∈ s.locks.active := by
      rw [(hrun.cursor_sound hidle).active_cons hworks]
      exact List.mem_cons_self
    obtain ⟨τ₁, b₁, o, τ₂, hrun₁, hfolder, htenure⟩ := hrun.tenure hidle hactive
    have howns := htenure.owns hidle hrun₁ t List.mem_cons_self hworks hfolder.symm
    -- it has sent the handshake under that key, and has stored nothing since
    have hordered : InOrder t.operation.isSync t.folder t.past (writeStep t.folder key (.ok ())) :=
      hnext.inOrder List.suffix_rfl
    obtain ⟨-, -, huntouched, d, c, ⟨response', hlanded, -⟩, -, -⟩ := hordered
    have hsame := (findSome?_of_underWay hlanded).symm.trans hlatest
    cases hsame
    obtain ⟨before, hsent, hwritten⟩ := written_of_untouched (f := o.folder) huntouched hlanded
    obtain ⟨c', hc', -, hkey⟩ := howns.requests _ _ before hsent
    cases hc'
    rw [blank_iff]
    change (s.store.syncKey? t.folder).getD _ = _
    rw [← hfolder, howns.stored, keyAfter, hwritten]
    exact (Option.some.inj hkey).symm

/-- Where the server does not send a folder back, no operation stores the key "0" for it. -/
theorem Run.ne_of_mayAsk (hidle : b₀.Idle) (hrun : b₀.Run τ b) (hreset : NeverReset f τ) {t : Task}
    (ht : t ∈ b.tasks) (hfolder : t.folder = f) (hlatest : t.latest = (b₀.view f τ).latest)
    {key : String}
    (hask : (coherence f).mayAsk (b₀.view f τ) (.writeExtra f Store.syncKeyName key)) :
    key ≠ "0" := by
  obtain ⟨-, -, d, response, c, hview, hc, hkey⟩ := hask
  obtain ⟨st, hst, hexchange⟩ := List.exists_of_findSome?_eq_some (hlatest.trans hview)
  cases eq_sent_of_exchange? hexchange
  have hne := hreset _ d response c (hrun.mem_of_past hidle t ht _ hst) hfolder hc
  rintro rfl
  exact hne hkey

/-- Where the server does not send a folder back, the key of a handshake is one. -/
theorem Introduces.after (h : b.Introduces f e b') (hidle : b₀.Idle) (hrun : b₀.Run τ b)
    (hreset : NeverReset f τ) : ¬ b'.Blank f := by
  obtain ⟨hm, t, ts, response, key, htasks, rfl, hlatest, rfl⟩ := h
  obtain ⟨s, tasks⟩ := b
  cases htasks
  cases hm with
  | asks hrest ha =>
    obtain hq | hq | ⟨hview, hask⟩ := (hrun.cursor_sound hidle).asking hrest
    · cases hq
    · cases hq
    · have hne := hrun.ne_of_mayAsk hidle hreset List.mem_cons_self rfl hview hask
      unfold Blank
      rw [syncKey?, ha.syncKey?_eq]
      simpa [Plan.Step.writes?] using hne

/-- Where the server does not send a folder back, the folder keeps a key once it has one. -/
theorem Run.not_blank (hidle : b₀.Idle) (hrun : b₀.Run τ b) (hrun' : b.Run τ' b')
    (hreset : NeverReset f (τ ++ τ')) (hb : ¬ b.Blank f) : ¬ b'.Blank f := by
  induction hrun' with
  | nil => exact hb
  | @snoc τ' b₁ b₂ e hrun' hm ih =>
    have hbefore : NeverReset f (τ ++ τ') := by
      intro o d response c hmem
      refine hreset o d response c ?_
      rw [← List.append_assoc]
      exact List.mem_append_left _ hmem
    have hrun₁ := hrun.trans hrun'
    by_cases hsame : b₂.syncKey? f = b₁.syncKey? f
    · unfold Blank
      rw [hsame]
      exact ih hbefore
    · obtain ⟨t, ts, key, htasks, hfolder, hlatest, hkey, hask⟩ :=
        (hrun₁.cursor_sound hidle).stores hm hsame
      have hne := hrun₁.ne_of_mayAsk hidle hbefore (by simp [htasks]) hfolder hlatest hask
      unfold Blank
      rw [hkey]
      simpa using hne

end Session

variable {b₀ b : Session} {τ : List Event}

/-- **A folder is introduced once**: in every session, a request of a sync is a handshake if and only
if it is sent in the first round trip of the sync and no key, or the key "0", has been stored when the
sync has taken its folder into work; and what a sync stores and announces comes from requests that
are none. If no accepted response for a folder carries the key "0", then no request carries that key
any more once another one is stored, and the key of a handshake is stored at most once. -/
theorem handshake_discipline (hidle : b₀.Idle) (hrun : b₀.Run τ b) :
    (∀ o τ' b' t ts, o.isSync = true → b.Tenure o τ' b' → b'.tasks = t :: ts →
      (∀ d b'', b'.Moves (.sends o d) b'' →
        (d = .introduction o.folder ↔ roundTrips t.past = 1 ∧
          (b.syncKey? o.folder = none ∨ b.syncKey? o.folder = some "0"))) ∧
      ∀ st b'', b'.Moves (.takes o st) b'' → st.delivers = true →
        ∃ d r, t.latest = some (d, r) ∧ d ≠ .introduction o.folder) ∧
    (∀ f key τ' b', b.syncKey? f = some key → key ≠ "0" → b.Run τ' b' →
      NeverReset f (τ ++ τ') → ∀ o d b'', o.folder = f → b'.Moves (.sends o d) b'' →
        ∀ c, d.collection? = some c → c.syncKey ≠ some "0") ∧
    ∀ f e b₁ τ' b' e' b'', b.Introduces f e b₁ → b₁.Run τ' b' →
      NeverReset f (τ ++ e :: τ') → ¬ b'.Introduces f e' b'' := by
  refine ⟨fun o τ' b' t ts hsync h htasks => ⟨fun d b'' hm => ?_, fun st b'' hm hst => ?_⟩, ?_, ?_⟩
  · exact h.sends hidle hrun hsync htasks hm
  · exact (h.run hrun).delivers hidle hsync htasks hst hm
  · rintro f key τ' b' hkey hne hrun' hreset o d b'' rfl hm c hc hzero
    have hblank : ¬ b.Blank o.folder := by
      unfold Session.Blank
      simp [hkey, hne]
    obtain ⟨c', hc', -, hcarries⟩ := (cursor_coherent hidle (hrun.trans hrun') hm).1 o d rfl
    rw [hc] at hc'
    cases hc'
    refine hrun.not_blank hidle hrun' hreset hblank (Session.blank_iff.2 ?_)
    exact Option.some.inj (hcarries.symm.trans hzero)
  · intro f e b₁ τ' b' e' b'' h hrun' hreset h'
    have hrun₁ := hrun.snoc h.move
    have hnow : NeverReset f (τ ++ [e] ++ τ') := by rwa [List.append_assoc]
    have hstored : ¬ b₁.Blank f := by
      refine h.after hidle hrun fun o d response c hmem => ?_
      exact hreset o d response c (List.mem_append_left _ hmem)
    exact hrun₁.not_blank hidle hrun' hnow hstored (h'.before hidle (hrun₁.trans hrun'))

/-- The first sync of a folder begins with a handshake, and no other handshake gets as far as that
one. Once a fetch has stored a key, the next request carries it. -/
theorem handshake_discipline_first_sync :
    (∃ τ b b' d, Session.fresh.Run τ b ∧ b.Moves (.sends (.sync "inbox" ⟨1, 0⟩) d) b' ∧
      d = .introduction "inbox") ∧
    (∃ τ b d b', Session.fresh.Run τ b ∧ b.syncKey? "inbox" = some "1" ∧
      b.Moves (.sends (.fetch "inbox" "5:1") d) b' ∧
      ∀ c, d.collection? = some c → c.syncKey ≠ some "0") ∧
    ∃ τ b e b₁, Session.fresh.Run τ b ∧ b.Introduces "inbox" e b₁ ∧
      ∀ e' b', ¬ b₁.Introduces "inbox" e' b' := by
  have start := Session.Run.nil.snoc
    (@Session.Moves.starts Session.fresh.shared [] (.sync "inbox" ⟨1, 0⟩))
  have acquire : Session.Tenure ⟨Session.fresh.shared, [Task.start (.sync "inbox" ⟨1, 0⟩)]⟩
      (.sync "inbox" ⟨1, 0⟩) [] _ := .takes (.asks rfl (.acquire rfl))
  have hear := acquire.moves (.asks rfl (.notify _ _)) List.mem_cons_self
  have read := hear.moves (.asks rfl (.read _ _ _)) List.mem_cons_self
  have hold := read.moves (.asks rfl (.policyKey _)) List.mem_cons_self
  have send := hold.moves (.sends rfl rfl) List.mem_cons_self
  have heard := send.moves (.hears (.ok (.accepting "1" [])) rfl rfl) List.mem_cons_self
  have hthird : ∀ {τ b e b₁}, Session.fresh.Run τ b → b.Introduces "inbox" e b₁ →
      NeverReset "inbox" (τ ++ [e]) → ∃ τ b e b₁, Session.fresh.Run τ b ∧
        b.Introduces "inbox" e b₁ ∧ ∀ e' b', ¬ b₁.Introduces "inbox" e' b' :=
    fun hrun h hreset => ⟨_, _, _, _, hrun, h, fun e' b' =>
      (handshake_discipline Session.fresh_idle hrun).2.2 _ _ _ _ _ _ _ h .nil hreset⟩
  refine ⟨⟨_, _, _, _, hold.run start, .sends rfl rfl, ?_⟩, ?_, hthird (heard.run start)
    ⟨.asks rfl (.write _ _ _ _), _, _, _, _, rfl, rfl, rfl, rfl⟩ ?_⟩
  · obtain ⟨hsends, -⟩ := (handshake_discipline Session.fresh_idle start).1 _ _ _ _ _ rfl hold rfl
    exact (hsends _ _ (.sends rfl rfl)).2 ⟨rfl, .inl rfl⟩
  · have start := Session.Run.nil.snoc
      (@Session.Moves.starts Session.fresh.shared [] (.fetch "inbox" "5:1"))
    have acquire := start.snoc (.asks rfl (.acquire rfl))
    have read := acquire.snoc (.asks rfl (.read _ _ _))
    have hold := read.snoc (.asks rfl (.policyKey _))
    have send := hold.snoc (.sends rfl rfl)
    have hear := send.snoc (.hears (.ok (.answering "1" [{}])) rfl rfl)
    have write := hear.snoc (.asks rfl (.write _ _ _ _))
    have release := write.snoc (.asks rfl (.release _ _))
    have again := (release.snoc (.returns rfl)).snoc (.starts (.fetch "inbox" "5:1"))
    have acquire' := again.snoc (.asks rfl (.acquire rfl))
    have read' := acquire'.snoc (.asks rfl (.read _ _ _))
    have hold' := read'.snoc (.asks rfl (.policyKey _))
    refine ⟨_, _, _, _, hold', rfl, .sends rfl rfl, ?_⟩
    refine (handshake_discipline Session.fresh_idle hold').2.1 "inbox" "1" _ _ rfl (by decide) .nil
      ?_ _ _ _ rfl (.sends rfl rfl)
    intro o d response c hmem _ hc
    obtain ⟨-, -, rfl⟩ : _ ∧ _ ∧ response = .answering "1" [{}] := by simpa using hmem
    cases hc.collection
    simp
  · intro o d response c hmem _ hc
    obtain ⟨-, -, rfl⟩ : _ ∧ _ ∧ response = .accepting "1" [] := by simpa using hmem
    cases hc.collection
    simp

end Account

end MailSync
