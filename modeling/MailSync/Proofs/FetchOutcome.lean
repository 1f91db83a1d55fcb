import MailSync.Proofs.Fidelity
import MailSync.Proofs.StorageFrame

/-!
# What comes of a fetch

Once the response to a fetch has passed the gate, the response says how the fetch ends, and the
outcome of one write does: a response that is refused or leads to no key changes nothing, and any
other moves the sync key on before a message is looked for among its answers.

* `Exchange.Trip.passes` : a response that passes the gate ends its round trip.
* `Account.closes_of_fetch` : what a fetch does once its response has passed the gate.
* `Account.fetch_concludes` : how a fetch ends, and what it leaves in the store.
-/

namespace MailSync

namespace Exchange

variable {d : Wire.Sync} {t t' : List Plan.Step} {reply : Except Failure Wire.Sync}

/-! ### The response that passes the gate -/

/-- Every response among the replies demands provisioning. -/
def AllDemand (t : List Plan.Step) : Prop :=
  ∀ d response, .sent d (.ok response) ∈ t → Demands (.ok response)

@[simp] theorem allDemand_nil : AllDemand [] :=
  fun _ _ hmem => absurd hmem List.not_mem_nil

@[simp] theorem allDemand_asked {q : Query} {a : q.Answer} :
    AllDemand (.asked q a :: t) ↔ AllDemand t := by
  simp [AllDemand]

theorem allDemand_sent :
    AllDemand (.sent d reply :: t) ↔
      (∀ response, reply = .ok response → Demands reply) ∧ AllDemand t := by
  constructor
  · intro h
    refine ⟨?_, fun d response hmem => h d response (List.mem_cons_of_mem _ hmem)⟩
    rintro response rfl
    exact h d response List.mem_cons_self
  · rintro ⟨hfirst, h⟩ d' response hmem
    obtain hmem | hmem := List.mem_cons.1 hmem
    · cases hmem
      exact hfirst response rfl
    · exact h d' response hmem

theorem allDemand_concat (h : AllDemand t) (hlast : AllDemand [.sent d reply]) :
    AllDemand (t ++ [.sent d reply]) := by
  intro d' response hmem
  obtain hmem | hmem := List.mem_append.1 hmem
  · exact h d' response hmem
  · exact hlast d' response hmem

/-- The last attempt of a round trip passes the gate, or it fails. -/
theorem attempt_passes (d : Wire.Sync) (reply : Except Failure Wire.Sync) :
    (∃ response, verdict reply = .ok response ∧ reply = .ok response) ∨
      (∃ e, verdict reply = .error e) ∧ AllDemand [.sent d reply] := by
  cases hverdict : verdict reply with
  | ok response => exact .inl ⟨response, rfl, (verdict_eq_ok hverdict).1⟩
  | error e =>
    refine .inr ⟨⟨e, rfl⟩, allDemand_sent.2 ⟨?_, allDemand_nil⟩⟩
    rintro response rfl
    by_contra hdemand
    simp [verdict, not_demands_iff.1 hdemand] at hverdict

/-- A round trip that ends well ends with the first response that passes the gate, and none passes
in one that fails. -/
theorem Trip.passes {r : Except Failure Wire.Sync} (h : Trip d t r) :
    (∃ response t', r = .ok response ∧ t = t' ++ [.sent d (.ok response)] ∧ AllDemand t') ∨
      (∃ e, r = .error e) ∧ AllDemand t := by
  have hlast : ∀ (t' : List Plan.Step) {reply}, AllDemand t' →
      (∃ response t'', verdict reply = .ok response ∧
        t' ++ [.sent d reply] = t'' ++ [.sent d (.ok response)] ∧ AllDemand t'') ∨
      (∃ e, verdict reply = .error e) ∧ AllDemand (t' ++ [.sent d reply]) := by
    intro t' reply ht'
    obtain ⟨response, hverdict, rfl⟩ | ⟨herror, hdemand⟩ := attempt_passes d reply
    · exact .inl ⟨response, t', hverdict, rfl, ht'⟩
    · exact .inr ⟨herror, allDemand_concat ht' hdemand⟩
  cases h with
  | held key reply => exact hlast [_] (by simp)
  | provisioned key reply => exact hlast [_, _, _] (by simp)
  | unprovisioned e => exact .inr ⟨⟨_, rfl⟩, by simp⟩
  | rejected key reply e hdemand => exact .inr ⟨⟨_, rfl⟩, by simp [allDemand_sent, hdemand]⟩
  | retried key reply key' reply' hdemand =>
    exact hlast [_, _, _, _, _] (by simp [allDemand_sent, hdemand])

theorem trip_unchanging {r : Except Failure Wire.Sync} (h : Trip d t r) :
    ∀ st ∈ t, st.changes = false := by
  cases h <;> simp [Plan.Step.changes]

end Exchange

namespace MessageFetch

open Exchange

/-! ### The item that answers -/

/-- The item answers the request for an id: it names this id or none, and reports success or
nothing. -/
structure Answering (id : String) (item : Wire.Item) : Prop where
  serverId : item.serverId = none ∨ item.serverId = some id
  status : item.status = none ∨ item.status = some 1

/-- What the fetch of an id in a folder makes of the item that answers it. -/
structure Makes (folder wanted : String) (item : Wire.Item) (m : Message) : Prop where
  id : m.id = wanted
  uid : m.uid = wanted
  folder : m.folder = folder
  raw : m.raw.toByteArray =
    (((item.applicationData.bind (·.body)).bind (·.data)).getD "").toUTF8
  flags : ∀ f, m.hasFlag f = true ↔ f = .seen ∧ item.applicationData.bind (·.read) = some 1

theorem answers_iff {id : String} {item : Wire.Item} :
    answers id item = true ↔ Answering id item := by
  have hall : ∀ {α : Type} [DecidableEq α] (x : Option α) (a : α),
      x.all (· = a) = true ↔ x = none ∨ x = some a := by
    intro α _ x a
    cases x <;> simp
  rw [answers, Bool.and_eq_true, hall, hall]
  exact ⟨fun h => ⟨h.1, h.2⟩, fun h => ⟨h.serverId, h.status⟩⟩

theorem makes_materialize (folder id : String) (item : Wire.Item) :
    Makes folder id item (materialize folder id item) := by
  -- it is the message that a sync would make of the item under the id that is asked for
  let named : Wire.Item := { item with serverId := some id }
  have hmakes : named.Makes folder (materialize folder id item) (!named.truncated) :=
    Wire.Item.makes_of_delivery (Wire.Item.delivery_eq_some rfl)
  have hid : (materialize folder id item).id = id := id_materialize folder id item
  exact ⟨hid, hmakes.uid.trans hid, hmakes.folder, hmakes.raw, hmakes.flags⟩

/-! ### After the response -/

/-- What a fetch does once its response has passed the gate, and how it ends. -/
inductive Closes (folder id : String) (response : Wire.Sync) :
    List Plan.Step → Except Failure Message → Prop
  /-- The response is refused. -/
  | refused {e : Failure} (hcheck : accepted id response = .error e) :
      Closes folder id response [] (.error e)
  /-- The response leads to no key. -/
  | keyless {c : Wire.Collection} (hcheck : accepted id response = .ok c)
      (hkey : c.syncKey = none) :
      Closes folder id response [] (.error (.ofCause (.malformedResponse folder .noSyncKey)))
  /-- The key cannot be stored. -/
  | unwritten {c : Wire.Collection} {key : String} (hcheck : accepted id response = .ok c)
      (hkey : c.syncKey = some key) (e : Failure) :
      Closes folder id response [writeStep folder key (.error e)]
        (.error (e.within s!"Failed to persist sync key for folder {folder}"))
  /-- The key is stored, and no item answers. -/
  | missing {c : Wire.Collection} {key : String} (hcheck : accepted id response = .ok c)
      (hkey : c.syncKey = some key) (hnone : c.fetched.find? (answers id) = none) :
      Closes folder id response [writeStep folder key (.ok ())]
        (.error (.ofCause (.messageNotFound id)))
  /-- The key is stored, and an item answers. -/
  | found {c : Wire.Collection} {key : String} {item : Wire.Item}
      (hcheck : accepted id response = .ok c) (hkey : c.syncKey = some key)
      (hitem : c.fetched.find? (answers id) = some item) :
      Closes folder id response [writeStep folder key (.ok ())]
        (.ok (materialize folder id item))

variable {folder id : String} {t : List Plan.Step}

theorem Closes.unsent {response : Wire.Sync} {r : Except Failure Message}
    (h : Closes folder id response t r) : ∀ st ∈ t, st.exchange? = none := by
  cases h <;> simp [writeStep, Plan.Step.exchange?]

/-- The read of the key and the round trip up to the response that passes the gate. -/
theorem trip_split {d : Wire.Sync} {response : Wire.Sync} (folder : String)
    (found : Except Failure (Option String)) (h : Trip d t (.ok response)) :
    ∃ before, (∀ rest, readStep folder found :: (t ++ rest) =
        before ++ .sent d (.ok response) :: rest) ∧
      AllDemand before ∧ ∀ st ∈ before, st.changes = false := by
  obtain ⟨response', t', hr, rfl, hdemand⟩ | ⟨⟨e, hr⟩, -⟩ := h.passes
  · cases hr
    refine ⟨readStep folder found :: t', by simp, allDemand_asked.2 hdemand, ?_⟩
    exact List.forall_mem_cons.2
      ⟨rfl, fun st hst => trip_unchanging h st (List.mem_append_left _ hst)⟩
  · cases hr

/-- Where the response of a fetch passes the gate, the fetch closes by that response, and it has
changed nothing before. -/
theorem closes_of_fetches {r : Except Failure Message} (h : Fetches folder id t r) :
    (∃ before d response after, t = before ++ .sent d (.ok response) :: after ∧
        AllDemand before ∧ (∀ st ∈ before, st.changes = false) ∧
        Closes folder id response after r) ∨ AllDemand t := by
  have hcloses : ∀ {d response stored t after r}, Trip d t (.ok response) →
      Closes folder id response after r →
        ∃ before d response after', readStep folder (.ok stored) :: (t ++ after) =
            before ++ .sent d (.ok response) :: after' ∧ AllDemand before ∧
          (∀ st ∈ before, st.changes = false) ∧ Closes folder id response after' r := by
    intro d response stored t after r htrip hcloses
    obtain ⟨before, ht, hdemand, hbefore⟩ := trip_split folder (.ok stored) htrip
    exact ⟨before, d, response, after, ht after, hdemand, hbefore, hcloses⟩
  cases h with
  | unread e => exact .inr (allDemand_asked.2 allDemand_nil)
  | @fails stored t e h =>
    cases h with
    | fails htrip =>
      obtain ⟨response, -, hr, -⟩ | ⟨-, hdemand⟩ := htrip.passes
      · cases hr
      · exact .inr (allDemand_asked.2 hdemand)
    | refused htrip hcheck => exact .inl (by simpa using hcloses htrip (.refused hcheck))
    | keyless htrip hcheck hkey =>
      exact .inl (by simpa using hcloses htrip (.keyless hcheck hkey))
    | unwritten htrip hcheck hkey e => exact .inl (hcloses htrip (.unwritten hcheck hkey e))
  | missing h hnone =>
    cases h with
    | stored htrip hcheck hkey => exact .inl (hcloses htrip (.missing hcheck hkey hnone))
  | found h hitem =>
    cases h with
    | stored htrip hcheck hkey => exact .inl (hcloses htrip (.found hcheck hkey hitem))

end MessageFetch

namespace Account

open Exchange MessageFetch

variable {folder id : String} {before after : List Plan.Step} {d : Wire.Sync}
  {response : Wire.Sync}

/-- Once its response has passed the gate, a fetch closes by it and gives its folder back. It has
changed nothing before. -/
theorem closes_of_fetch {r : Except Failure Message}
    (h : Plan.Runs (Account.fetch folder id) (before ++ .sent d (.ok response) :: after) r)
    (hgate : ¬ Demands (.ok response)) :
    (∀ st ∈ before, st.changes = false) ∧ ∃ t guard,
      after = t ++ [.asked (.release guard) ()] ∧ Closes folder id response t r := by
  obtain ⟨e, ht, -⟩ | ⟨guard, t', ht, hbody⟩ := course_of_runs (o := .fetch folder id) h
  · -- an operation that has been refused its folder sends nothing
    have hsent : Plan.Step.sent d (.ok response) ∈ [.asked (.acquire folder) (.error e)] :=
      ht ▸ List.mem_append_right _ List.mem_cons_self
    simp at hsent
  obtain ⟨before', d', response', t, rfl, hdemand, hbefore, hcloses⟩ | hdemand :=
    closes_of_fetches (fetches_of_runs hbody)
  · -- no other response passes, so the two ways to split the steps are the same
    have hsplit : (Plan.Step.asked (.acquire folder) (.ok guard) :: before') ++
        .sent d' (.ok response') :: (t ++ [.asked (.release ⟨guard.folder⟩) ()]) =
          before ++ .sent d (.ok response) :: after := by
      rw [ht]
      simp [Operation.folder]
    have hfirst : .sent d (.ok response) ∉
        Plan.Step.asked (.acquire folder) (.ok guard) :: before' := by
      intro hmem
      obtain hmem | hmem := List.mem_cons.1 hmem
      · cases hmem
      · exact hgate (hdemand _ _ hmem)
    have hlast : Plan.Step.sent d (.ok response) ∉
        t ++ [.asked (.release ⟨guard.folder⟩) ()] := by
      intro hmem
      obtain hmem | hmem := List.mem_append.1 hmem
      · exact nomatch hcloses.unsent _ hmem
      · simp at hmem
    obtain ⟨rfl, hstep, rfl⟩ := (List.append_cons_inj_of_notMem hfirst hlast).1 hsplit
    cases hstep
    exact ⟨List.forall_mem_cons.2 ⟨rfl, hbefore⟩, t, _, rfl, hcloses⟩
  · have hmem : .sent d (.ok response) ∈ t' := by
      have hmem : .sent d (.ok response) ∈ before ++ .sent d (.ok response) :: after :=
        List.mem_append_right _ List.mem_cons_self
      rw [ht] at hmem
      simpa using hmem
    exact absurd (hdemand _ _ hmem) hgate

/-! ### Any state and any outcome of the write -/

/-- Every question is answered in every state, and the write of a text may have any outcome. -/
theorem exists_answers (s : Shared) (q : Query) (outcome : Except Failure Unit) :
    ∃ a s', Answers s q a s' ∧ ∀ folder name value w,
      Plan.Step.asked q a = .asked (.writeExtra folder name value) w → w = outcome := by
  cases q with
  | policyKey => exact ⟨_, _, .policyKey s, nofun⟩
  | setPolicyKey key => exact ⟨_, _, .setPolicyKey s key, nofun⟩
  | handshake => exact ⟨_, _, .handshake s (.error (.ofCause (.other ""))), nofun⟩
  | readExtra folder name => exact ⟨_, _, .read s folder name, nofun⟩
  | writeExtra folder name value =>
    cases outcome with
    | error e =>
      refine ⟨_, _, .writeFails s folder name value e, ?_⟩
      rintro _ _ _ _ ⟨⟩
      rfl
    | ok _ =>
      refine ⟨_, _, .write s folder name value, ?_⟩
      rintro _ _ _ _ ⟨⟩
      rfl
  | save m complete => exact ⟨_, _, .save s m complete, nofun⟩
  | cancelled => exact ⟨_, _, .cancelled s false, nofun⟩
  | notify n => exact ⟨_, _, .notify s n, nofun⟩
  | acquire folder =>
    cases h : s.locks.acquire folder with
    | error e => exact ⟨_, _, .refuse h, nofun⟩
    | ok x => exact ⟨_, _, .acquire h, nofun⟩
  | release guard => exact ⟨_, _, .release s guard, nofun⟩

/-- Every plan can be run from every state, whatever comes of the texts that it stores. -/
theorem exists_answered {α : Type} (p : Plan α) (s : Shared) (outcome : Except Failure Unit) :
    ∃ t a s', Plan.Runs p t a ∧ AnswersAll s t s' ∧ ∀ folder name value w,
      .asked (.writeExtra folder name value) w ∈ t → w = outcome := by
  induction p generalizing s with
  | done a => exact ⟨[], a, s, .done a, .nil s, nofun⟩
  | send d k ih =>
    obtain ⟨t, a, s', hruns, hs, hwrites⟩ := ih (.error (.ofCause (.other ""))) s
    refine ⟨_, a, s', .send hruns, .sent _ _ hs, ?_⟩
    intro folder name value w hmem
    obtain hmem | hmem := List.mem_cons.1 hmem
    · cases hmem
    · exact hwrites folder name value w hmem
  | ask q k ih =>
    obtain ⟨x, s₁, hx, hwrite⟩ := exists_answers s q outcome
    obtain ⟨t, a, s', hruns, hs, hwrites⟩ := ih x s₁
    refine ⟨_, a, s', .ask hruns, .asked hx hs, ?_⟩
    intro folder name value w hmem
    obtain hmem | hmem := List.mem_cons.1 hmem
    · exact hwrite folder name value w hmem.symm
    · exact hwrites folder name value w hmem

/-! ### How a fetch ends -/

/-- How the search for an id among the items of a response ends. -/
structure Answered (folder id : String) (items : List Wire.Item) (r : Except Failure Message) :
    Prop where
  ok_iff : (∃ m, r = .ok m) ↔ ∃ item ∈ items, Answering id item
  first : ∀ m, r = .ok m → ∃ pre item post, items = pre ++ item :: post ∧
    (∀ earlier ∈ pre, ¬ Answering id earlier) ∧ Answering id item ∧
    m = materialize folder id item ∧ MessageFetch.Makes folder id item m
  notFound : (∀ item ∈ items, ¬ Answering id item) →
    r = .error (.ofCause (.messageNotFound id))

/-- How a fetch ends by a response that has passed the gate and by the steps after it, and what
becomes of the store. -/
structure Settled (folder id : String) (response : Wire.Sync) (after : List Plan.Step)
    (s s' : Store) (r : Except Failure Message) : Prop where
  refused : response.collection?.bind (·.status) ≠ some 1 →
    r = .error (.ofCause (.fetchFailed id
      ((response.collection?.bind (·.status)).or response.status))) ∧ s' = s
  keyless : ∀ c, response.collection? = some c → c.status = some 1 → c.syncKey = none →
    r = .error (.ofCause (.malformedResponse folder .noSyncKey)) ∧ s' = s
  keyed : ∀ c key, response.collection? = some c → c.status = some 1 → c.syncKey = some key →
    (∃ e, writeStep folder key (.error e) ∈ after ∧
      r = .error (e.within s!"Failed to persist sync key for folder {folder}") ∧ s' = s) ∨
    writeStep folder key (.ok ()) ∈ after ∧
      s' = s.setExtra folder Store.syncKeyName key ∧ Answered folder id c.fetched r

theorem answered_missing {items : List Wire.Item} (h : items.find? (answers id) = none) :
    Answered folder id items (.error (.ofCause (.messageNotFound id))) := by
  have hnone : ∀ item ∈ items, ¬ Answering id item := by
    intro item hitem hanswering
    exact List.find?_eq_none.1 h item hitem (answers_iff.2 hanswering)
  refine ⟨iff_of_false ?_ ?_, ?_, fun _ => rfl⟩
  · rintro ⟨m, ⟨⟩⟩
  · rintro ⟨item, hitem, hanswering⟩
    exact hnone item hitem hanswering
  · rintro m ⟨⟩

theorem answered_found {items : List Wire.Item} {item : Wire.Item}
    (h : items.find? (answers id) = some item) :
    Answered folder id items (.ok (materialize folder id item)) := by
  obtain ⟨hanswers, pre, post, rfl, hpre⟩ := List.find?_eq_some_iff_append.1 h
  have hanswering := answers_iff.1 hanswers
  refine ⟨iff_of_true ⟨_, rfl⟩ ⟨item, by simp, hanswering⟩, ?_, ?_⟩
  · rintro m ⟨⟩
    refine ⟨pre, item, post, rfl, ?_, hanswering, rfl, makes_materialize folder id item⟩
    intro earlier hearlier hearlier'
    have hfalse := hpre earlier hearlier
    rw [answers_iff.2 hearlier'] at hfalse
    cases hfalse
  · intro hnone
    exact absurd hanswering (hnone item (by simp))

/-- What is refused is no collection, or one whose status is not success. -/
theorem refused_iff {e : Failure} (h : MessageFetch.accepted id response = .error e) :
    response.collection?.bind (·.status) ≠ some 1 ∧
      e = .ofCause (.fetchFailed id
        ((response.collection?.bind (·.status)).or response.status)) := by
  unfold MessageFetch.accepted at h
  cases hc : response.collection? with
  | none =>
    rw [hc] at h
    cases h
    exact ⟨nofun, rfl⟩
  | some c =>
    simp only [hc] at h
    split at h
    · cases h
    · rename_i hstatus
      cases h
      exact ⟨hstatus, rfl⟩

theorem settled_refused {after : List Plan.Step} {s : Store} {e : Failure}
    (h : MessageFetch.accepted id response = .error e) :
    Settled folder id response after s s (.error e) := by
  obtain ⟨hstatus, rfl⟩ := refused_iff h
  have hnone : ∀ {c : Wire.Collection} {P : Prop}, response.collection? = some c →
      c.status = some 1 → P := by
    intro c P hc hc'
    rw [hc] at hstatus
    exact absurd hc' hstatus
  exact ⟨fun _ => ⟨rfl, rfl⟩, fun c hc hc' => hnone hc hc', fun c key hc hc' => hnone hc hc'⟩

/-- Where the response is accepted, its collection alone says how the fetch ends. -/
theorem settled_accepted {c : Wire.Collection} {after : List Plan.Step} {s s' : Store}
    {r : Except Failure Message} (h : MessageFetch.accepted id response = .ok c)
    (hkeyless : c.syncKey = none →
      r = .error (.ofCause (.malformedResponse folder .noSyncKey)) ∧ s' = s)
    (hkeyed : ∀ key, c.syncKey = some key →
      (∃ e, writeStep folder key (.error e) ∈ after ∧
        r = .error (e.within s!"Failed to persist sync key for folder {folder}") ∧ s' = s) ∨
      writeStep folder key (.ok ()) ∈ after ∧
        s' = s.setExtra folder Store.syncKeyName key ∧ Answered folder id c.fetched r) :
    Settled folder id response after s s' r := by
  obtain ⟨hc, hstatus⟩ := collection_of_accepted h
  refine ⟨?_, ?_, ?_⟩
  · intro hrefused
    rw [hc] at hrefused
    exact absurd hstatus hrefused
  · intro c' hc' _
    cases hc.symm.trans hc'
    exact hkeyless
  · intro c' key hc' _
    cases hc.symm.trans hc'
    exact hkeyed key

theorem settled_keyless {c : Wire.Collection} {after : List Plan.Step} {s : Store}
    (h : MessageFetch.accepted id response = .ok c) (hkey : c.syncKey = none) :
    Settled folder id response after s s
      (.error (.ofCause (.malformedResponse folder .noSyncKey))) := by
  refine settled_accepted h (fun _ => ⟨rfl, rfl⟩) ?_
  intro key hkey'
  cases hkey.symm.trans hkey'

theorem settled_keyed {c : Wire.Collection} {key : String} {after : List Plan.Step} {s s' : Store}
    {r : Except Failure Message} (h : MessageFetch.accepted id response = .ok c)
    (hkey : c.syncKey = some key)
    (hwrite : (∃ e, writeStep folder key (.error e) ∈ after ∧
        r = .error (e.within s!"Failed to persist sync key for folder {folder}") ∧ s' = s) ∨
      writeStep folder key (.ok ()) ∈ after ∧
        s' = s.setExtra folder Store.syncKeyName key ∧ Answered folder id c.fetched r) :
    Settled folder id response after s s' r := by
  refine settled_accepted h ?_ ?_
  · intro hnone
    cases hkey.symm.trans hnone
  · intro key' hkey'
    cases hkey.symm.trans hkey'
    exact hwrite

/-- A fetch that closes by its response settles as the response says. -/
theorem settled_of_closes {t : List Plan.Step} {guard : FolderGuard} {s s' : Shared}
    {r : Except Failure Message} (h : Closes folder id response t r)
    (hs : AnswersAll s (t ++ [.asked (.release guard) ()]) s') :
    Settled folder id response (t ++ [.asked (.release guard) ()]) s.store s'.store r := by
  rw [hs.store_eq]
  cases h with
  | refused hcheck => exact settled_refused hcheck
  | keyless hcheck hkey => exact settled_keyless hcheck hkey
  | unwritten hcheck hkey e =>
    exact settled_keyed hcheck hkey (.inl ⟨e, List.mem_cons_self, rfl, rfl⟩)
  | missing hcheck hkey hnone =>
    exact settled_keyed hcheck hkey (.inr ⟨List.mem_cons_self, rfl, answered_missing hnone⟩)
  | found hcheck hkey hitem =>
    exact settled_keyed hcheck hkey (.inr ⟨List.mem_cons_self, rfl, answered_found hitem⟩)

/-- **How a fetch ends**: a fetch that has sent its request has changed nothing. Whatever the state
is in which a response comes that passes the gate, and whatever becomes of the write of the key, the
fetch comes to an end, and the response and the outcome of the write say what it returns and what it
leaves in the store. -/
theorem fetch_concludes {k : Except Failure Wire.Sync → Plan (Except Failure Message)}
    (hsent : Plan.Reaches (Account.fetch folder id) before (.send d k))
    (hgate : ¬ Demands (.ok response)) (s : Shared) :
    (∀ st ∈ before, st.changes = false) ∧
    (∀ outcome, ∃ after r s', Plan.Runs (k (.ok response)) after r ∧ AnswersAll s after s' ∧
      ∀ key w, writeStep folder key w ∈ after → w = outcome) ∧
    ∀ after r s', Plan.Runs (k (.ok response)) after r → AnswersAll s after s' →
      Settled folder id response after s.store s'.store r := by
  have hcloses : ∀ {after r}, Plan.Runs (k (.ok response)) after r →
      (∀ st ∈ before, st.changes = false) ∧ ∃ t guard,
        after = t ++ [.asked (.release guard) ()] ∧ Closes folder id response t r :=
    fun hruns => closes_of_fetch (hsent.runs (.send hruns)) hgate
  refine ⟨?_, ?_, ?_⟩
  · obtain ⟨after, r, hruns⟩ := Plan.exists_runs (k (.ok response))
    exact (hcloses hruns).1
  · intro outcome
    obtain ⟨after, r, s', hruns, hs, hwrites⟩ := exists_answered (k (.ok response)) s outcome
    exact ⟨after, r, s', hruns, hs, fun key w hmem => hwrites _ _ _ _ hmem⟩
  · intro after r s' hruns hs
    obtain ⟨-, t, guard, rfl, h⟩ := hcloses hruns
    exact settled_of_closes h hs

/-- A fetch whose response brings a failed item and then one that answers takes the second, and the
key is stored. -/
theorem fetch_concludes_second_item : ∃ t after s', ∃ m : Message,
    Plan.Runs (Account.fetch "inbox" "5:1") (t ++ after) (.ok m) ∧
      AnswersAll Session.fresh.shared after s' ∧ writeStep "inbox" "2" (.ok ()) ∈ after ∧
      s'.store.syncKey? "inbox" = some "2" ∧ m.id = "5:1" ∧ m.hasFlag .seen = true := by
  let failed : Wire.Item := { status := some 8 }
  let answer : Wire.Item := { status := some 1, applicationData := some { read := some 1 } }
  have hsent : Plan.Reaches (Account.fetch "inbox" "5:1")
      [.asked (.acquire "inbox") (.ok ⟨"inbox"⟩), readStep "inbox" (.ok (some "1")),
        .asked .policyKey (some "P")] (.send (Wire.Sync.fetch "inbox" "1" "5:1") _) :=
    .ask (.ask (.ask (.refl _)))
  have hgate : ¬ Demands (.ok (.answering "2" [failed, answer])) := by decide
  obtain ⟨-, hends, hsettles⟩ := fetch_concludes hsent hgate Session.fresh.shared
  obtain ⟨after, r, s', hruns, hs, hwrites⟩ := hends (.ok ())
  obtain ⟨e, hwrite, -⟩ | ⟨hwrite, hstore, hanswered⟩ :=
    (hsettles after r s' hruns hs).keyed _ "2" rfl rfl rfl
  · cases hwrites "2" _ hwrite
  obtain ⟨m, rfl⟩ := hanswered.ok_iff.2
    ⟨answer, List.mem_cons_of_mem _ List.mem_cons_self, .inl rfl, .inr rfl⟩
  obtain ⟨pre, item, post, hitems, -, hanswering, -, hm⟩ := hanswered.first m rfl
  -- the first item reports a failure, so it is not the one that answers
  have hitem : item = answer := by
    have hmem : item ∈ [failed, answer] := by
      change [failed, answer] = _ at hitems
      rw [hitems]
      exact List.mem_append_right _ List.mem_cons_self
    obtain rfl | hmem := List.mem_cons.1 hmem
    · obtain hstatus | hstatus := hanswering.status <;> cases hstatus
    · exact List.mem_singleton.1 hmem
  have hwhole : Plan.Runs (Account.fetch "inbox" "5:1") ([_, _, _, .sent _ _] ++ after) (.ok m) :=
    hsent.runs (.send hruns)
  refine ⟨_, after, s', m, hwhole, hs, hwrite, ?_, hm.id, (hm.flags .seen).2 ⟨rfl, ?_⟩⟩
  · rw [hstore]
    rfl
  · rw [hitem]
    rfl

end Account

end MailSync
