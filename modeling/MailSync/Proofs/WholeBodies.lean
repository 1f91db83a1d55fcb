import MailSync.Proofs.FetchOutcome
import MailSync.Proofs.Reporting

/-!
# Whether a fetched message is whole

A fetch asks for a message without a limit on its size, and returns what the first item that answers
makes. It never looks at the mark by which a server says that a body is only a beginning, and the
message does not show it. So a fetched message is whole if and only if the server has sent it whole.

* `Account.exists_builtFrom` : a fetch that ends well has heard one response that passes, and builds
  its message from one item of it.
* `MessageFetch.mirrors_fetch` : other marks on the bodies, and the fetch does the same.
* `Account.fetched_whole_iff` : when a fetched message is whole, and that nobody can tell.
-/

namespace MailSync

/-! ### Marks -/

namespace Wire

/-- The item's body is marked as truncated. -/
def Item.Marked (item : Item) : Prop :=
  (item.applicationData.bind (·.body)).bind (·.truncated) = some 1

/-- The item with another mark on its body, if it has one. -/
def Item.remark (mark : Option UInt32) (item : Item) : Item :=
  { item with
    applicationData := item.applicationData.map fun data =>
      { data with body := data.body.map fun body => { body with truncated := mark } } }

/-- The collection with another mark on the body of every item that answers a request. -/
def Collection.remark (mark : Option UInt32) (c : Collection) : Collection :=
  { c with responses := c.responses.map fun answers =>
      ⟨answers.fetch.map (·.map (Item.remark mark))⟩ }

/-- The document with another mark on the body of every item that answers a request. -/
def Sync.remark (mark : Option UInt32) (d : Sync) : Sync :=
  { d with collections := d.collections.map fun cs => ⟨cs.collection.map (·.remark mark)⟩ }

/-- The size above which a request asks the server to cut bodies off. -/
def Sync.truncationSize? (d : Sync) : Option UInt64 :=
  ((d.collection?.bind (·.options)).bind (·.bodyPreference)).bind (·.truncationSize)

variable {mark : Option UInt32} {c : Collection} {response : Sync}

theorem Item.content_remark (item : Item) : (item.remark mark).content = item.content := by
  obtain ⟨id, status, _ | ⟨read, _ | body⟩⟩ := item <;> rfl

theorem Item.read_remark (item : Item) : (item.remark mark).read = item.read := by
  obtain ⟨id, status, _ | data⟩ := item <;> rfl

@[simp] theorem Collection.syncKey_remark : (c.remark mark).syncKey = c.syncKey := rfl

@[simp] theorem Collection.status_remark : (c.remark mark).status = c.status := rfl

theorem Collection.fetched_remark : (c.remark mark).fetched = c.fetched.map (·.remark mark) := by
  unfold fetched remark
  cases c.responses with
  | none => rfl
  | some answers => cases hfetch : answers.fetch <;> simp [hfetch]

@[simp] theorem Sync.status_remark : (response.remark mark).status = response.status := rfl

@[simp] theorem Sync.collection?_remark :
    (response.remark mark).collection? = response.collection?.map (·.remark mark) := by
  unfold collection? remark
  cases response.collections <;> rfl

/-- Marks are nothing that a demand for provisioning is made by. -/
@[simp] theorem Sync.provisioningDemand?_remark :
    (response.remark mark).provisioningDemand? = response.provisioningDemand? := by
  have hstatus : (response.remark mark).collection?.bind (·.status) =
      response.collection?.bind (·.status) := by
    rw [collection?_remark, Option.bind_map]
    rfl
  rw [provisioningDemand?, provisioningDemand?, hstatus, status_remark]

theorem Sync.Accepted.remark (h : response.Accepted c) :
    (response.remark mark).Accepted (c.remark mark) where
  noDemand := provisioningDemand?_remark.trans h.noDemand
  collection := by rw [collection?_remark, h.collection]; rfl
  status := h.status

end Wire

namespace Plan

/-- The step with another mark on the body of every item that answers a request. -/
def Step.remark (mark : Option UInt32) : Step → Step
  | .sent d reply => .sent d (reply.map (·.remark mark))
  | .asked q a => .asked q a

/-! ### The same with other marks -/

variable {α α' β β' : Type} {mark : Option UInt32}

/-- Every run of the first plan is a run of the second with other marks, and ends with the change of
what the first ends with. -/
def Mirrors (mark : Option UInt32) (change : α → α') (p : Plan α) (q : Plan α') : Prop :=
  ∀ ⦃t a⦄, Runs p t a → Runs q (t.map (·.remark mark)) (change a)

theorem Mirrors.done {change : α → α'} (a : α) :
    Mirrors mark change (.done a) (.done (change a)) := by
  intro t b h
  obtain ⟨rfl, rfl⟩ := runs_done_iff.1 h
  exact .done _

theorem Mirrors.ask {change : α → α'} {q : Query} {k : q.Answer → Plan α} {l : q.Answer → Plan α'}
    (h : ∀ x, Mirrors mark change (k x) (l x)) : Mirrors mark change (.ask q k) (.ask q l) := by
  intro t a hruns
  obtain ⟨x, t', rfl, hx⟩ := runs_ask_iff.1 hruns
  exact .ask (h x hx)

theorem Mirrors.send {change : α → α'} {d : Wire.Sync} {k : Except Failure Wire.Sync → Plan α}
    {l : Except Failure Wire.Sync → Plan α'}
    (h : ∀ reply, Mirrors mark change (k reply) (l (reply.map (·.remark mark)))) :
    Mirrors mark change (.send d k) (.send d l) := by
  intro t a hruns
  obtain ⟨reply, t', rfl, hreply⟩ := runs_send_iff.1 hruns
  exact .send (h reply hreply)

theorem Mirrors.bind {change : α → α'} {change' : β → β'} {p : Plan α} {q : Plan α'}
    {f : α → Plan β} {g : α' → Plan β'} (h : Mirrors mark change p q)
    (hf : ∀ a, Mirrors mark change' (f a) (g (change a))) :
    Mirrors mark change' (p >>= f) (q >>= g) := by
  intro t b hruns
  obtain ⟨t₁, t₂, a, rfl, h₁, h₂⟩ := runs_bind_iff.1 hruns
  rw [List.map_append]
  exact (h h₁).bind (hf a h₂)

end Plan

namespace Job

open Plan

variable {α α' β β' : Type} {mark : Option UInt32}

/-- Jobs mirror each other if their parts do. A failure is handed on as it is. -/
theorem mirrors_bind {change : α → α'} {change' : β → β'} {j : Job α} {j' : Job α'}
    {f : α → Job β} {g : α' → Job β'} (h : Mirrors mark (Except.map change) j.run j'.run)
    (hf : ∀ a, Mirrors mark (Except.map change') (f a).run (g (change a)).run) :
    Mirrors mark (Except.map change') (j >>= f).run (j' >>= g).run := by
  refine h.bind fun x => ?_
  cases x with
  | ok a => exact hf a
  | error e => exact .done _

theorem mirrors_liftM {change : α → α'} (x : Except Failure α) :
    Mirrors mark (Except.map change) (liftM x : Job α).run (liftM (x.map change) : Job α').run := by
  cases x with
  | ok a => exact .done _
  | error e => exact .done _

theorem mirrors_provisionThen {change : α → α} {action : Plan (Except Failure α)}
    (h : Mirrors mark (Except.map change) action action) :
    Mirrors mark (Except.map change) (device.provisionThen action)
      (device.provisionThen action) := by
  refine .ask fun x => ?_
  cases x with
  | error e => exact .done _
  | ok key => exact .ask fun _ => h

/-- The gate looks at no marks: it mirrors what its action mirrors. -/
theorem mirrors_ensureProvisioned {change : α → α} {action : Plan (Except Failure α)}
    (h : Mirrors mark (Except.map change) action action) :
    Mirrors mark (Except.map change) (device.ensureProvisioned action)
      (device.ensureProvisioned action) := by
  refine .ask fun held => ?_
  cases held with
  | none => exact mirrors_provisionThen h
  | some key =>
    change Mirrors mark _ (action >>= _) (action >>= _)
    refine h.bind fun x => ?_
    cases x with
    | ok a => exact .done _
    | error e =>
      simp only [Except.map]
      split
      · exact .ask fun _ => mirrors_provisionThen h
      · exact .done _

end Job

namespace Exchange

open Plan

variable {folder : String} {mark : Option UInt32}

theorem materialize_remark {id : String} (item : Wire.Item) :
    materialize folder id (item.remark mark) = materialize folder id item := by
  rw [materialize, item.content_remark, item.read_remark]
  rfl

theorem mirrors_roundTrip (d : Wire.Sync) :
    Mirrors mark (Except.map (·.remark mark)) (roundTrip d).run (roundTrip d).run := by
  refine Job.mirrors_ensureProvisioned (.send fun reply => ?_)
  cases reply with
  | error e => exact .done _
  | ok response =>
    change Mirrors mark _ (Plan.bind (.done (.ok response)) (ExceptT.bindCont _))
      (Plan.bind (.done (.ok (response.remark mark))) (ExceptT.bindCont _))
    simp only [Plan.bind, ExceptT.bindCont, Wire.Sync.provisioningDemand?_remark]
    cases response.provisioningDemand? with
    | none => exact .done _
    | some status => exact .done _

theorem newKey_remark {c : Wire.Collection} :
    newKey folder (c.remark mark) = (newKey folder c).map id := by
  rw [newKey, newKey, Wire.Collection.syncKey_remark]
  cases c.syncKey <;> rfl

theorem mirrors_readKey :
    Mirrors mark (Except.map id) (readKey folder).run (readKey folder).run := by
  refine .ask fun found => ?_
  cases found with
  | error e => exact .done _
  | ok stored => exact .done _

theorem mirrors_writeKey (key : String) :
    Mirrors mark (Except.map id) (writeKey folder key).run (writeKey folder key).run := by
  refine .ask fun outcome => ?_
  cases outcome with
  | error e => exact .done _
  | ok _ => exact .done _

end Exchange

namespace MessageFetch

open Exchange

/-- The item is the first that answers the request for an id. -/
def FirstAnswer (id : String) (items : List Wire.Item) (item : Wire.Item) : Prop :=
  ∃ pre post, items = pre ++ item :: post ∧ (∀ earlier ∈ pre, ¬ Answering id earlier) ∧
    Answering id item

theorem firstAnswer_iff {id : String} {items : List Wire.Item} {item : Wire.Item} :
    FirstAnswer id items item ↔ items.find? (answers id) = some item := by
  have hnot : ∀ earlier, ¬ Answering id earlier ↔ (!answers id earlier) = true := by
    intro earlier
    rw [← answers_iff, Bool.not_eq_true, Bool.not_eq_true']
  simp only [List.find?_eq_some_iff_append, FirstAnswer, hnot, answers_iff]
  constructor
  · rintro ⟨pre, post, hitems, hpre, hitem⟩
    exact ⟨hitem, pre, post, hitems, hpre⟩
  · rintro ⟨hitem, pre, post, hitems, hpre⟩
    exact ⟨pre, post, hitems, hpre, hitem⟩

theorem accepted_remark {id : String} {mark : Option UInt32} {response : Wire.Sync} :
    accepted id (response.remark mark) = (accepted id response).map (·.remark mark) := by
  unfold accepted
  rw [Wire.Sync.collection?_remark, Wire.Sync.status_remark]
  cases response.collection? with
  | none => rfl
  | some c =>
    have hremark : (c.remark mark).status = c.status := rfl
    simp only [Option.map_some]
    by_cases hstatus : c.status = some Wire.statusOk
    · rw [if_pos (hremark.trans hstatus), if_pos hstatus]
      rfl
    · rw [if_neg (hremark ▸ hstatus), if_neg hstatus]
      rfl

/-- The first item that answers is the same but for its mark. -/
theorem find?_remark {id : String} {mark : Option UInt32} (c : Wire.Collection) :
    (c.remark mark).fetched.find? (answers id) =
      (c.fetched.find? (answers id)).map (·.remark mark) := by
  rw [Wire.Collection.fetched_remark, List.find?_map]
  rfl

/-- A fetch does the same whatever marks are on the bodies, and ends with the same message. -/
theorem mirrors_fetch {folder id : String} {mark : Option UInt32} :
    Plan.Mirrors mark (Except.map fun m : Message => m) (fetch folder id) (fetch folder id) := by
  -- only the response and its collection carry marks on from one step to the next
  refine Job.mirrors_bind mirrors_readKey fun key => ?_
  refine Job.mirrors_bind (mirrors_roundTrip _) fun response => ?_
  rw [accepted_remark]
  refine Job.mirrors_bind (Job.mirrors_liftM _) fun c => ?_
  rw [newKey_remark]
  refine Job.mirrors_bind (Job.mirrors_liftM _) fun key' => ?_
  refine Job.mirrors_bind (mirrors_writeKey key') fun _ => ?_
  rw [find?_remark]
  cases c.fetched.find? (answers id) with
  | none => exact .done _
  | some item =>
    simp only [Option.map_some, materialize_remark]
    exact .done _

/-- A fetch that the server accepts and answers, in a folder without a key. -/
theorem runs_found {folder id policyKey key : String} {response : Wire.Sync} {c : Wire.Collection}
    {item : Wire.Item} (hdemand : response.provisioningDemand? = none)
    (hc : accepted id response = .ok c) (hkey : c.syncKey = some key)
    (hitem : c.fetched.find? (answers id) = some item) :
    Plan.Runs (fetch folder id)
      [readStep folder (.ok none), .asked .policyKey (some policyKey),
        .sent (Wire.Sync.fetch folder Wire.initialKey id) (.ok response),
        writeStep folder key (.ok ())]
      (.ok (materialize folder id item)) := by
  refine .ask (Job.runs_bind (runs_roundTrip hdemand) ?_)
  rw [hc]
  refine Job.runs_bind (t := []) (a := c) (.done _) ?_
  rw [newKey, hkey]
  refine Job.runs_bind (t := []) (a := key) (.done _) ?_
  refine Job.runs_bind (j := writeKey folder key) (t := [_]) (a := ()) (.ask (.done _)) ?_
  rw [hitem]
  exact .done _

/-- Every request of a fetch asks for the whole body. -/
theorem fetches_unlimited {folder id : String} {t : List Plan.Step} {r : Except Failure Message}
    (h : Fetches folder id t r) {d : Wire.Sync} {reply : Except Failure Wire.Sync}
    (hsent : .sent d reply ∈ t) : d.truncationSize? = none := by
  cases h with
  | unread e => simp [readStep] at hsent
  | fails h | missing h | found h =>
    obtain hsent | hsent := List.mem_cons.1 hsent
    · cases hsent
    · rw [Account.commits_sends h hsent]
      rfl

end MessageFetch

/-- The server accepts the request of this step, and the item is the first in the response that
answers the request for an id. -/
def Plan.Step.Supplies (id : String) (item : Wire.Item) : Plan.Step → Prop
  | .sent _ (.ok response) => ∃ c, response.Accepted c ∧ MessageFetch.FirstAnswer id c.fetched item
  | _ => False

/-- A server cuts bodies off only where it is asked to: where the request sets no size, no item that
answers it is marked. -/
def Plan.Step.CutsAsAsked : Plan.Step → Prop
  | .sent d (.ok response) => d.truncationSize? = none →
      ∀ c, response.Accepted c → ∀ item ∈ c.fetched, ¬ item.Marked
  | _ => True

namespace Account

open Exchange MessageFetch

/-- The message is built from the item, which one of the steps has supplied. -/
def BuiltFrom (folder id : String) (t : List Plan.Step) (item : Wire.Item) (m : Message) : Prop :=
  (∃ st ∈ t, st.Supplies id item) ∧ m = materialize folder id item

variable {folder id : String} {t : List Plan.Step} {m : Message} {item : Wire.Item}
  {mark : Option UInt32}

theorem mirrors_exclusively {α : Type} {change : α → α} {p : Plan (Except Failure α)}
    (h : Plan.Mirrors mark (Except.map change) p p) :
    Plan.Mirrors mark (Except.map change) (exclusively folder p) (exclusively folder p) := by
  refine .ask fun outcome => ?_
  cases outcome with
  | error e => exact .done _
  | ok guard =>
    change Plan.Mirrors mark _ (p >>= _) (p >>= _)
    exact h.bind fun r => .ask fun _ => .done r

theorem supplies_iff {st : Plan.Step} :
    st.Supplies id item ↔ ∃ d response c, st = .sent d (.ok response) ∧ response.Accepted c ∧
      FirstAnswer id c.fetched item := by
  constructor
  · intro h
    cases st with
    | asked q a => exact h.elim
    | sent d reply =>
      cases reply with
      | error e => exact h.elim
      | ok response =>
        obtain ⟨c, hc, hfirst⟩ := h
        exact ⟨d, response, c, rfl, hc, hfirst⟩
  · rintro ⟨d, response, c, rfl, hc, hfirst⟩
    exact ⟨c, hc, hfirst⟩

/-- Other marks supply the same item but for its mark. -/
theorem supplies_remark {st : Plan.Step} (h : st.Supplies id item) :
    (st.remark mark).Supplies id (item.remark mark) := by
  obtain ⟨d, response, c, rfl, hc, hfirst⟩ := supplies_iff.1 h
  refine ⟨c.remark mark, hc.remark, firstAnswer_iff.2 ?_⟩
  rw [find?_remark, firstAnswer_iff.1 hfirst]
  rfl

theorem BuiltFrom.remark (h : BuiltFrom folder id t item m) :
    BuiltFrom folder id (t.map (·.remark mark)) (item.remark mark) m := by
  obtain ⟨⟨st, hst, hsupplies⟩, rfl⟩ := h
  exact ⟨⟨_, List.mem_map_of_mem hst, supplies_remark hsupplies⟩, (materialize_remark item).symm⟩

/-- Where all responses but one demand provisioning, only this one supplies an item. -/
theorem eq_of_supplies {before after : List Plan.Step} {d : Wire.Sync} {response : Wire.Sync}
    {c : Wire.Collection} (hbefore : AllDemand before) (hafter : ∀ st ∈ after, st.exchange? = none)
    (hc : response.Accepted c) (hfirst : FirstAnswer id c.fetched item) {st : Plan.Step}
    (hst : st ∈ before ++ .sent d (.ok response) :: after) {item' : Wire.Item}
    (hsupplies : st.Supplies id item') : item' = item := by
  obtain ⟨d', response', c', rfl, hc', hfirst'⟩ := supplies_iff.1 hsupplies
  obtain hst | hst := List.mem_append.1 hst
  · exact absurd (hbefore _ _ hst) (not_demands_iff.2 hc'.noDemand)
  obtain hst | hst := List.mem_cons.1 hst
  · cases hst
    cases hc.collection.symm.trans hc'.collection
    exact Option.some.inj ((firstAnswer_iff.1 hfirst').symm.trans (firstAnswer_iff.1 hfirst))
  · cases hafter _ hst

/-- A fetch that ends well has been supplied with one item, and builds its message from it. -/
theorem exists_builtFrom (h : Plan.Runs (Account.fetch folder id) t (.ok m)) :
    ∃ item, BuiltFrom folder id t item m ∧
      ∀ st ∈ t, ∀ item', st.Supplies id item' → item' = item := by
  obtain ⟨e, -, hr⟩ | ⟨guard, t', rfl, hbody⟩ := course_of_runs (o := .fetch folder id) h
  · cases hr
  cases fetches_of_runs hbody with
  | @found stored c key _ item hcommits hitem =>
    cases hcommits with
    | @stored t' response _ _ htrip hcheck hkey =>
      obtain ⟨before, ht, hbefore, -⟩ := trip_split folder (.ok stored) htrip
      obtain ⟨hc, hstatus⟩ := collection_of_accepted hcheck
      have haccepted : response.Accepted c := ⟨(htrip.ends rfl).1, hc, hstatus⟩
      have hfirst := firstAnswer_iff.2 hitem
      rw [ht, List.append_assoc, ← List.cons_append]
      refine ⟨item, ⟨⟨_, List.mem_append_right _ List.mem_cons_self, c, haccepted, hfirst⟩, rfl⟩,
        fun st hst item' => eq_of_supplies (allDemand_asked.2 hbefore) ?_ haccepted hfirst hst⟩
      simp [writeStep, Plan.Step.exchange?]

theorem fetch_unlimited {r : Except Failure Message} (h : Plan.Runs (Account.fetch folder id) t r)
    {d : Wire.Sync} {reply : Except Failure Wire.Sync} (hsent : .sent d reply ∈ t) :
    d.truncationSize? = none := by
  obtain ⟨e, rfl, -⟩ | ⟨guard, t', rfl, hbody⟩ := course_of_runs (o := .fetch folder id) h
  · simp at hsent
  · exact fetches_unlimited (fetches_of_runs hbody) (by simpa using hsent)

/-- A server that cuts bodies off only where it is asked to supplies a fetch with whole ones. -/
theorem not_marked_of_cutsAsAsked {st : Plan.Step} (hcuts : st.CutsAsAsked)
    (hunlimited : ∀ d reply, st = .sent d reply → d.truncationSize? = none)
    (hsupplies : st.Supplies id item) : ¬ item.Marked := by
  obtain ⟨d, response, c, rfl, hc, pre, post, hitems, -, -⟩ := supplies_iff.1 hsupplies
  refine hcuts (hunlimited d _ rfl) c hc item ?_
  rw [hitems]
  exact List.mem_append_right _ List.mem_cons_self

/-- **When a fetched message is whole**: a fetch that ends well builds its message from one item,
whose body is unmarked if and only if no item that supplies the fetch is marked as truncated. That
is so whenever the server cuts bodies off only as it is asked to, since a fetch never asks for it.
The message does not tell: with any other mark on the bodies, the fetch takes the same steps and
ends with the same message. -/
theorem fetched_whole_iff (h : Plan.Runs (Account.fetch folder id) t (.ok m)) :
    ∃ item, BuiltFrom folder id t item m ∧
      (∀ item', BuiltFrom folder id t item' m → item' = item) ∧
      (¬ item.Marked ↔ ∀ st ∈ t, ∀ item', st.Supplies id item' → ¬ item'.Marked) ∧
      ((∀ st ∈ t, st.CutsAsAsked) → ¬ item.Marked) ∧
      ∀ mark, Plan.Runs (Account.fetch folder id) (t.map (·.remark mark)) (.ok m) ∧
        BuiltFrom folder id (t.map (·.remark mark)) (item.remark mark) m := by
  obtain ⟨item, hbuilt, honly⟩ := exists_builtFrom h
  obtain ⟨st, hst, hsupplies⟩ := hbuilt.1
  refine ⟨item, hbuilt, ?_, ?_, ?_,
    fun mark => ⟨mirrors_exclusively mirrors_fetch h, hbuilt.remark⟩⟩
  · rintro item' ⟨⟨st', hst', hsupplies'⟩, -⟩
    exact honly st' hst' item' hsupplies'
  · constructor
    · intro hwhole st' hst' item' hsupplies'
      rwa [honly st' hst' item' hsupplies']
    · exact fun hwhole => hwhole st hst item hsupplies
  · intro hcuts
    refine not_marked_of_cutsAsAsked (hcuts st hst) ?_ hsupplies
    rintro d reply rfl
    exact fetch_unlimited h hst

/-- The steps of a fetch that the server answers with one item. -/
def fetchSteps (folder id : String) (item : Wire.Item) : List Plan.Step :=
  [.asked (.acquire folder) (.ok ⟨folder⟩), readStep folder (.ok none),
    .asked .policyKey (some "P"),
    .sent (Wire.Sync.fetch folder Wire.initialKey id) (.ok (.answering "1" [item])),
    writeStep folder "1" (.ok ()), .asked (.release ⟨folder⟩) ()]

/-- Whatever item answers the request, a fetch builds its message from it. -/
theorem runs_fetch (folder id : String) (item : Wire.Item) (h : Answering id item) :
    Plan.Runs (Account.fetch folder id) (fetchSteps folder id item)
        (.ok (materialize folder id item)) ∧
      BuiltFrom folder id (fetchSteps folder id item) item (materialize folder id item) := by
  have hfirst : FirstAnswer id [item] item := ⟨[], [], rfl, nofun, h⟩
  constructor
  · refine runs_plan (o := .fetch folder id) (runs_found rfl rfl rfl ?_)
    exact firstAnswer_iff.1 hfirst
  · have hsent : Plan.Step.Supplies id item
        (.sent (Wire.Sync.fetch folder Wire.initialKey id) (.ok (.answering "1" [item]))) :=
      ⟨_, ⟨rfl, rfl, rfl⟩, hfirst⟩
    exact ⟨⟨_, by simp [fetchSteps], hsent⟩, rfl⟩

/-- A body without a mark makes a message that is whole, and one with the mark makes the same. -/
theorem fetched_whole_unmarked : ∃ t m item, Plan.Runs (Account.fetch "inbox" "5:1") t (.ok m) ∧
    BuiltFrom "inbox" "5:1" t item m ∧ ¬ item.Marked ∧ (item.remark (some 1)).Marked ∧
    Plan.Runs (Account.fetch "inbox" "5:1") (t.map (·.remark (some 1))) (.ok m) := by
  let whole : Wire.Item := { applicationData := some { body := some { data := some "AB" } } }
  obtain ⟨hruns, hbuilt⟩ := runs_fetch "inbox" "5:1" whole ⟨.inl rfl, .inl rfl⟩
  obtain ⟨item, -, honly, -, -, hmarks⟩ := fetched_whole_iff hruns
  cases honly whole hbuilt
  exact ⟨_, _, whole, hruns, hbuilt, nofun, rfl, (hmarks (some 1)).1⟩

/-- A fetch takes a body that is marked as truncated for the whole message. -/
theorem fetch_takes_truncated : ¬ ∀ folder id t m item,
    Plan.Runs (Account.fetch folder id) t (.ok m) → BuiltFrom folder id t item m →
      ¬ item.Marked := by
  intro hwhole
  let cut : Wire.Item :=
    { applicationData := some { body := some { truncated := some 1, data := some "A" } } }
  obtain ⟨hruns, hbuilt⟩ := runs_fetch "inbox" "5:1" cut ⟨.inl rfl, .inl rfl⟩
  exact hwhole _ _ _ _ _ hruns hbuilt rfl

end Account

end MailSync
