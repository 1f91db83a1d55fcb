import MailSync.Proofs.Tenure

/-!
# What a fetch leaves out

A fetch moves the sync key of its folder to that of the response, and stores nothing else. The server
takes the new key for everything that the response has brought, so an item that the response adds to
the folder besides the message asked for is passed over: no later sync brings it.

* `Account.Session.Tenure.messages` : while a fetch has its folder, the messages of the folder stay as
  they are, whatever is done on other folders.
* `Account.fetch_keeps_added_iff` : the added items are stored when a fetch ends if and only if they
  have been when it began.
* `Account.fetch_passes_added_over` : a fetch by which an item is lost.
-/

namespace MailSync

namespace Account

open Exchange

namespace Session

variable {b₀ b b' b'' : Session} {τ τ' : List Event} {o : Operation} {s s' : Shared} {t : Task}
  {ts : List Task}

/-- The store has a message for an item of a folder. -/
def Has (b : Session) (folder : String) (item : Wire.Item) : Prop :=
  ∃ id m, item.serverId = some id ∧ b.shared.store.get folder id = .ok (some m)

/-- An answer changes no messages of a folder but by a save in that folder. -/
theorem get_of_answers {q : Query} {a : q.Answer} (h : Answers s q a s') {f : String}
    (hsave : ∀ m complete, q = .save m complete → m.folder ≠ f) (id : String) :
    s'.store.get f id = s.store.get f id := by
  have hstore : s'.store = s.store.replay [.asked q a] := h.store_eq
  rw [hstore]
  refine (Store.get_replay fun m hm hplace => ?_).1
  obtain ⟨st, hst, hsaved⟩ := List.mem_filterMap.1 hm
  rw [List.mem_singleton.1 hst] at hsaved
  cases eq_asked_of_saved? hsaved
  exact hsave _ _ rfl (congrArg Prod.fst hplace)

/-- While a fetch has its folder, the messages of the folder stay as they are, if nobody changes them
from outside. -/
theorem Tenure.messages (h : b.Tenure o τ' b') (hidle : b₀.Idle) (hrun : b₀.Run τ b)
    (hfetch : o.isSync = false) (houtside : .outside ∉ τ') (id : String) :
    b'.shared.store.get o.folder id = b.shared.store.get o.folder id := by
  induction h with
  | takes hm =>
    cases hm with
    | asks hrest ha => exact get_of_answers ha (fun _ _ h => by cases h) id
  | @moves τ' b₁ b₂ e h hm hactive ih =>
    have hbefore := ih fun hmem => houtside (List.mem_append_left _ hmem)
    have hrun₁ := h.run hrun
    cases hm with
    | starts | sends | hears | returns => exact hbefore
    | outside => exact absurd (List.mem_append_right _ List.mem_cons_self) houtside
    | @asks s s' t ts q k a hrest ha =>
      refine (get_of_answers ha (fun m complete hq hfolder => ?_) id).trans hbefore
      -- a message of the folder could only come from the fetch itself, which saves none
      subst hq
      have hcourse := hrun₁.onCourse hidle t List.mem_cons_self
      have hself := (hrun₁.cursor_sound hidle).saving (.asks hrest ha)
      have hworks : t.works = true := hcourse.works_of_ask hrest nofun
      have howns := h.owns hidle hrun t List.mem_cons_self hworks (hself.symm.trans hfolder)
      have hordered : InOrder t.operation.isSync t.folder t.past (.asked (.save m complete) a) :=
        (hcourse.ask hrest a).inOrder List.suffix_rfl
      rw [howns.operation, hfetch] at hordered
      exact Bool.false_ne_true hordered.1

end Session

variable {b₀ b b' b'' : Session} {τ τ' : List Event} {folder id : String} {key : String} {t : Task}
  {ts : List Task}

/-- **A fetch passes added items over**: whenever a fetch has replaced the sync key of its folder,
that is the key of an accepted response, and when the fetch gives its folder back, all items that the
response adds are stored if and only if they have been when the fetch took the folder. -/
theorem fetch_keeps_added_iff (hidle : b₀.Idle) (hrun : b₀.Run τ b)
    (h : b.Tenure (.fetch folder id) τ' b') (houtside : .outside ∉ τ') (htasks : b'.tasks = t :: ts)
    (hkey : keyWritten? folder t.past = some key)
    (hm : b'.Moves (.takes (.fetch folder id) (.asked (.release ⟨folder⟩) ())) b'') :
    b''.syncKey? folder = some key ∧ ∃ d response c, .sent d (.ok response) ∈ t.past ∧
      response.Accepted c ∧ c.syncKey = some key ∧
      ((∀ item ∈ c.added, b''.Has folder item) ↔ ∀ item ∈ c.added, b.Has folder item) := by
  obtain ⟨s, tasks⟩ := b'
  obtain ⟨o, past, rest, waiting⟩ := t
  cases htasks
  have hrun' := h.run hrun
  have hcourse := hrun'.onCourse hidle _ List.mem_cons_self
  -- the key has been stored in its order, after the response that has brought it
  obtain ⟨st, hst, hwrites⟩ := List.exists_of_findSome?_eq_some hkey
  cases eq_asked_of_writes? hwrites
  obtain ⟨later, before, hpast⟩ := List.append_of_mem hst
  have hsuffix : writeStep folder key (.ok ()) :: before <:+ past := ⟨later, hpast.symm⟩
  obtain ⟨-, -, -, d, c, ⟨response, hlatest, haccepted⟩, hckey, -⟩ := hcourse.inOrder hsuffix
  have hsent : .sent d (.ok response) ∈ past := by
    obtain ⟨st, hst, hexchange⟩ := List.exists_of_findSome?_eq_some hlatest
    rw [eq_sent_of_exchange? hexchange] at hst
    exact hsuffix.subset (List.mem_cons_of_mem _ ((List.takeWhile_sublist _).subset hst))
  have hmessages := h.messages hidle hrun rfl houtside
  cases hm with
  | asks hrest ha =>
    cases ha
    have hworks := hcourse.works_of_ask hrest nofun
    refine ⟨hrun'.keyWritten hidle _ List.mem_cons_self hworks key hkey, d, response, c, hsent,
      haccepted, hckey, forall₂_congr fun item _ => exists₂_congr fun id m => ?_⟩
    exact and_congr_right fun _ => Eq.congr_left (hmessages id)

/-- The response that accepts a fetch, answers with an item and adds another one. -/
def pendingReply : Wire.Sync :=
  .ofCollection
    { syncKey := some "1", status := some Wire.statusOk,
      commands := some { add := some [{ serverId := some "5:2" }] },
      responses := some { fetch := some [{}] } }

/-- The session in which the item that `pendingReply` adds is stored already. -/
def Session.knowing : Session :=
  ⟨⟨.table (Store.Table.empty.save (materialize "inbox" "5:2" {}) true), .empty, some "P"⟩, []⟩

/-- Where the added item has been stored before, it is still there when the fetch ends. -/
theorem fetch_keeps_added_iff_known : ∃ τ b, ∃ response : Wire.Sync, ∃ c,
    Session.knowing.Run τ b ∧ response.Accepted c ∧ b.syncKey? "inbox" = c.syncKey ∧
      ∀ item ∈ c.added, b.Has "inbox" item := by
  have start := Session.Run.nil.snoc
    (@Session.Moves.starts Session.knowing.shared [] (.fetch "inbox" "5:1"))
  have acquire : Session.Tenure ⟨Session.knowing.shared, [Task.start (.fetch "inbox" "5:1")]⟩
      (.fetch "inbox" "5:1") [] _ := .takes (.asks rfl (.acquire rfl))
  have read := acquire.moves (.asks rfl (.read _ _ _)) List.mem_cons_self
  have hold := read.moves (.asks rfl (.policyKey _)) List.mem_cons_self
  have send := hold.moves (.sends rfl rfl) List.mem_cons_self
  have hear := send.moves (.hears (.ok pendingReply) rfl rfl) List.mem_cons_self
  have write := hear.moves (.asks rfl (.write _ _ _ _)) List.mem_cons_self
  have release := (write.run start).snoc (.asks rfl (.release _ _))
  have hidle : Session.knowing.Idle := ⟨rfl, rfl⟩
  obtain ⟨hkey, d, response, c, hsent, hc, hckey, hiff⟩ := fetch_keeps_added_iff hidle start write
    (by simp) rfl rfl (.asks rfl (.release _ _))
  obtain ⟨-, rfl⟩ : _ ∧ response = pendingReply := by
    simpa [Task.start, Task.take, Task.wait] using hsent
  refine ⟨_, _, pendingReply, c, release, hc, hkey.trans hckey.symm, hiff.2 fun item hitem => ?_⟩
  cases hc.collection
  obtain rfl := List.mem_singleton.1 hitem
  exact ⟨"5:2", _, rfl, rfl⟩

/-- A fetch by which an item is lost: the response adds it and leads to the key "1", which is stored
when the fetch has ended, and the item is not. -/
theorem fetch_passes_added_over : ∃ τ b t d response c item, Session.fresh.Run τ b ∧
    b.tasks = [t] ∧ t.operation = .fetch "inbox" "5:1" ∧ (∃ r, t.rest = .done r) ∧
    .sent d (.ok response) ∈ t.past ∧ response.Accepted c ∧ c.syncKey = some "1" ∧
    b.syncKey? "inbox" = some "1" ∧ item ∈ c.added ∧ ¬ b.Has "inbox" item := by
  have start := Session.Run.nil.snoc
    (@Session.Moves.starts Session.fresh.shared [] (.fetch "inbox" "5:1"))
  have acquire := start.snoc (.asks rfl (.acquire rfl))
  have read := acquire.snoc (.asks rfl (.read _ _ _))
  have hold := read.snoc (.asks rfl (.policyKey _))
  have send := hold.snoc (.sends rfl rfl)
  have hear := send.snoc (.hears (.ok pendingReply) rfl rfl)
  have write := hear.snoc (.asks rfl (.write _ _ _ _))
  have release := write.snoc (.asks rfl (.release _ _))
  refine ⟨_, _, _, Wire.Sync.fetch "inbox" "0" "5:1", pendingReply, _, { serverId := some "5:2" },
    release, rfl, rfl, ⟨_, rfl⟩, ?_, ⟨rfl, rfl, rfl⟩, rfl, rfl, List.mem_singleton.2 rfl, ?_⟩
  · exact List.mem_cons_of_mem _ (List.mem_cons_of_mem _ List.mem_cons_self)
  · rintro ⟨id, m, hid, hget⟩
    cases hid
    cases hget

end Account

end MailSync
