import MailSync.Proofs.Cursor

/-!
# Exactly-once delivery

A faithful server keeps a folder as a list of items that only grows at its end, and every sync key
stands for a position in that list. Whatever fails between such a server and the store, saving a
message excepted, the messages saved for the folder are those up to the position of the stored key,
each once and in order.

* `Account.body_delivers` : every operation on the folder leaves it so, however it ends.
* `Account.delivered_exactly_once` : so it is in every session, whenever no operation on the folder
  is in progress.
-/

namespace MailSync

/-- A folder as a faithful server keeps it. -/
structure Mailbox where
  /-- The items of the folder, the oldest first. Later ones may not be there yet. -/
  items : List Wire.Item
  hasIds : ∀ item ∈ items, item.serverId ≠ none
  /-- How many items a sync key has passed. -/
  position : String → Nat
  position_initialKey : position Wire.initialKey = 0

namespace Mailbox

/-- A window of changes from one key to another, while the first `n` items of the mailbox are
there. -/
structure Window (M : Mailbox) (n : Nat) (key key' : String) (size : Nat) (c : Wire.Collection) :
    Prop where
  there : n ≤ M.items.length
  forward : M.position key ≤ M.position key'
  notBeyond : M.position key' ≤ n
  fits : M.position key' - M.position key ≤ size
  progress : M.position key = n ∨ M.position key < M.position key'
  added : c.added = (M.items.drop (M.position key)).take (M.position key' - M.position key)
  hasMore : c.hasMore = true ↔ M.position key' < n

/-- The reply to a request is what a faithful server sends if it accepts the request. -/
def Serves (M : Mailbox) (request reply : Wire.Collection) : Prop :=
  ∃ key key', request.syncKey = some key ∧ reply.syncKey = some key' ∧ key' ≠ Wire.initialKey ∧
    match request.windowSize, request.commands with
    | some size, _ => ∃ n, M.Window n key key' size.toNat reply
    | none, some _ => M.position key' = M.position key ∧ reply.added = []
    | none, none => key = Wire.initialKey → M.position key' = 0

end Mailbox

namespace Account

open Exchange FolderSync

variable {M : Mailbox} {folder : String} {v : View}

/-- The messages saved, and those that the given items are still to make, are those of the items up
to the position of the stored key. -/
structure View.Owes (M : Mailbox) (folder : String) (items : List Wire.Item) (v : View) : Prop where
  there : M.position v.key ≤ M.items.length
  saved : Outstanding folder v.saved items (M.items.take (M.position v.key))

/-- The server is faithful in what it accepts, and no message fails to be saved. -/
def Faithful (M : Mailbox) : Plan.Step → Prop
  | .sent d (.ok response) =>
    ∀ c, response.Accepted c → ∃ request, d.collection? = some request ∧ M.Serves request c
  | .asked (.save _ _) (.error _) => False
  | _ => True

/-- Operations on the folder meet a faithful server. -/
def delivery (M : Mailbox) (folder g : String) : Plan.Contract View where
  maySend _ _ := True
  mayAsk _ q := q.Within g
  admits v st := v.Agrees g st ∧ (g = folder → Faithful M st)
  after := View.after

theorem delivery_lenient (g : String) : (delivery M folder g).Lenient where
  mayAsk v q hq := by cases q <;> trivial
  after v q a hq := by cases q <;> first | rfl | cases hq

/-- What a faithful server accepts leads from the key of the request to that of the reply. -/
theorem served {d response : Wire.Sync} {request c : Wire.Collection} {key key' : String}
    (hr : Faithful M (.sent d (.ok response))) (hc : response.Accepted c)
    (hd : d.collection? = some request) (hkey : request.syncKey = some key)
    (hkey' : c.syncKey = some key') :
    match request.windowSize, request.commands with
    | some size, _ => ∃ n, M.Window n key key' size.toNat c
    | none, some _ => M.position key' = M.position key ∧ c.added = []
    | none, none => key = Wire.initialKey → M.position key' = 0 := by
  obtain ⟨request', hrequest, key₁, key₂, hkey₁, hkey₂, -, h⟩ := hr c hc
  obtain rfl := Option.some.inj (hd.symm.trans hrequest)
  obtain rfl := Option.some.inj (hkey.symm.trans hkey₁)
  obtain rfl := Option.some.inj (hkey'.symm.trans hkey₂)
  exact h

/-- The items up to a position and those of a window from there are the items up to the window's
end. -/
theorem take_append_added {key key' : String} {n size : Nat} {c : Wire.Collection}
    (h : M.Window n key key' size c) :
    M.items.take (M.position key) ++ c.added = M.items.take (M.position key') := by
  have hadd : M.position key + (M.position key' - M.position key) = M.position key' := by
    have := h.forward
    omega
  rw [h.added, ← List.take_add, hadd]

/-- An item that is still owed has an id. -/
theorem serverId_of_owes {item : Wire.Item} {rest : List Wire.Item}
    (h : v.Owes M folder (item :: rest)) : item.serverId ≠ none := by
  intro hnone
  obtain ⟨other, hother, hnone'⟩ := h.saved.exists_serverId_eq_none hnone
  exact M.hasIds other (List.mem_of_mem_take hother) hnone'

/-- A save pays one item off. -/
theorem owes_save {item : Wire.Item} {rest : List Wire.Item} {id : String}
    (h : v.Owes M folder (item :: rest)) (hid : item.serverId = some id) :
    (v.after (.asked (.save (materialize folder id item) (!item.truncated)) (.ok ()))).Owes M folder
      rest :=
  ⟨h.there, h.saved.save hid⟩

/-- The key of a window is stored, and the items of the window are owed. -/
theorem owes_window {key key' : String} {n size : Nat} {c : Wire.Collection} {v' : View}
    (h : v.Owes M folder []) (hkey : v.key = key) (hc : M.Window n key key' size c)
    (hsaved : v'.saved = v.saved) (hkey' : v'.key = key') : v'.Owes M folder c.added := by
  constructor
  · rw [hkey']
    exact Nat.le_trans hc.notBeyond hc.there
  · have hitems := h.saved.append c.added
    rw [hkey, take_append_added hc] at hitems
    rw [hsaved, hkey']
    exact hitems

/-- A key for the same position is stored. -/
theorem owes_same {items : List Wire.Item} {v' : View} (h : v.Owes M folder items)
    (hsaved : v'.saved = v.saved) (hkey : M.position v'.key = M.position v.key) :
    v'.Owes M folder items := by
  constructor
  · rw [hkey]
    exact h.there
  · rw [hsaved, hkey]
    exact h.saved

/-! ### Operations on the folder -/

theorem delivers_readKey (h : v.Owes M folder []) :
    Job.Keeps (delivery M folder folder) (fun key v => v.key = key ∧ v.Owes M folder [])
      (fun _ v => v.Owes M folder []) (readKey folder) v := by
  refine keeps_readKey trivial (fun value hvalue => ⟨?_, h⟩) fun _ _ _ => h
  rw [hvalue.1 rfl rfl]
  rfl

/-- The items that the folder is owed once a key has been stored are those that are owed at that
key. -/
theorem delivers_writeKey {key : String} {items : List Wire.Item} (h : v.Owes M folder [])
    (hitems : ∀ v' : View, v'.saved = v.saved → v'.key = key → v'.Owes M folder items) :
    Job.Keeps (delivery M folder folder) (fun _ v => v.key = key ∧ v.Owes M folder items)
      (fun _ v => v.Owes M folder []) (writeKey folder key) v := by
  refine keeps_writeKey ⟨rfl, rfl⟩ (fun _ => ?_) fun _ _ _ => h
  have hafter : (delivery M folder folder).after v
      (.asked (.writeExtra folder Store.syncKeyName key) (.ok ())) =
        { v with stored := some key } := by
    simp [delivery, View.after]
  rw [hafter]
  exact ⟨rfl, hitems _ rfl rfl⟩

theorem delivers_deliverAll {key : String} {items : List Wire.Item} (hkey : v.key = key)
    (h : v.Owes M folder items) :
    Job.Keeps (delivery M folder folder) (fun _ v => v.key = key ∧ v.Owes M folder [])
      (fun _ v => v.Owes M folder []) (deliverAll folder items) v := by
  refine keeps_deliverAll (I := fun items (v : View) => v.key = key ∧ v.Owes M folder items)
    ⟨hkey, h⟩ fun item rest v hv => ?_
  refine keeps_deliver (delivery_lenient folder)
    (fun hnone _ => absurd hnone (serverId_of_owes hv.2)) fun id hid => ?_
  refine ⟨folder_materialize folder id item, fun r hr => ?_⟩
  cases r with
  | ok _ => exact ⟨hv.1, owes_save hv.2 hid⟩
  | error e => exact (hr.2 rfl).elim

/-- A reply changes neither the stored key nor what has been saved. -/
theorem owes_sent {d : Wire.Sync} {r : Except Failure Wire.Sync} {items : List Wire.Item}
    (h : v.Owes M folder items) : (v.after (.sent d r)).Owes M folder items :=
  owes_same h rfl rfl

/-- A window of a faithful server is owed once its key is stored. -/
theorem delivers_window {key : String} {size : Nat} {maxBody : UInt64} (hkey : v.key = key)
    (h : v.Owes M folder []) :
    Job.Keeps (delivery M folder folder)
      (fun p v => v.key = p.2 ∧ v.Owes M folder p.1.added) (fun _ v => v.Owes M folder [])
      (advance folder (Wire.Sync.window folder key size maxBody)) v := by
  refine keeps_advance (delivery_lenient folder) (J := fun v => v.key = key ∧ v.Owes M folder [])
    ⟨hkey, h⟩ (fun _ _ => trivial) (fun v r hv _ => ⟨hv.1, owes_sent hv.2⟩)
    (fun _ v hv => hv.2) fun v response c key' hv hr hc hkey' => ?_
  obtain ⟨n, hwindow⟩ := served (hr.2 rfl) hc rfl rfl hkey'
  exact delivers_writeKey (owes_sent hv.2)
    fun v' hsaved hkey' => owes_window hv.2 hv.1 hwindow hsaved hkey'

/-- A handshake of a faithful server leads to the beginning. -/
theorem delivers_handshake (hkey : v.key = Wire.initialKey) (h : v.Owes M folder []) :
    Job.Keeps (delivery M folder folder)
      (fun p v => v.key = p.2 ∧ v.Owes M folder []) (fun _ v => v.Owes M folder [])
      (advance folder (Wire.Sync.handshake folder Wire.initialKey)) v := by
  refine keeps_advance (delivery_lenient folder)
    (J := fun v => v.key = Wire.initialKey ∧ v.Owes M folder [])
    ⟨hkey, h⟩ (fun _ _ => trivial) (fun v r hv _ => ⟨hv.1, owes_sent hv.2⟩)
    (fun _ v hv => hv.2) fun v response c key' hv hr hc hkey' => ?_
  have hposition : M.position key' = 0 := served (hr.2 rfl) hc rfl rfl hkey' rfl
  refine delivers_writeKey (owes_sent hv.2) fun v' hsaved hkey' => owes_same hv.2 hsaved ?_
  rw [hkey', hv.1, hposition, M.position_initialKey]

theorem delivers_sync (config : SyncConfig) (cancellable : Bool) (h : v.Owes M folder []) :
    Plan.Keeps (delivery M folder folder)
      (Job.Ends (fun _ v => v.Owes M folder []) fun _ v => v.Owes M folder [])
      (FolderSync.sync folder config cancellable) v := by
  have hC : (delivery M folder folder).Lenient := delivery_lenient folder
  refine keeps_sync hC (keeps_pull hC (I := fun key _ v => v.key = key ∧ v.Owes M folder [])
    (delivers_readKey h) (fun v hv => delivers_handshake hv.1 hv.2) ?_
    (fun _ _ _ hv => ⟨hv.2, hv.2⟩) fun _ _ _ _ hv => hv.2)
  intro key stats v hv _
  exact (delivers_window hv.1 hv.2).mono (fun p v hv => delivers_deliverAll hv.1 hv.2)
    fun _ _ h => h

theorem delivers_fetch (id : String) (h : v.Owes M folder []) :
    Plan.Keeps (delivery M folder folder)
      (Job.Ends (fun _ v => v.Owes M folder []) fun _ v => v.Owes M folder [])
      (MessageFetch.fetch folder id) v := by
  refine MessageFetch.keeps_fetch (delivery_lenient folder)
    (J := fun key v => v.key = key ∧ v.Owes M folder []) (delivers_readKey h)
    (fun _ _ _ => trivial) (fun key v r hv _ => ⟨hv.1, owes_sent hv.2⟩) (fun _ _ _ hv => hv.2)
    fun key v response c key' hv hr hc hkey' => ?_
  obtain ⟨hposition, -⟩ := served (hr.2 rfl) hc rfl rfl hkey'
  refine (delivers_writeKey (owes_sent hv.2) fun v' hsaved hkey' => owes_same hv.2 hsaved ?_).mono
    (fun _ _ hv => ⟨fun _ => hv.2, fun _ => hv.2⟩) fun _ _ h => h
  rw [hkey', hv.1, hposition]

/-- Every operation on the folder leaves what has been saved and the stored key in step. -/
theorem body_delivers (o : Operation) (h : v.Owes M o.folder []) :
    o.body.Keeps (delivery M o.folder o.folder) (fun _ v => v.Owes M o.folder []) v := by
  have hends : ∀ {α : Type} (r : Except Failure α) (v : View),
      Job.Ends (fun _ v => v.Owes M o.folder []) (fun _ v => v.Owes M o.folder []) r v →
        v.Owes M o.folder [] := by
    intro α r v hr
    cases r with
    | ok a => exact hr
    | error e => exact hr
  cases o with
  | sync folder config => exact (delivers_sync config false h).mono hends
  | syncCancellable folder config => exact (delivers_sync config true h).mono hends
  | fetch folder id => exact (delivers_fetch id h).mono hends

/-- What has been saved for the folder and its stored key are in step while no operation works on
it. -/
def delivering (M : Mailbox) (folder : String) : Discipline where
  contract := delivery M folder
  settled g v := g = folder → v.Owes M folder []
  after _ := rfl
  within _ _ _ h := h
  restart _ _ h hg := owes_same (h hg) rfl rfl
  keeps o v h _ := by
    -- operations on other folders keep at least to those folders
    by_cases hg : o.folder = folder
    · subst hg
      exact (body_delivers o (h rfl)).mono fun _ _ h _ => h
    · have hbody : o.body.Keeps (delivery M folder o.folder) (fun _ _ => True) v :=
        (body_coherent o v).weaken rfl (fun _ _ _ => trivial) (fun _ _ h => within_of_coherence h)
          fun _ _ h => h.1
      exact hbody.mono fun _ _ _ heq => absurd heq hg

variable {b₀ b : Session} {τ : List Event}

/-- **Every message is delivered exactly once**: against a faithful server, whatever else fails, the
messages saved for a folder are those of the first items of the mailbox, in order, up to the
position of the stored sync key, whenever no operation on the folder is in progress. -/
theorem delivered_exactly_once (M : Mailbox) (folder : String) (hidle : b₀.Idle)
    (hnone : b₀.syncKey? folder = none) (hrun : b₀.Run τ b)
    (hfaithful : ∀ o st, .takes o st ∈ τ → o.folder = folder → Faithful M st)
    (hdone : ∀ t ∈ b.tasks, t.folder ≠ folder) :
    ∃ p, p = M.position ((b.syncKey? folder).getD Wire.initialKey) ∧ p ≤ M.items.length ∧
      (savedIn folder τ).map some = (M.items.take p).map (·.delivery folder) := by
  have hsettled : ∀ f, (delivering M folder).settled f ⟨b₀.syncKey? f, none, []⟩ := by
    rintro f rfl
    have hstart : M.position (View.key ⟨b₀.syncKey? f, none, []⟩) = 0 := by
      rw [View.key, hnone]
      exact M.position_initialKey
    refine ⟨?_, ?_⟩
    · rw [hstart]
      exact Nat.zero_le _
    · rw [hstart]
      rfl
  have hreckons : ∀ e ∈ τ, (delivering M folder).Reckons e := by
    intro e he
    cases e with
    | takes o st => exact fun v hv => ⟨hv, hfaithful o st he⟩
    | _ => trivial
  have hsound := Discipline.sound hidle hsettled hrun hreckons
  -- a folder in work is that of an operation in progress
  have hfree : folder ∉ b.shared.locks.active := by
    rw [hsound.active]
    intro hmem
    obtain ⟨t, ht, -, hfolder⟩ := mem_foldersAtWork.1 hmem
    exact hdone t ht hfolder
  have howes := hsound.settled folder hfree rfl
  have hsaved := howes.saved
  rw [Discipline.view_saved hidle hsettled hrun hreckons] at hsaved
  refine ⟨_, rfl, ?_, ?_⟩
  · rw [← hsound.stored]
    exact howes.there
  · rw [← hsound.stored]
    exact Outstanding.nil_iff.1 hsaved

/-- A mailbox with one item, a key before it and one after it. -/
def oneItemMailbox : Mailbox where
  items := [{ serverId := some "5:1" }]
  hasIds := by simp
  position key := if key = "2" then 1 else 0
  position_initialKey := rfl

theorem oneItemMailbox_faithful (r : Except Failure SyncStats) :
    ∀ st ∈ firstSyncSteps "inbox" "P" ⟨1, 0⟩ "5:1" { serverId := some "5:1" } (.ok ()) r,
      Faithful oneItemMailbox st := by
  simp only [firstSyncSteps, advanceSteps, deliverSteps, List.cons_append, List.nil_append,
    List.forall_mem_cons, List.not_mem_nil, false_implies, implies_true, Faithful, and_true,
    true_and]
  constructor
  · intro c hc
    obtain rfl := Option.some.inj hc.collection
    exact ⟨_, rfl, "0", "1", rfl, rfl, by decide, fun _ => rfl⟩
  · intro c hc
    obtain rfl := Option.some.inj hc.collection
    refine ⟨_, rfl, "1", "2", rfl, rfl, by decide, 1, ?_⟩
    constructor
    all_goals decide

/-- The first sync of a mailbox with one item delivers the item. -/
theorem first_sync_delivers :
    ∃ τ b, Session.fresh.Run τ b ∧ b.syncKey? "inbox" = some "2" ∧
      (savedIn "inbox" τ).map some = oneItemMailbox.items.map (·.delivery "inbox") := by
  have hruns : ∃ r, Plan.Runs (FolderSync.sync "inbox" ⟨1, 0⟩ false)
      (firstSyncSteps "inbox" "P" ⟨1, 0⟩ "5:1" { serverId := some "5:1" } (.ok ()) r) r :=
    runs_first_sync (by decide) rfl _
  obtain ⟨r, hr⟩ := hruns
  have hstart : Session.fresh.Run [] ⟨Session.fresh.shared, []⟩ := .nil
  have hrun := hstart.performs (runs_plan (o := .sync "inbox" ⟨1, 0⟩) hr)
    (.asked (.acquire rfl) <| .asked (.notify _ _) <| .asked (.read _ _ _) <|
      .asked (.policyKey _) <| .sent _ _ <| .asked (.write _ _ _ _) <| .asked (.policyKey _) <|
      .sent _ _ <| .asked (.write _ _ _ _) <| .asked (.save _ _ _) <| .asked (.notify _ _) <|
      .asked (.notify _ _) <| .asked (.release _ _) <| .nil _)
  refine ⟨_, _, hrun, rfl, ?_⟩
  have hdelivered := delivered_exactly_once oneItemMailbox "inbox" Session.fresh_idle rfl hrun
  obtain ⟨p, hp, -, hsaved⟩ := hdelivered
    (by
      intro o st h _
      rcases List.mem_cons.1 (mem_of_takes h) with rfl | h
      · trivial
      · rcases List.mem_append.1 h with h | h
        · exact oneItemMailbox_faithful r st h
        · obtain rfl := List.mem_singleton.1 h
          trivial)
    (by simp)
  have hone : p = 1 := hp
  rw [hsaved, hone]
  rfl

end Account

end MailSync
