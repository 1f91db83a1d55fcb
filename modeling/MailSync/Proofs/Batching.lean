import MailSync.Proofs.Delivery
import MailSync.Proofs.FailStop
import MailSync.Proofs.StorageFrame

/-!
# Batches do not matter

How a server cuts its items into windows is its own affair. A sync that meets with no failure ends
with the same messages and at the same position of the mailbox, whatever batches it has been
served, and two syncs with two budgets lead to what one with the sum of the budgets does.

* `Account.Meets.window`, `Account.Meets.last` : one window, and what the windows after it come to.
* `Account.windows_meet` : what the windows of a sync come to, by position and budget alone.
* `Account.batches_immaterial` : what a sync comes to, and what follows for two servers and for two
  syncs.
-/

namespace MailSync

/-- The reply to a request is what a server sends that accepts the request and holds just the items
of the mailbox. -/
def Mailbox.Offers (M : Mailbox) (request reply : Wire.Collection) : Prop :=
  ∃ key key', request.syncKey = some key ∧ reply.syncKey = some key' ∧ key' ≠ Wire.initialKey ∧
    match request.windowSize with
    | some size => M.Window M.items.length key key' size.toNat reply
    | none => key = Wire.initialKey → M.position key' = 0

namespace Mailbox.Window

variable {M : Mailbox} {key key' : String} {n size : Nat} {c : Wire.Collection}

theorem length_added (h : M.Window n key key' size c) :
    c.added.length = M.position key' - M.position key := by
  have hthere := h.there
  have hnotBeyond := h.notBeyond
  rw [h.added, List.length_take, List.length_drop]
  omega

theorem hasIds (h : M.Window n key key' size c) : ∀ item ∈ c.added, item.serverId ≠ none := by
  intro item hitem
  rw [h.added] at hitem
  exact M.hasIds item (List.mem_of_mem_drop (List.mem_of_mem_take hitem))

end Mailbox.Window

namespace Account

open Exchange FolderSync

variable {α : Type} {M : Mailbox} {folder : String} {past t t' : List Plan.Step} {d : Wire.Sync}

/-! ### What steps leave behind -/

/-- The steps save these messages, and this is the sync key of the folder that they store last. -/
structure Leaves (folder : String) (t : List Plan.Step) (saves : List (Message × Bool))
    (key : Option String) : Prop where
  saves : t.filterMap Plan.Step.saved? = saves
  key : keyWritten? folder t.reverse = key

theorem Leaves.append {saves saves' : List (Message × Bool)} {key key' : Option String}
    (h : Leaves folder t saves key) (h' : Leaves folder t' saves' key') :
    Leaves folder (t ++ t') (saves ++ saves') (key'.or key) where
  saves := by rw [List.filterMap_append, h.saves, h'.saves]
  key := by
    rw [List.reverse_append, keyWritten?, List.findSome?_append]
    exact congrArg₂ Option.or h'.key h.key

/-- Steps that neither save nor store leave nothing behind. -/
theorem leaves_nothing
    (h : ∀ st ∈ t, st.saved? = none ∧ st.writes? (folder, Store.syncKeyName) = none) :
    Leaves folder t [] none where
  saves := List.filterMap_eq_nil_iff.2 fun st hst => (h st hst).1
  key := List.findSome?_eq_none_iff.2 fun st hst => (h st (List.mem_reverse.1 hst)).2

theorem trip_leaves {r : Except Failure Wire.Sync} (h : Trip d t r) : Leaves folder t [] none := by
  refine leaves_nothing ?_
  cases h <;> simp [Plan.Step.saved?, Plan.Step.writes?]

theorem checks_leaves {cancellable : Bool} : Leaves folder (checks cancellable) [] none := by
  refine leaves_nothing ?_
  cases cancellable <;> simp [checks, Plan.Step.saved?, Plan.Step.writes?]

/-! ### Steps without a disturbance -/

/-- No step fails or brings word of a cancellation, and the server offers its items. -/
structure Smooth (M : Mailbox) (past t : List Plan.Step) : Prop where
  clean : Clean past t
  uncancelled : .asked .cancelled true ∉ t
  served : ∀ d response, .sent d (.ok response) ∈ t → response.provisioningDemand? = none →
    ∃ request c, d.collection? = some request ∧ response.Accepted c ∧ M.Offers request c

theorem smooth_append :
    Smooth M past (t ++ t') ↔ Smooth M past t ∧ Smooth M (t.reverse ++ past) t' := by
  constructor
  · rintro ⟨hclean, huncancelled, hserved⟩
    obtain ⟨hclean, hclean'⟩ := Plan.throughout_append.1 hclean
    exact ⟨⟨hclean, fun h => huncancelled (List.mem_append_left _ h),
        fun d response h => hserved d response (List.mem_append_left _ h)⟩,
      ⟨hclean', fun h => huncancelled (List.mem_append_right _ h),
        fun d response h => hserved d response (List.mem_append_right _ h)⟩⟩
  · rintro ⟨⟨hclean, huncancelled, hserved⟩, hclean', huncancelled', hserved'⟩
    exact ⟨Plan.throughout_append.2 ⟨hclean, hclean'⟩,
      fun h => (List.mem_append.1 h).elim huncancelled huncancelled',
      fun d response h => (List.mem_append.1 h).elim (hserved d response) (hserved' d response)⟩

theorem Smooth.tail {st : Plan.Step} (h : Smooth M past (st :: t)) : Smooth M (st :: past) t :=
  ((smooth_append (t := [st])).1 h).2

/-- Questions that are answered without a failure disturb nothing, unless they tell of a
cancellation. -/
theorem smooth_of_quiet
    (h : ∀ st ∈ t, st.fault? = none ∧ st.exchange? = none ∧ st ≠ .asked .cancelled true) :
    Smooth M past t where
  clean := clean_of_fault_eq_none fun st hst => (h st hst).1
  uncancelled hmem := (h _ hmem).2.2 rfl
  served _ _ hmem := absurd (h _ hmem).2.1 (Option.some_ne_none _)

theorem not_clean_of_conduct {e : Failure}
    (h : Conduct folder (fun _ => False) past t (.error e : Except Failure α)) :
    ¬ Clean past t := by
  cases h with
  | judges h hcause => exact hcause.elim
  | stops h hst => exact not_clean hst

theorem accepted_eq_ok {response : Wire.Sync} {c : Wire.Collection} (h : response.Accepted c) :
    accepted folder response = .ok c := by
  simp only [accepted, h.collection, h.status, ↓reduceIte]

/-- An undisturbed exchange goes well, and leaves its sync key behind. -/
theorem commits_smooth {request : Wire.Collection} {r : Except Failure (Wire.Collection × String)}
    (hd : d.collection? = some request) (hsmooth : Smooth M past t)
    (h : Commits folder (accepted folder) d t r) :
    ∃ c key, r = .ok (c, key) ∧ c.syncKey = some key ∧ M.Offers request c ∧
      Leaves folder t [] (some key) := by
  -- what the response brings has been accepted, wherever it is at the end of the round trip
  have hoffers : ∀ {t response}, Trip d t (.ok response) → Smooth M past t →
      ∃ c, accepted folder response = .ok c ∧ M.Offers request c := by
    intro t response htrip hsmooth
    obtain ⟨hdemand, t', rfl⟩ := htrip.ends rfl
    obtain ⟨request', c, hrequest, haccepted, hoffers⟩ :=
      hsmooth.served d response (by simp) hdemand
    obtain rfl := Option.some.inj (hd.symm.trans hrequest)
    exact ⟨c, accepted_eq_ok haccepted, hoffers⟩
  cases h with
  | @fails _ e h =>
    have hconduct : Conduct folder (fun _ => False) past t (.error e : Except Failure Wire.Sync) :=
      trip_conduct h
    exact absurd hsmooth.clean (not_clean_of_conduct hconduct)
  | refused h hcheck =>
    obtain ⟨c, hc, -⟩ := hoffers h hsmooth
    rw [hc] at hcheck
    cases hcheck
  | keyless h hcheck hkey =>
    obtain ⟨c, hc, key, key', -, hkey', -⟩ := hoffers h hsmooth
    cases hc.symm.trans hcheck
    rw [hkey] at hkey'
    cases hkey'
  | @unwritten t response c key h hcheck hkey e =>
    have hfails : Fails (t.reverse ++ past) (writeStep folder key (.error e)) e := ⟨rfl, id⟩
    exact absurd hsmooth.clean (not_clean hfails)
  | @stored t response c key h hcheck hkey =>
    obtain ⟨c', hc, hoffers⟩ := hoffers h (smooth_append.1 hsmooth).1
    cases hc.symm.trans hcheck
    have hwrite : Leaves folder [writeStep folder key (.ok ())] [] (some key) :=
      ⟨rfl, by simp [keyWritten?, writeStep, Plan.Step.writes?]⟩
    exact ⟨c, key, rfl, hkey, hoffers, (trip_leaves h).append hwrite⟩

/-- Undisturbed, items with ids are all delivered. -/
theorem delivers_smooth {items : List Wire.Item} {r : Except Failure Unit}
    (hids : ∀ item ∈ items, item.serverId ≠ none) (hsmooth : Smooth M past t)
    (h : Delivers folder items t r) :
    r = .ok () ∧ ∃ saves, Leaves folder t saves none ∧
      saves.map some = items.map (·.delivery folder) := by
  induction h generalizing past with
  | nil => exact ⟨rfl, [], ⟨rfl, rfl⟩, rfl⟩
  | nameless hid => exact absurd hid (hids _ List.mem_cons_self)
  | @refused item rest id hid e =>
    have hfails : Fails past
        (.asked (.save (materialize folder id item) (!item.truncated)) (.error e)) e := ⟨rfl, nofun⟩
    exact absurd hfails (hsmooth.clean.1 e)
  | @delivered item rest id t r hid h ih =>
    obtain ⟨rfl, saves, hleaves, hsaves⟩ :=
      ih (fun item hitem => hids item (List.mem_cons_of_mem _ hitem)) (smooth_append.1 hsmooth).2
    have hsave : Leaves folder (deliverSteps folder id item (.ok ()))
        [(materialize folder id item, !item.truncated)] none := ⟨rfl, rfl⟩
    refine ⟨rfl, _, hsave.append hleaves, ?_⟩
    rw [List.singleton_append, List.map_cons, List.map_cons, hsaves, Wire.Item.delivery_eq_some hid]

/-! ### Windows -/

/-- What windows come to that start at a position of the mailbox with a budget: the items of which
messages have been saved, the statistics, and the position at the end. None of it depends on the
batches. -/
structure Meets (M : Mailbox) (folder : String) (position budget : Nat) (stats : SyncStats)
    (saves : List (Message × Bool)) (stats' : SyncStats) (position' : Nat) : Prop where
  saved : saves.map some = ((M.items.drop position).take budget).map (·.delivery folder)
  messages : stats'.messages = stats.messages + min budget (M.items.length - position)
  more : stats'.moreAvailable = true ↔ (budget = 0 ∧ stats.moreAvailable = true) ∨
    (0 < budget ∧ position + budget < M.items.length)
  position : position' = min M.items.length (position + budget)

variable {key key' : String} {budget size position' : Nat} {c : Wire.Collection}
  {stats stats' : SyncStats} {saves saves' : List (Message × Bool)}

/-- Without a budget nothing is done. -/
theorem meets_spent (hp : M.position key ≤ M.items.length) :
    Meets M folder (M.position key) 0 stats [] stats (M.position key) where
  saved := by simp
  messages := by simp
  more := by simp
  position := by simp [hp]

/-- A window that announces no more brings all that is left. -/
theorem Meets.last (h : M.Window M.items.length key key' size c) (hsize : size ≤ budget)
    (hbudget : 0 < budget) (hmore : c.hasMore = false)
    (hsaves : saves.map some = c.added.map (·.delivery folder)) :
    Meets M folder (M.position key) budget stats saves (addWindow stats c) (M.position key') := by
  have hlength := h.length_added
  have hnotBeyond := h.notBeyond
  have hfits := h.fits
  have hend : M.position key' = M.items.length := by
    by_contra hne
    have hless : c.hasMore = true := h.hasMore.2 (by omega)
    rw [hmore] at hless
    cases hless
  refine ⟨?_, ?_, ?_, by omega⟩
  · rw [hsaves, h.added, List.take_of_length_le, List.take_of_length_le]
    · rw [List.length_drop]
      omega
    · rw [List.length_drop]
      omega
  · simp only [addWindow]
    omega
  · simp only [addWindow, hmore, Bool.false_eq_true, false_iff]
    omega

/-- A window that announces more, and what the windows after it come to. -/
theorem Meets.window (h : M.Window M.items.length key key' size c) (hsize : size ≤ budget)
    (hmore : c.hasMore = true) (hsaves : saves.map some = c.added.map (·.delivery folder))
    (hnext : Meets M folder (M.position key') (budget - c.added.length) (addWindow stats c) saves'
      stats' position') :
    Meets M folder (M.position key) budget stats (saves ++ saves') stats' position' := by
  have hlength := h.length_added
  have hforward := h.forward
  have hfits := h.fits
  have hless : M.position key' < M.items.length := h.hasMore.1 hmore
  -- the window has not been empty, as the server has more
  have hprogress : M.position key < M.position key' := by
    have := h.progress
    omega
  have hadded : c.added = (M.items.drop (M.position key)).take c.added.length := by
    rw [hlength]
    exact h.added
  have hspent : c.added.length + (budget - c.added.length) = budget := by omega
  have hdrop : M.position key + c.added.length = M.position key' := by omega
  refine ⟨?_, ?_, ?_, ?_⟩
  · have htake : (M.items.drop (M.position key)).take budget =
        c.added ++ (M.items.drop (M.position key')).take (budget - c.added.length) :=
      calc (M.items.drop (M.position key)).take budget
        _ = (M.items.drop (M.position key)).take (c.added.length + (budget - c.added.length)) := by
          rw [hspent]
        _ = (M.items.drop (M.position key)).take c.added.length ++
            ((M.items.drop (M.position key)).drop c.added.length).take
              (budget - c.added.length) := List.take_add
        _ = c.added ++ (M.items.drop (M.position key')).take (budget - c.added.length) := by
          rw [← hadded, List.drop_drop, hdrop]
    rw [List.map_append, hsaves, hnext.saved, htake, List.map_append]
  · rw [hnext.messages]
    simp only [addWindow]
    omega
  · rw [hnext.more]
    simp only [addWindow, hmore, and_true]
    omega
  · rw [hnext.position]
    omega

/-- Two budgets that are spent one after the other come to what their sum does. -/
theorem Meets.append {position position'' budget' : Nat} {stats₁ stats₁' : SyncStats}
    (h : Meets M folder position budget stats saves stats' position')
    (h' : Meets M folder position' budget' stats₁ saves' stats₁' position'') :
    (saves ++ saves').map some =
        ((M.items.drop position).take (budget + budget')).map (·.delivery folder) ∧
      position'' = min M.items.length (position + (budget + budget')) := by
  have hposition := h.position
  have hposition' := h'.position
  refine ⟨?_, by omega⟩
  -- a position at the end of the mailbox may have been reached before the budget was spent
  have hdrop : M.items.drop position' = (M.items.drop position).drop budget := by
    rw [List.drop_drop, hposition]
    by_cases hle : position + budget ≤ M.items.length
    · rw [Nat.min_eq_right hle]
    · rw [Nat.min_eq_left (by omega), List.drop_length, List.drop_of_length_le (by omega)]
  rw [List.map_append, h.saved, h'.saved, hdrop, ← List.map_append, ← List.take_add]

/-- A request for a window asks for no more than the budget allows. -/
theorem size_nextWindow {config : SyncConfig} (h : stats.messages < config.visibleLimit.toNat) :
    (Wire.windowSize (min (config.visibleLimit.toNat - stats.messages) Wire.maxWindow)).toNat ≤
      config.visibleLimit.toNat - stats.messages := by
  have hpos : 1 ≤ min (config.visibleLimit.toNat - stats.messages) Wire.maxWindow := by
    have : Wire.maxWindow = 30 := rfl
    omega
  rw [Wire.windowSize_of_le hpos (Nat.min_le_right ..)]
  exact Nat.min_le_left ..

/-- An undisturbed request for a window brings the items that follow the position of its key. -/
theorem window_smooth {config : SyncConfig} {r : Except Failure (Wire.Collection × String)}
    (hsmooth : Smooth M past t)
    (h : Commits folder (accepted folder) (nextWindow folder config key stats) t r) :
    ∃ c key', r = .ok (c, key') ∧ Leaves folder t [] (some key') ∧
      M.Window M.items.length key key'
        (Wire.windowSize (min (config.visibleLimit.toNat - stats.messages) Wire.maxWindow)).toNat
        c := by
  obtain ⟨c, key', rfl, hkey', ⟨key₁, key₂, hkey₁, hkey₂, -, hwindow⟩, hleaves⟩ :=
    commits_smooth rfl hsmooth h
  cases hkey₁
  obtain rfl := Option.some.inj (hkey'.symm.trans hkey₂)
  exact ⟨c, key', rfl, hleaves, hwindow⟩

/-- Undisturbed, the items of a window are all delivered. -/
theorem window_delivered {config : SyncConfig} {r : Except Failure Unit}
    (hsmooth : Smooth M past (t ++ t'))
    (h : Commits folder (accepted folder) (nextWindow folder config key stats) t (.ok (c, key')))
    (hitems : Delivers folder c.added t' r) :
    r = .ok () ∧ M.Window M.items.length key key'
        (Wire.windowSize (min (config.visibleLimit.toNat - stats.messages) Wire.maxWindow)).toNat
        c ∧
      ∃ saves, Leaves folder (t ++ t') saves (some key') ∧
        saves.map some = c.added.map (·.delivery folder) := by
  obtain ⟨hsmooth, hsmooth'⟩ := smooth_append.1 hsmooth
  obtain ⟨c, key', hr, hleaves, hwindow⟩ := window_smooth hsmooth h
  cases hr
  obtain ⟨rfl, saves, hleaves', hsaves⟩ := delivers_smooth hwindow.hasIds hsmooth' hitems
  exact ⟨rfl, hwindow, saves, hleaves.append hleaves', hsaves⟩

/-- What the windows of a sync come to depends on the position and the budget they start with. -/
theorem windows_meet {config : SyncConfig} {cancellable : Bool} {r : Except Failure SyncStats}
    (h : Windows folder config cancellable key stats t r) (hsmooth : Smooth M past t)
    (hp : M.position key ≤ M.items.length) :
    ∃ stats' saves last, r = .ok stats' ∧ Leaves folder t saves last ∧
      Meets M folder (M.position key) (config.visibleLimit.toNat - stats.messages) stats saves
        stats' (M.position (last.getD key)) := by
  induction h generalizing past with
  | @spent key stats h =>
    refine ⟨stats, [], none, rfl, ⟨rfl, rfl⟩, ?_⟩
    rw [Nat.sub_eq_zero_of_le h]
    exact meets_spent hp
  | cancelled => exact absurd List.mem_cons_self hsmooth.uncancelled
  | fails hlt hadvance =>
    obtain ⟨-, hsmooth⟩ := smooth_append.1 hsmooth
    obtain ⟨c, key', hr, -⟩ := window_smooth hsmooth hadvance
    cases hr
  | undelivered hlt hadvance hitems =>
    obtain ⟨-, hsmooth⟩ := smooth_append.1 hsmooth
    obtain ⟨hr, -⟩ := window_delivered hsmooth hadvance hitems
    cases hr
  | last hlt hadvance hitems hmore =>
    obtain ⟨-, hsmooth⟩ := smooth_append.1 hsmooth
    obtain ⟨-, hwindow, saves, hleaves, hsaves⟩ := window_delivered hsmooth hadvance hitems
    exact ⟨_, _, _, rfl, checks_leaves.append hleaves,
      .last hwindow (size_nextWindow hlt) (by omega) hmore hsaves⟩
  | empty hlt hadvance hitems hmore hadded =>
    obtain ⟨-, hsmooth⟩ := smooth_append.1 hsmooth
    obtain ⟨-, hwindow, -⟩ := window_delivered hsmooth hadvance hitems
    -- a server that has more sends some of it
    have hless := hwindow.hasMore.1 hmore
    have hprogress := hwindow.progress
    have hforward := hwindow.forward
    have hlength := hwindow.length_added
    rw [hadded, List.length_nil] at hlength
    omega
  | @next key key' stats c t t' t'' r hlt hadvance hitems hmore hadded hnext ih =>
    rw [← List.append_assoc t] at hsmooth ⊢
    obtain ⟨-, hsmooth⟩ := smooth_append.1 hsmooth
    obtain ⟨hsmooth, hsmooth'⟩ := smooth_append.1 hsmooth
    obtain ⟨-, hwindow, saves, hleaves, hsaves⟩ := window_delivered hsmooth hadvance hitems
    obtain ⟨stats', saves', last, rfl, hleaves', hmeets⟩ := ih hsmooth' hwindow.notBeyond
    refine ⟨stats', saves ++ saves', _, rfl, checks_leaves.append (hleaves.append hleaves'), ?_⟩
    have hlast : ∀ start key', ((last.or (some key')).or none).getD start = last.getD key' := by
      intro start key'
      cases last <;> rfl
    rw [hlast]
    refine .window hwindow (size_nextWindow hlt) hmore hsaves ?_
    rw [Nat.sub_sub]
    exact hmeets

/-! ### Whole syncs -/

/-- What a pull comes to depends on the position of the key that it finds, and on its budget. -/
theorem pulls_meet {config : SyncConfig} {cancellable : Bool} {r : Except Failure SyncStats}
    (h : Pulls folder config cancellable t r) (hsmooth : Smooth M past t) :
    ∃ stored t', t = readStep folder (.ok stored) :: t' ∧
      (M.position (stored.getD Wire.initialKey) ≤ M.items.length →
        ∃ stats saves last, r = .ok stats ∧ Leaves folder t saves last ∧
          Meets M folder (M.position (stored.getD Wire.initialKey)) config.visibleLimit.toNat {}
            saves stats (M.position (last.getD (stored.getD Wire.initialKey)))) := by
  have hread : ∀ stored, Leaves folder [readStep folder (.ok stored)] [] none := fun _ => ⟨rfl, rfl⟩
  cases h with
  | unread e =>
    have hfails : Fails past (readStep folder (.error e)) e := ⟨rfl, nofun⟩
    exact absurd hfails (hsmooth.clean.1 e)
  | @known stored t r hkey h =>
    refine ⟨stored, t, rfl, fun hp => ?_⟩
    obtain ⟨stats, saves, last, hr, hleaves, hmeets⟩ :=
      windows_meet h hsmooth.tail hp
    refine ⟨stats, saves, _, hr, (hread stored).append hleaves, ?_⟩
    rw [Option.or_none]
    exact hmeets
  | refused hkey hadvance =>
    obtain ⟨c, key, hr, -⟩ := commits_smooth rfl hsmooth.tail hadvance
    cases hr
  | @introduced stored c key t t' r hkey hadvance h =>
    refine ⟨stored, t ++ t', rfl, fun _ => ?_⟩
    obtain ⟨hsmooth, hsmooth'⟩ := smooth_append.1 hsmooth.tail
    obtain ⟨c', key', hr, hkey', ⟨key₁, key₂, hkey₁, hkey₂, -, hposition⟩, hleaves⟩ :=
      commits_smooth rfl hsmooth hadvance
    cases hr
    cases hkey₁
    obtain rfl := Option.some.inj (hkey'.symm.trans hkey₂)
    -- the key of the handshake stands where the initial one does
    have hstart : M.position key = 0 := hposition rfl
    obtain ⟨stats, saves, last, hr, hleaves', hmeets⟩ :=
      windows_meet h hsmooth' (hstart ▸ Nat.zero_le _)
    refine ⟨stats, saves, _, hr, (hread stored).append (hleaves.append hleaves'), ?_⟩
    have hlast : ((last.or (some key)).or none).getD (stored.getD Wire.initialKey) =
        last.getD key := by
      cases last <;> rfl
    rw [hlast, hkey, M.position_initialKey]
    rw [hstart] at hmeets
    exact ⟨hmeets.saved, hmeets.messages, hmeets.more, hmeets.position⟩

end Account

/-- The position of the sync key that is stored for a folder. -/
def Mailbox.reached (M : Mailbox) (s : Account.Shared) (folder : String) : Nat :=
  M.position ((s.store.syncKey? folder).getD Wire.initialKey)

namespace Account

open Exchange FolderSync

/-- A sync of a folder with a server that holds the items of the mailbox. It finds the folder free,
meets with no failure and is not cancelled. -/
structure Undisturbed (M : Mailbox) (folder : String) (config : SyncConfig) (cancellable : Bool)
    (s : Shared) (t : List Plan.Step) (r : Except Failure SyncStats) (s' : Shared) : Prop where
  runs : Plan.Runs (exclusively folder (FolderSync.sync folder config cancellable)) t r
  answers : AnswersAll s t s'
  free : folder ∉ s.locks.active
  smooth : Smooth M [] t
  there : M.reached s folder ≤ M.items.length

variable {M M' : Mailbox} {folder : String} {config : SyncConfig} {cancellable : Bool}
  {s s' : Shared} {t : List Plan.Step} {r : Except Failure SyncStats}

/-- A sync that finds its folder free is a pull between two notices, with the folder in work. -/
theorem Undisturbed.course (h : Undisturbed M folder config cancellable s t r s') :
    ∃ guard t', t = .asked (.acquire folder) (.ok guard) ::
        .asked (.notify (.started folder)) () ::
          (t' ++ [.asked (.notify (lastNotice folder r)) (), .asked (.release ⟨guard.folder⟩) ()]) ∧
      Pulls folder config cancellable t' r := by
  have hcourse : (∃ e, t = [.asked (.acquire folder) (.error e)] ∧ r = .error e) ∨
      ∃ guard t', t = .asked (.acquire folder) (.ok guard) ::
        (t' ++ [.asked (.release ⟨guard.folder⟩) ()]) ∧
          Plan.Runs (FolderSync.sync folder config cancellable) t' r := by
    cases cancellable with
    | true => exact course_of_runs (o := .syncCancellable folder config) h.runs
    | false => exact course_of_runs (o := .sync folder config) h.runs
  obtain ⟨e, rfl, -⟩ | ⟨guard, t₁, rfl, hsync⟩ := hcourse
  · cases h.answers with
    | asked ha _ =>
      cases ha with
      | refuse hlocks =>
        obtain ⟨hbusy, -⟩ := FolderLocks.acquire_eq_error_iff.1 hlocks
        rw [FolderLocks.isActive, List.contains_iff_mem] at hbusy
        exact absurd hbusy h.free
  · obtain ⟨t', rfl, hpulls⟩ := runs_sync_cases hsync
    exact ⟨guard, t', by simp, hpulls⟩

/-- What a sync comes to depends on the position that the folder has reached, and on its budget. -/
theorem Undisturbed.meets (h : Undisturbed M folder config cancellable s t r s') :
    ∃ stats, r = .ok stats ∧
      Meets M folder (M.reached s folder) config.visibleLimit.toNat {}
        (t.filterMap Plan.Step.saved?) stats (M.reached s' folder) := by
  obtain ⟨guard, t', rfl, hpulls⟩ := h.course
  obtain ⟨-, hsmooth⟩ := (smooth_append (t := [_, _])).1 h.smooth
  obtain ⟨stored, t'', rfl, hmeets⟩ := pulls_meet hpulls (smooth_append.1 hsmooth).1
  -- the key that the pull has found is the one that is stored
  have hstored : stored = s.store.syncKey? folder := by
    cases h.answers with
    | asked ha hs =>
      cases ha
      cases hs with
      | asked ha hs =>
        cases ha
        cases hs with
        | asked ha hs =>
          cases ha
          rfl
  subst hstored
  obtain ⟨stats, saves, last, rfl, hleaves, hmeets⟩ := hmeets h.there
  have hfirst : Leaves folder [.asked (.acquire folder) (.ok guard),
      .asked (.notify (.started folder)) ()] [] none := ⟨rfl, rfl⟩
  have hlast : Leaves folder [.asked (.notify (lastNotice folder (.ok stats))) (),
      .asked (.release ⟨guard.folder⟩) ()] [] none := ⟨rfl, rfl⟩
  obtain ⟨hsaves, hkey⟩ := hfirst.append (hleaves.append hlast)
  rw [List.nil_append, List.append_nil] at hsaves
  rw [Option.none_or, Option.or_none] at hkey
  have hreached : M.reached s' folder =
      M.position (last.getD ((s.store.syncKey? folder).getD Wire.initialKey)) := by
    have hstored : s'.store.syncKey? folder = last.or (s.store.syncKey? folder) := by
      rw [Store.syncKey?, h.answers.store_eq, Store.extra?_replay]
      exact congrArg (Option.or · _) hkey
    rw [Mailbox.reached, hstored]
    cases last <;> rfl
  refine ⟨stats, rfl, ?_⟩
  rw [hreached]
  exact hsaves ▸ hmeets

/-- The messages that a sync leaves in the store. -/
theorem Undisturbed.sameMessages (h : Undisturbed M folder config cancellable s t r s') :
    Store.SameMessages s'.store (s.store.saveAll (t.filterMap Plan.Step.saved?)) := by
  rw [h.answers.store_eq]
  exact s.store.replay_sameMessages t

/-- The saves of two syncs that meet the same items are the same. -/
theorem saves_eq {saves saves' : List (Message × Bool)} {items : List (Option (Message × Bool))}
    (h : saves.map some = items) (h' : saves'.map some = items) : saves = saves' :=
  List.map_injective_iff.2 (Option.some_injective _) (h.trans h'.symm)

/-! ### Servers -/

end Account

/-- A server that holds the items of a mailbox. It has a sync key for every position, and makes the
batches that it likes. -/
structure Mailbox.Server (M : Mailbox) where
  /-- The key for a position. -/
  keyAt : Nat → String
  position_keyAt : ∀ p ≤ M.items.length, M.position (keyAt p) = p
  keyAt_ne : ∀ p ≤ M.items.length, keyAt p ≠ Wire.initialKey
  /-- How many items a window brings from a position on, for a size that is asked for. -/
  batch : Nat → Nat → Nat
  batch_pos : ∀ p size, 0 < size → 0 < batch p size
  batch_le : ∀ p size, batch p size ≤ size

namespace Mailbox.Server

variable {M : Mailbox} (S : M.Server)

/-- What the server answers to a request. -/
def answer (request : Wire.Collection) : Wire.Collection :=
  match request.windowSize with
  | none => { syncKey := some (S.keyAt 0), status := some Wire.statusOk }
  | some size =>
    let start := M.position (request.syncKey.getD Wire.initialKey)
    let stop := min M.items.length (start + S.batch start size.toNat)
    { syncKey := some (S.keyAt stop), status := some Wire.statusOk,
      commands := some { add := some ((M.items.drop start).take (stop - start)) },
      moreAvailable := some (decide (stop < M.items.length)) }

/-- Every reply among the steps is what the server answers. -/
def Follows (t : List Plan.Step) : Prop :=
  ∀ d r, .sent d r ∈ t →
    ∃ request, d.collection? = some request ∧ r = .ok (.ofCollection (S.answer request))

theorem accepted_answer (request : Wire.Collection) :
    (Wire.Sync.ofCollection (S.answer request)).Accepted (S.answer request) := by
  unfold answer
  split <;> exact ⟨rfl, rfl, rfl⟩

/-- What the server answers is an offer of its items. -/
theorem offers_answer {request : Wire.Collection} {key : String} (hkey : request.syncKey = some key)
    (hp : M.position key ≤ M.items.length)
    (hsize : ∀ size, request.windowSize = some size → 0 < size.toNat) :
    M.Offers request (S.answer request) := by
  unfold answer
  cases hwindow : request.windowSize with
  | none =>
    refine ⟨key, S.keyAt 0, hkey, rfl, S.keyAt_ne 0 (Nat.zero_le _), ?_⟩
    simp only [hwindow]
    exact fun _ => S.position_keyAt 0 (Nat.zero_le _)
  | some size =>
    have hpos := S.batch_pos (M.position key) size.toNat (hsize size hwindow)
    have hle := S.batch_le (M.position key) size.toNat
    have hstop := S.position_keyAt _
      (Nat.min_le_left M.items.length (M.position key + S.batch (M.position key) size.toNat))
    refine ⟨key, _, hkey, rfl, S.keyAt_ne _ (Nat.min_le_left ..), ?_⟩
    simp only [hwindow, hkey, Option.getD_some]
    refine ⟨Nat.le_refl _, ?_, ?_, ?_, ?_, ?_, ?_⟩
    · omega
    · omega
    · omega
    · omega
    · rw [hstop]
      rfl
    · rw [hstop]
      simp [Wire.Collection.hasMore]

end Mailbox.Server

namespace Account

section Servers

open Exchange FolderSync

variable {M : Mailbox} {S : M.Server} {folder policyKey : String} {config : SyncConfig}
  {t t' : List Plan.Step}

/-- The steps are undisturbed, follow the server, and can be taken wherever the device holds the
policy key, with the locks left alone. -/
structure Goes (S : M.Server) (policyKey : String) (t : List Plan.Step) : Prop where
  smooth : ∀ past, Smooth M past t
  follows : S.Follows t
  answered : ∀ s : Shared, s.policyKey = some policyKey →
    ∃ s', AnswersAll s t s' ∧ s'.locks = s.locks ∧ s'.policyKey = some policyKey

theorem Goes.append (h : Goes S policyKey t) (h' : Goes S policyKey t') :
    Goes S policyKey (t ++ t') where
  smooth past := smooth_append.2 ⟨h.smooth past, h'.smooth _⟩
  follows d r hmem := (List.mem_append.1 hmem).elim (h.follows d r) (h'.follows d r)
  answered s hs := by
    obtain ⟨s₁, hs₁, hlocks₁, hpolicy₁⟩ := h.answered s hs
    obtain ⟨s₂, hs₂, hlocks₂, hpolicy₂⟩ := h'.answered s₁ hpolicy₁
    exact ⟨s₂, hs₁.append hs₂, hlocks₂.trans hlocks₁, hpolicy₂⟩

theorem goes_nil : Goes S policyKey [] where
  smooth _ := smooth_of_quiet (List.forall_mem_nil _)
  follows _ _ hmem := absurd hmem List.not_mem_nil
  answered s hs := ⟨s, .nil s, rfl, hs⟩

theorem goes_asked {q : Query} {a : q.Answer} (hfault : (Plan.Step.asked q a).fault? = none)
    (hcancelled : Plan.Step.asked q a ≠ .asked .cancelled true)
    (h : ∀ s : Shared, s.policyKey = some policyKey →
      ∃ s', Answers s q a s' ∧ s'.locks = s.locks ∧ s'.policyKey = some policyKey) :
    Goes S policyKey [.asked q a] where
  smooth _ := smooth_of_quiet (List.forall_mem_singleton.2 ⟨hfault, rfl, hcancelled⟩)
  follows d r hmem := by cases List.mem_singleton.1 hmem
  answered s hs := by
    obtain ⟨s', ha, hlocks, hpolicy⟩ := h s hs
    exact ⟨s', .asked ha (.nil s'), hlocks, hpolicy⟩

/-- An exchange with the server under the policy key that the device holds. -/
theorem goes_advance {d : Wire.Sync} {request : Wire.Collection} (key : String)
    (hd : d.collection? = some request) (hoffers : M.Offers request (S.answer request)) :
    Goes S policyKey (advanceSteps folder policyKey d (.ofCollection (S.answer request)) key) := by
  have haccepted := S.accepted_answer request
  have hheld : Goes S policyKey [.asked .policyKey (some policyKey)] :=
    goes_asked rfl (by simp) fun s hs => ⟨s, hs ▸ .policyKey s, rfl, hs⟩
  have hsent : Goes S policyKey [.sent d (.ok (.ofCollection (S.answer request)))] := by
    refine ⟨fun past => ⟨clean_of_fault_eq_none ?_, by simp, ?_⟩, ?_,
      fun s hs => ⟨s, .sent _ _ (.nil s), rfl, hs⟩⟩
    · simp [Plan.Step.fault?, haccepted.noDemand]
    · intro d' response hmem _
      cases List.mem_singleton.1 hmem
      exact ⟨request, _, hd, haccepted, hoffers⟩
    · intro d' r hmem
      cases List.mem_singleton.1 hmem
      exact ⟨request, hd, rfl⟩
  have hwritten : Goes S policyKey [.asked (.writeExtra folder Store.syncKeyName key) (.ok ())] :=
    goes_asked rfl (by simp) fun s hs => ⟨_, .write s _ _ _, rfl, hs⟩
  exact hheld.append (hsent.append hwritten)

/-- Items with ids can all be delivered. -/
theorem exists_delivers (items : List Wire.Item) (hids : ∀ item ∈ items, item.serverId ≠ none) :
    ∃ t, Plan.Runs (deliverAll folder items).run t (.ok ()) ∧ Goes S policyKey t := by
  induction items with
  | nil => exact ⟨[], .done _, goes_nil⟩
  | cons item rest ih =>
    obtain ⟨hid, hids⟩ := List.forall_mem_cons.1 hids
    obtain ⟨id, hid⟩ := Option.ne_none_iff_exists'.1 hid
    have hsaved : Goes S policyKey
        [.asked (.save (materialize folder id item) (!item.truncated)) (.ok ())] :=
      goes_asked rfl (by simp) fun s hs => ⟨_, .save s _ _, rfl, hs⟩
    have htold : Goes S policyKey [.asked (.notify (.newMessage folder id false)) ()] :=
      goes_asked rfl (by simp) fun s hs => ⟨s, .notify s _, rfl, hs⟩
    obtain ⟨t, hruns, hgoes⟩ := ih hids
    refine ⟨deliverSteps folder id item (.ok ()) ++ t, ?_, (hsaved.append htold).append hgoes⟩
    rw [deliverAll]
    refine Job.runs_bind (a := ()) ?_ hruns
    rw [deliver, hid]
    exact .ask (.ask (.done _))

/-- From every position the server can serve all the windows of a sync. -/
theorem exists_windows (S : M.Server) {key : String} {stats : SyncStats}
    (hp : M.position key ≤ M.items.length) :
    ∃ t stats', Plan.Runs (windows folder config false key stats).run t (.ok stats') ∧
      Goes S policyKey t := by
  -- on what is left of the budget, as the loop itself
  induction hn : config.visibleLimit.toNat - stats.messages using Nat.strongRecOn
    generalizing key stats with
  | ind n ih =>
    by_cases hlt : stats.messages < config.visibleLimit.toNat
    case neg =>
      refine ⟨[], stats, ?_, goes_nil⟩
      rw [windows, dif_neg hlt]
      exact .done _
    obtain ⟨request, hd, hkey, hwindow⟩ : ∃ request,
        (nextWindow folder config key stats).collection? = some request ∧
          request.syncKey = some key ∧ request.windowSize = some
            (Wire.windowSize (min (config.visibleLimit.toNat - stats.messages) Wire.maxWindow)) :=
      ⟨_, rfl, rfl, rfl⟩
    have hoffers : M.Offers request (S.answer request) := by
      refine S.offers_answer hkey hp fun size hsize => ?_
      obtain rfl := Option.some.inj (hwindow.symm.trans hsize)
      have hmax : Wire.maxWindow = 30 := rfl
      rw [Wire.windowSize_of_le (by omega) (Nat.min_le_right ..)]
      omega
    have hadvance : ∀ key, Goes S policyKey
        (advanceSteps folder policyKey _ (.ofCollection (S.answer request)) key) :=
      fun key => goes_advance key hd hoffers
    have haccepted := S.accepted_answer request
    obtain ⟨key₁, key', hkey₁, hkey', -, hserved⟩ := hoffers
    obtain rfl := Option.some.inj (hkey.symm.trans hkey₁)
    simp only [hwindow] at hserved
    obtain ⟨t, hdeliver, hgoes⟩ : ∃ t,
        Plan.Runs (deliverAll folder (S.answer request).added).run t (.ok ()) ∧
          Goes S policyKey t :=
      exists_delivers _ hserved.hasIds
    by_cases hmore : (S.answer request).hasMore = true
    · have hless := hserved.hasMore.1 hmore
      have hlength := hserved.length_added
      have hforward := hserved.forward
      have hprogress := hserved.progress
      have hpos : 0 < (S.answer request).added.length := by omega
      have hless : config.visibleLimit.toNat - (addWindow stats (S.answer request)).messages <
          n := by
        simp only [addWindow]
        omega
      obtain ⟨t', stats', hruns, hgoes'⟩ := ih _ hless hserved.notBeyond rfl
      exact ⟨_, stats', runs_windows_next hlt haccepted.noDemand (accepted_eq_ok haccepted) hkey'
        hmore (List.length_pos_iff.1 hpos) hdeliver hruns,
        (hadvance key').append (hgoes.append hgoes')⟩
    · exact ⟨_, _, runs_windows_last hlt haccepted.noDemand (accepted_eq_ok haccepted) hkey'
        (Bool.not_eq_true _ ▸ hmore) hdeliver, (hadvance key').append hgoes⟩

/-- A pull that the server serves, whatever key has been stored. -/
theorem exists_pull (S : M.Server) {stored : Option String}
    (hp : M.position (stored.getD Wire.initialKey) ≤ M.items.length) :
    ∃ t stats, Plan.Runs (pull folder config false).run (readStep folder (.ok stored) :: t)
      (.ok stats) ∧ Goes S policyKey t := by
  by_cases hstored : stored.getD Wire.initialKey = Wire.initialKey
  case neg =>
    obtain ⟨t, stats, hruns, hgoes⟩ := exists_windows S hp
    exact ⟨t, stats, runs_pull_known hstored hruns, hgoes⟩
  obtain ⟨request, hd, hkey, hwindow⟩ : ∃ request,
      (Wire.Sync.handshake folder Wire.initialKey).collection? = some request ∧
        request.syncKey = some Wire.initialKey ∧ request.windowSize = none := ⟨_, rfl, rfl, rfl⟩
  have hoffers : M.Offers request (S.answer request) := by
    refine S.offers_answer hkey (hstored ▸ hp) fun size hsize => ?_
    rw [hwindow] at hsize
    cases hsize
  have hadvance : ∀ key, Goes S policyKey
      (advanceSteps folder policyKey _ (.ofCollection (S.answer request)) key) :=
    fun key => goes_advance key hd hoffers
  have haccepted := S.accepted_answer request
  obtain ⟨key₁, key', hkey₁, hkey', -, hposition⟩ := hoffers
  obtain rfl := Option.some.inj (hkey.symm.trans hkey₁)
  simp only [hwindow, forall_const] at hposition
  obtain ⟨t, stats, hruns, hgoes⟩ := exists_windows S (hposition ▸ Nat.zero_le _)
  exact ⟨_, stats, runs_pull_first hstored haccepted.noDemand (accepted_eq_ok haccepted) hkey'
    hruns, (hadvance key').append hgoes⟩

/-- Whatever batches a server makes, and wherever a sync starts, there is one that is not
disturbed. -/
theorem exists_undisturbed (S : M.Server) (folder : String) (config : SyncConfig) {s : Shared}
    (hfree : folder ∉ s.locks.active) (hpolicy : s.policyKey = some policyKey)
    (hthere : M.reached s folder ≤ M.items.length) :
    ∃ t stats s', Undisturbed M folder config false s t (.ok stats) s' ∧ S.Follows t ∧
      s'.locks.active = s.locks.active ∧ s'.policyKey = some policyKey := by
  obtain ⟨t, stats, hpull, hgoes⟩ : ∃ t stats, Plan.Runs (pull folder config false).run
      (readStep folder (.ok (s.store.syncKey? folder)) :: t) (.ok stats) ∧ Goes S policyKey t :=
    exists_pull S hthere
  obtain ⟨locks, hlocks⟩ : ∃ locks, s.locks.acquire folder = .ok (⟨folder⟩, locks) :=
    ⟨_, dif_neg hfree⟩
  obtain ⟨-, -, hactive⟩ := FolderLocks.acquire_eq_ok_iff.1 hlocks
  obtain ⟨s', hs', hlocks', hpolicy'⟩ := hgoes.answered { s with locks := locks } hpolicy
  let first : List Plan.Step := [.asked (.acquire folder) (.ok ⟨folder⟩),
    .asked (.notify (.started folder)) (), readStep folder (.ok (s.store.syncKey? folder))]
  let last : List Plan.Step := [.asked (.notify (lastNotice folder (.ok stats))) (),
    .asked (.release ⟨folder⟩) ()]
  refine ⟨first ++ (t ++ last), stats, { s' with locks := s'.locks.release ⟨folder⟩ },
    ⟨?_, ?_, hfree, ?_, hthere⟩, ?_, ?_, hpolicy'⟩
  · have hruns := runs_plan (o := .sync folder config) (runs_sync hpull)
    rw [List.cons_append, List.append_assoc, List.cons_append] at hruns
    exact hruns
  · have hfirst : AnswersAll s first { s with locks := locks } :=
      .asked (.acquire hlocks) (.asked (.notify _ _) (.asked (.read _ _ _) (.nil _)))
    exact hfirst.append (hs'.append (.asked (.notify _ _) (.asked (.release _ _) (.nil _))))
  · refine smooth_append.2
      ⟨smooth_of_quiet ?_, smooth_append.2 ⟨hgoes.smooth _, smooth_of_quiet ?_⟩⟩
    · simp [first, readStep, Plan.Step.fault?, Plan.Step.failure?, Plan.Step.exchange?]
    · simp [last, Plan.Step.fault?, Plan.Step.failure?, Plan.Step.exchange?]
  · intro d r hmem
    refine hgoes.follows d r ?_
    simpa [first, last, readStep] using hmem
  · change s'.locks.active.filter (· ≠ folder) = s.locks.active
    rw [hlocks', hactive, List.filter_cons_of_neg (by simp)]
    exact List.filter_eq_self.2 fun f hf => decide_eq_true fun heq => hfree (heq ▸ hf)

end Servers

variable {M M' : Mailbox} {folder : String} {config : SyncConfig} {cancellable : Bool}
  {s s' : Shared} {t : List Plan.Step} {r : Except Failure SyncStats}

/-- **Batches do not matter**: a sync that meets with no failure and is not cancelled ends well,
whatever batches the server makes. It saves the items that follow the position of the stored key, in
order, as many as its budget allows, leaves the key at their end, and reports their number and
whether there is more. So two servers that hold the same items lead to the same messages, and two
syncs with two budgets lead to what one with the sum of the budgets does. -/
theorem batches_immaterial (M : Mailbox) (folder : String) :
    (∀ config cancellable s t r s', Undisturbed M folder config cancellable s t r s' →
      ∃ stats, r = .ok stats ∧
        (t.filterMap Plan.Step.saved?).map some =
          ((M.items.drop (M.reached s folder)).take config.visibleLimit.toNat).map
            (·.delivery folder) ∧
        M.reached s' folder =
          min M.items.length (M.reached s folder + config.visibleLimit.toNat) ∧
        stats.messages = min config.visibleLimit.toNat (M.items.length - M.reached s folder) ∧
        (stats.moreAvailable = true ↔ 0 < config.visibleLimit.toNat ∧
          M.reached s folder + config.visibleLimit.toNat < M.items.length)) ∧
    (∀ M' : Mailbox, M'.items = M.items →
      ∀ config cancellable s t r s' config' cancellable' u t' r' u',
      config'.visibleLimit = config.visibleLimit → M'.reached u folder = M.reached s folder →
      Store.SameMessages s.store u.store → Undisturbed M folder config cancellable s t r s' →
      Undisturbed M' folder config' cancellable' u t' r' u' →
        Store.SameMessages s'.store u'.store) ∧
    ∀ config config' c c' c'' s t r s₁ t₁ r₁ s₂ t₂ r₂ s',
      config.visibleLimit.toNat + config'.visibleLimit.toNat < UInt64.size →
      Undisturbed M folder config c s t r s₁ → Undisturbed M folder config' c' s₁ t₁ r₁ s₂ →
      Undisturbed M folder
        { config with visibleLimit := config.visibleLimit + config'.visibleLimit } c'' s t₂ r₂ s' →
        Store.SameMessages s₂.store s'.store ∧ M.reached s₂ folder = M.reached s' folder := by
  refine ⟨fun config cancellable s t r s' h => ?_, ?_, ?_⟩
  · obtain ⟨stats, hr, hmeets⟩ := h.meets
    refine ⟨stats, hr, hmeets.saved, hmeets.position, ?_, ?_⟩
    · rw [hmeets.messages]
      exact Nat.zero_add _
    · rw [hmeets.more]
      simp
  · intro M' hitems config cancellable s t r s' config' cancellable' u t' r' u' hlimit hreached
      hsame h h'
    obtain ⟨_, -, hmeets⟩ := h.meets
    obtain ⟨_, -, hmeets'⟩ := h'.meets
    have hsaved := hmeets'.saved
    rw [hitems, hreached, hlimit] at hsaved
    have hstores := hsame.saveAll (t.filterMap Plan.Step.saved?)
    refine (h.sameMessages.trans hstores).trans ?_
    rw [saves_eq hmeets.saved hsaved]
    exact h'.sameMessages.symm
  · intro config config' c c' c'' s t r s₁ t₁ r₁ s₂ t₂ r₂ s' hlimit h h' h''
    obtain ⟨_, -, hmeets⟩ := h.meets
    obtain ⟨_, -, hmeets'⟩ := h'.meets
    obtain ⟨_, -, hmeets''⟩ := h''.meets
    obtain ⟨hsaved, hposition⟩ := hmeets.append hmeets'
    have hsum : (config.visibleLimit + config'.visibleLimit).toNat =
        config.visibleLimit.toNat + config'.visibleLimit.toNat := by
      rw [UInt64.toNat_add, Nat.mod_eq_of_lt hlimit]
    rw [← hsum] at hsaved hposition
    refine ⟨?_, hposition.trans hmeets''.position.symm⟩
    have hstores := h.sameMessages.saveAll (t₁.filterMap Plan.Step.saved?)
    rw [← Store.saveAll_append, saves_eq hsaved hmeets''.saved] at hstores
    exact (h'.sameMessages.trans hstores).trans h''.sameMessages.symm

/-- A mailbox with two items, and a key for every position. -/
def twoItemMailbox : Mailbox where
  items := [{ serverId := some "5:1" }, { serverId := some "5:2" }]
  hasIds := by simp
  position key := if key = "3" then 2 else if key = "2" then 1 else 0
  position_initialKey := rfl

/-- A server that holds the two items, and puts no more than the given number into a window. -/
def twoItemServer (n : Nat) (hn : 0 < n) : twoItemMailbox.Server where
  keyAt p := if p = 0 then "1" else if p = 1 then "2" else "3"
  position_keyAt := by decide
  keyAt_ne := by decide
  batch _ size := min n size
  batch_pos _ _ _ := by omega
  batch_le _ _ := by omega

/-- The two items come one by one, both at once, and in two syncs. -/
theorem batches_immaterial_two : ∃ t stats s t' s' t₁ s₁ t₂ s₂, ∃ r' r₁ r₂,
    Undisturbed twoItemMailbox "inbox" ⟨2, 0⟩ false Session.fresh.shared t (.ok stats) s ∧
    (twoItemServer 1 (by decide)).Follows t ∧
    Undisturbed twoItemMailbox "inbox" ⟨2, 0⟩ false Session.fresh.shared t' r' s' ∧
    (twoItemServer 2 (by decide)).Follows t' ∧
    Undisturbed twoItemMailbox "inbox" ⟨1, 0⟩ false Session.fresh.shared t₁ r₁ s₁ ∧
    Undisturbed twoItemMailbox "inbox" ⟨1, 0⟩ false s₁ t₂ r₂ s₂ ∧
    stats.messages = 2 ∧ stats.moreAvailable = false ∧
    Store.SameMessages s.store s'.store ∧ Store.SameMessages s₂.store s.store := by
  obtain ⟨hone, htwo, hsum⟩ := batches_immaterial twoItemMailbox "inbox"
  have hfree : "inbox" ∉ Session.fresh.shared.locks.active := List.not_mem_nil
  have hstart : twoItemMailbox.reached Session.fresh.shared "inbox" = 0 := rfl
  obtain ⟨t, stats, s, h, hfollows, -⟩ :=
    exists_undisturbed (twoItemServer 1 (by decide)) "inbox" ⟨2, 0⟩ hfree rfl (by simp [hstart])
  obtain ⟨t', stats', s', h', hfollows', -⟩ :=
    exists_undisturbed (twoItemServer 2 (by decide)) "inbox" ⟨2, 0⟩ hfree rfl (by simp [hstart])
  obtain ⟨t₁, stats₁, s₁, h₁, -, hactive₁, hpolicy₁⟩ :=
    exists_undisturbed (twoItemServer 1 (by decide)) "inbox" ⟨1, 0⟩ hfree rfl (by simp [hstart])
  -- the second of two syncs goes on from where the first has ended
  obtain ⟨-, -, -, hreached₁, -⟩ := hone _ _ _ _ _ _ h₁
  obtain ⟨t₂, stats₂, s₂, h₂, -⟩ :=
    exists_undisturbed (twoItemServer 2 (by decide)) "inbox" ⟨1, 0⟩ (hactive₁ ▸ hfree) hpolicy₁
      (hreached₁ ▸ Nat.min_le_left ..)
  obtain ⟨stats, hstats, -, -, hmessages, hmore⟩ := hone _ _ _ _ _ _ h
  cases hstats
  rw [hstart] at hmessages hmore
  obtain ⟨hsplit, -⟩ := hsum ⟨1, 0⟩ ⟨1, 0⟩ _ _ _ _ _ _ _ _ _ _ _ _ _ (by decide) h₁ h₂ h
  refine ⟨t, stats, s, t', s', t₁, s₁, t₂, s₂, _, _, _, h, hfollows, h', hfollows', h₁, h₂,
    hmessages, ?_, ?_, hsplit⟩
  · rw [← Bool.not_eq_true, hmore]
    decide
  · exact htwo twoItemMailbox rfl _ _ _ _ _ _ _ _ _ _ _ _ rfl rfl (.refl _) h h'

end Account

end MailSync
