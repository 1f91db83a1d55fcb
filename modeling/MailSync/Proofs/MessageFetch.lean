import MailSync.Proofs.Exchange
import MailSync.Sync.Fetch

/-!
# What a fetch keeps

The rule for fetching a message: one exchange, whose key is stored before the message is looked for.
-/

namespace MailSync

namespace MessageFetch

open Exchange

variable {σ : Type} {C : Plan.Contract σ} {s : σ} {bad : Failure → σ → Prop} {folder id : String}

theorem collection_of_accepted {response : Wire.Sync} {c : Wire.Collection}
    (h : accepted id response = .ok c) :
    response.collection? = some c ∧ c.status = some Wire.statusOk := by
  unfold accepted at h
  split at h
  · cases h
  · rename_i c' hc
    split at h
    · rename_i hstatus
      cases h
      exact ⟨hc, hstatus⟩
    · cases h

/-- A fetch is a read of the key and one exchange, and ends well or badly where the key has been
stored. -/
theorem keeps_fetch (hC : C.Lenient) {J : String → σ → Prop} {ok : Message → σ → Prop}
    (hread : Job.Keeps C J bad (readKey folder) s)
    (hsend : ∀ key s, J key s → C.maySend s (Wire.Sync.fetch folder key id))
    (hreply : ∀ key s r, J key s → C.admits s (.sent (Wire.Sync.fetch folder key id) r) →
      J key (C.after s (.sent (Wire.Sync.fetch folder key id) r)))
    (hbad : ∀ key e s, J key s → bad e s)
    (hwrite : ∀ key s response c key', J key s →
      C.admits s (.sent (Wire.Sync.fetch folder key id) (.ok response)) →
      response.Accepted c → c.syncKey = some key' →
        Job.Keeps C (fun _ s' => (∀ m, ok m s') ∧ ∀ e, bad e s') bad (writeKey folder key')
          (C.after s (.sent (Wire.Sync.fetch folder key id) (.ok response)))) :
    Plan.Keeps C (Job.Ends ok bad) (fetch folder id) s := by
  change Job.Keeps C ok bad (fetchJob folder id) s
  rw [fetchJob, Job.keeps_bind]
  refine hread.mono (fun key s' hs => ?_) fun _ _ h => h
  refine keeps_commit hC hs (fun _ _ => collection_of_accepted) (hsend key) (hreply key)
    (hbad key) fun s response c key' hs hr hc hkey => ?_
  refine (hwrite key s response c key' hs hr hc hkey).mono (fun _ s' h => ?_) fun _ _ h => h
  split
  · exact h.2 _
  · exact h.1 _

end MessageFetch

end MailSync
