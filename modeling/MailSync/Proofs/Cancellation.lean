import MailSync.Proofs.Budget
import MailSync.Proofs.Reporting

/-!
# Cancelling a sync

A sync that can be cancelled looks at its flag before it asks for a window, and nowhere else. So in
the same surroundings it does what a sync does that nobody can cancel, and if it stops short, it
does so between two round trips.

* `Plan.Cuts` : one plan looks at a flag where the other goes on with a round trip, and is otherwise
  the same.
* `Plan.Cuts.compares` : how the runs of two such plans compare in the same surroundings.
* `FolderSync.cuts_windows` : the windows of a sync that can be cancelled, and those of one that
  cannot, are two such plans.
* `Account.sync_watched` : where the requests for items come from.
* `Account.cancelled_at_boundary` : what a sync that can be cancelled does, whenever its flag is
  raised.
-/

namespace MailSync

namespace Plan

variable {α β : Type}

namespace Step

/-- The step looks at the cancel flag. -/
def looks : Step → Bool
  | .asked .cancelled _ => true
  | _ => false

/-- The step has an effect: it sends a request, asks for a policy key or holds one, stores a key or
a message, or announces a message. -/
def acts : Step → Bool
  | .sent _ _ | .asked .handshake _ | .asked (.setPolicyKey _) _ | .asked (.writeExtra _ _ _) _
  | .asked (.save _ _) _ | .asked (.notify (.newMessage _ _ _)) _ => true
  | _ => false

end Step

/-- The steps without the looks at the cancel flag. -/
def unwatched (t : List Step) : List Step :=
  t.filter (!·.looks)

/-- A cancel flag: whether it is raised after the steps so far, the latest first. Once it is raised,
it stays so. -/
structure Flag where
  /-- The flag is raised. -/
  raised : List Step → Bool
  /-- A flag that is raised stays so. -/
  stays : ∀ st past, raised past = true → raised (st :: past) = true

/-- The surroundings with a cancel flag. What else they hold does not depend on who looks at it. -/
def Surroundings.flagged (S : Surroundings) (flag : Flag) : Surroundings where
  reply past d := S.reply (unwatched past) d
  answer past
    | .cancelled => flag.raised past
    | q => S.answer (unwatched past) q

/-- No run of the plan looks at the cancel flag. -/
def Lookless (p : Plan α) : Prop :=
  ∀ t a, Runs p t a → ∀ st ∈ t, st.looks = false

/-- However the plan runs, it only winds up: nothing comes of it but the statistics of a sync that
has been cancelled. -/
def WindsUp (p : Plan (Except Failure SyncStats)) (stats : SyncStats) : Prop :=
  ∀ t r, Runs p t r → (∀ st ∈ t, st.acts = false ∧ st.opensTrip = false ∧ st.looks = false) ∧
    r = .ok { stats with cancelled := true }

/-- The first plan looks at the cancel flag where the second goes on with a round trip, below a
limit of messages, and winds up if the flag is raised. Otherwise they are the same. -/
inductive Cuts (limit : Nat) :
    Plan (Except Failure SyncStats) → Plan (Except Failure SyncStats) → Prop
  | done (r : Except Failure SyncStats) : Cuts limit (.done r) (.done r)
  | send (d : Wire.Sync) {k k' : Except Failure Wire.Sync → Plan (Except Failure SyncStats)}
      (h : ∀ reply, Cuts limit (k reply) (k' reply)) : Cuts limit (.send d k) (.send d k')
  | ask {q : Query} {k k' : q.Answer → Plan (Except Failure SyncStats)} (hq : q ≠ .cancelled)
      (h : ∀ a, Cuts limit (k a) (k' a)) : Cuts limit (.ask q k) (.ask q k')
  | look {k : Bool → Plan (Except Failure SyncStats)} {q : Plan (Except Failure SyncStats)}
      {stats : SyncStats} (hlt : stats.messages < limit) (hstop : WindsUp (k true) stats)
      (hopens : ∃ k', q = .ask .policyKey k') (hgo : Cuts limit (k false) q) :
      Cuts limit (.ask .cancelled k) q

/-! ### Plans that do not look -/

theorem Lookless.reply {d : Wire.Sync} {k : Except Failure Wire.Sync → Plan α}
    (h : Lookless (.send d k)) (reply : Except Failure Wire.Sync) : Lookless (k reply) :=
  fun _ a hruns st hst => h _ a (.send hruns) st (List.mem_cons_of_mem _ hst)

theorem Lookless.answer {q : Query} {k : q.Answer → Plan α} (h : Lookless (.ask q k))
    (a : q.Answer) : Lookless (k a) :=
  fun _ b hruns st hst => h _ b (.ask hruns) st (List.mem_cons_of_mem _ hst)

theorem Lookless.ne {q : Query} {k : q.Answer → Plan α} (h : Lookless (.ask q k)) :
    q ≠ .cancelled := by
  rintro rfl
  -- a plan that asks could run on, and would have looked then
  obtain ⟨t, a, hruns⟩ := exists_runs (k false)
  exact Bool.noConfusion (h _ a (.ask hruns) _ List.mem_cons_self)

/-! ### One plan after another -/

variable {limit : Nat} {p q : Plan (Except Failure SyncStats)}

/-- Plans that go on from the same steps, which do not look. -/
theorem Cuts.after {p : Plan α} {f g : α → Plan (Except Failure SyncStats)} (hp : Lookless p)
    (h : ∀ a, Cuts limit (f a) (g a)) : Cuts limit (p >>= f) (p >>= g) := by
  induction p with
  | done a => exact h a
  | send d k ih => exact .send d fun reply => ih reply (hp.reply reply)
  | ask q k ih => exact .ask hp.ne fun a => ih a (hp.answer a)

theorem Cuts.of_lookless (hp : Lookless p) : Cuts limit p p := by
  rw [← bind_done p]
  exact Cuts.after hp .done

/-- Plans that go on in the same way, which does not look and has no effect after a cancellation. -/
theorem Cuts.bind {f : Except Failure SyncStats → Plan (Except Failure SyncStats)}
    (h : Cuts limit p q) (hf : ∀ r, Lookless (f r))
    (hstop : ∀ stats : SyncStats, WindsUp (f (.ok { stats with cancelled := true })) stats) :
    Cuts limit (p >>= f) (q >>= f) := by
  induction h with
  | done r => exact .of_lookless (hf r)
  | send d _ ih => exact .send d ih
  | ask hq _ ih => exact .ask hq ih
  | @look k q stats hlt hcancel hopens _ ih =>
    refine .look hlt ?_ ?_ ih
    · intro t r hruns
      obtain ⟨t₁, t₂, r', rfl, h₁, h₂⟩ := runs_bind_iff.1 hruns
      obtain ⟨hquiet, rfl⟩ := hcancel t₁ r' h₁
      obtain ⟨hquiet', hr⟩ := hstop stats t₂ r h₂
      exact ⟨List.forall_mem_append.2 ⟨hquiet, hquiet'⟩, hr⟩
    · obtain ⟨k', rfl⟩ := hopens
      exact ⟨_, rfl⟩

/-! ### Runs in the same surroundings -/

/-- How a run that looks at a cancel flag compares to one that does not. They are the same but for
the looks, or the first ends where it has found the flag raised, and there the second goes on with a
round trip. -/
inductive Compares (limit : Nat) (t' : List Step) (r' : Except Failure SyncStats) (t : List Step)
    (r : Except Failure SyncStats) : Prop
  | same (hraised : .asked .cancelled true ∉ t') (ht : unwatched t' = t) (hr : r' = r)
  | cut (before after rest : List Step) (key : Option String) (stats : SyncStats)
      (ht' : t' = before ++ .asked .cancelled true :: after)
      (hbefore : .asked .cancelled true ∉ before)
      (hafter : ∀ st ∈ after, st.acts = false ∧ st.opensTrip = false ∧ st.looks = false)
      (ht : t = unwatched before ++ .asked .policyKey key :: rest)
      (hlt : stats.messages < limit) (hr : r' = .ok { stats with cancelled := true })

variable {t t' : List Step} {r r' : Except Failure SyncStats} {S : Surroundings} {flag : Flag}

theorem unwatched_cons {st : Step} (hst : st.looks = false) (t : List Step) :
    unwatched (st :: t) = st :: unwatched t := by
  simp [unwatched, hst]

theorem Compares.cons {st : Step} (hst : st.looks = false) (h : Compares limit t' r' t r) :
    Compares limit (st :: t') r' (st :: t) r := by
  have hne : Step.asked .cancelled true ≠ st := by
    rintro rfl
    cases hst
  cases h with
  | same hraised ht hr =>
    refine .same ?_ (by rw [unwatched_cons hst, ht]) hr
    intro hmem
    obtain heq | hmem := List.mem_cons.1 hmem
    · exact hne heq
    · exact hraised hmem
  | cut before after rest key stats ht' hbefore hafter ht hlt hr =>
    refine .cut (st :: before) after rest key stats (by rw [ht']; rfl) ?_ hafter ?_ hlt hr
    · intro hmem
      obtain heq | hmem := List.mem_cons.1 hmem
      · exact hne heq
      · exact hbefore hmem
    · rw [unwatched_cons hst, ht, List.cons_append]

theorem Compares.look (h : Compares limit t' r' t r) :
    Compares limit (.asked .cancelled false :: t') r' t r := by
  cases h with
  | same hraised ht hr => exact .same (by simpa using hraised) ht hr
  | cut before after rest key stats ht' hbefore hafter ht hlt hr =>
    exact .cut (.asked .cancelled false :: before) after rest key stats (by rw [ht']; rfl)
      (by simpa using hbefore) hafter ht hlt hr

theorem answer_flagged {q : Query} (hq : q ≠ .cancelled) (past : List Step) :
    (S.flagged flag).answer past q = S.answer (unwatched past) q := by
  cases q with
  | cancelled => exact absurd rfl hq
  | _ => rfl

theorem looks_asked {q : Query} (hq : q ≠ .cancelled) (a : q.Answer) :
    (Step.asked q a).looks = false := by
  cases q with
  | cancelled => exact absurd rfl hq
  | _ => rfl

/-- How the runs of a plan that looks at a flag and of one that does not compare in the same
surroundings. -/
theorem Cuts.compares (h : Cuts limit p q) {past : List Step} (hp : Runs p t' r')
    (hp' : Throughout (S.flagged flag).Grants past t') (hq : Runs q t r)
    (hq' : Throughout S.Grants (unwatched past) t) : Compares limit t' r' t r := by
  -- along the plans: both hear the same, as the surroundings do not notice a look
  induction h generalizing past t t' with
  | done r₀ =>
    obtain ⟨rfl, rfl⟩ := runs_done_iff.1 hp
    obtain ⟨rfl, rfl⟩ := runs_done_iff.1 hq
    exact .same List.not_mem_nil rfl rfl
  | send d _ ih =>
    obtain ⟨reply', t₁', rfl, h₁'⟩ := runs_send_iff.1 hp
    obtain ⟨reply, t₁, rfl, h₁⟩ := runs_send_iff.1 hq
    obtain ⟨hreply', hrest'⟩ := hp'
    obtain ⟨hreply, hrest⟩ := hq'
    obtain rfl : reply' = reply := hreply'.trans hreply.symm
    exact (ih reply' h₁' hrest' h₁ hrest).cons rfl
  | @ask q k k' hne _ ih =>
    obtain ⟨a', t₁', rfl, h₁'⟩ := runs_ask_iff.1 hp
    obtain ⟨a, t₁, rfl, h₁⟩ := runs_ask_iff.1 hq
    obtain ⟨ha', hrest'⟩ := hp'
    obtain ⟨ha, hrest⟩ := hq'
    obtain rfl : a' = a := (ha'.trans (answer_flagged hne past)).trans ha.symm
    have hlooks := looks_asked hne a'
    rw [← unwatched_cons hlooks] at hrest
    exact (ih a' h₁' hrest' h₁ hrest).cons hlooks
  | @look k q stats hlt hstop hopens _ ih =>
    obtain ⟨raised, t₁', rfl, h₁'⟩ := runs_ask_iff.1 hp
    cases raised with
    | false => exact (ih h₁' hp'.2 hq hq').look
    | true =>
      obtain ⟨k', rfl⟩ := hopens
      obtain ⟨key, t₁, rfl, -⟩ := runs_ask_iff.1 hq
      obtain ⟨hafter, rfl⟩ := hstop t₁' r' h₁'
      exact .cut [] t₁' t₁ key stats rfl List.not_mem_nil hafter rfl hlt rfl

/-! ### Effects, round trip by round trip -/

/-- The effects among the steps. -/
def effects (t : List Step) : List Step :=
  t.filter (·.acts)

/-- The effects of each round trip that has been begun: those of the steps up to the next one. -/
def effectsByTrip : List Step → List (List Step)
  | [] => []
  | st :: t =>
    if st.opensTrip then effects (t.takeWhile (!·.opensTrip)) :: effectsByTrip t
    else effectsByTrip t

theorem effectsByTrip_cons_of_opens {st : Step} (h : st.opensTrip = true) (t : List Step) :
    effectsByTrip (st :: t) = effects (t.takeWhile (!·.opensTrip)) :: effectsByTrip t :=
  if_pos h

theorem effectsByTrip_cons {st : Step} (h : st.opensTrip = false) (t : List Step) :
    effectsByTrip (st :: t) = effectsByTrip t := by
  rw [effectsByTrip, h]
  rfl

/-- The steps that have an effect or begin a round trip. -/
def marks (t : List Step) : List Step :=
  t.filter fun st => st.acts || st.opensTrip

variable {st : Step}

theorem effects_append (t t' : List Step) : effects (t ++ t') = effects t ++ effects t' :=
  List.filter_append ..

theorem effects_marks (t : List Step) : effects (marks t) = effects t := by
  rw [effects, marks, List.filter_filter]
  refine List.filter_congr fun st _ => ?_
  cases st.acts <;> rfl

theorem marks_append (t t' : List Step) : marks (t ++ t') = marks t ++ marks t' :=
  List.filter_append ..

/-- Looks at the flag leave no mark. -/
theorem marks_unwatched (t : List Step) : marks (unwatched t) = marks t := by
  rw [marks, unwatched, List.filter_filter]
  refine List.filter_congr fun st _ => ?_
  cases hst : st.looks with
  | false => simp
  | true =>
    cases st with
    | sent => cases hst
    | asked q a =>
      cases q with
      | cancelled => rfl
      | _ => cases hst

theorem marks_eq_nil (h : ∀ st ∈ t, st.acts = false ∧ st.opensTrip = false) : marks t = [] := by
  refine List.filter_eq_nil_iff.2 fun st hst => ?_
  rw [(h st hst).1, (h st hst).2]
  exact Bool.false_ne_true

theorem effects_takeWhile_marks (t : List Step) :
    effects ((marks t).takeWhile (!·.opensTrip)) = effects (t.takeWhile (!·.opensTrip)) := by
  induction t with
  | nil => rfl
  | cons st t ih =>
    cases hopens : st.opensTrip with
    | true => simp [marks, hopens]
    | false =>
      cases hacts : st.acts with
      | true => simpa [marks, hopens, hacts, effects] using ih
      | false => simpa [marks, hopens, hacts, effects] using ih

/-- The effects of the round trips can be told from the marks alone. -/
theorem effectsByTrip_marks (t : List Step) : effectsByTrip (marks t) = effectsByTrip t := by
  induction t with
  | nil => rfl
  | cons st t ih =>
    cases hopens : st.opensTrip with
    | true =>
      have hmarks : marks (st :: t) = st :: marks t := by simp [marks, hopens]
      rw [hmarks, effectsByTrip_cons_of_opens hopens, effectsByTrip_cons_of_opens hopens, ih,
        effects_takeWhile_marks]
    | false =>
      rw [effectsByTrip_cons hopens]
      cases hacts : st.acts with
      | true =>
        have hmarks : marks (st :: t) = st :: marks t := by simp [marks, hacts]
        rw [hmarks, effectsByTrip_cons hopens, ih]
      | false =>
        have hmarks : marks (st :: t) = marks t := by simp [marks, hopens, hacts]
        rw [hmarks, ih]

theorem takeWhile_append_opens (hst : st.opensTrip = true) (t t' : List Step) :
    (t ++ st :: t').takeWhile (!·.opensTrip) = t.takeWhile (!·.opensTrip) := by
  induction t with
  | nil => simp [hst]
  | cons st' t ih => rw [List.cons_append, List.takeWhile_cons, List.takeWhile_cons, ih]

/-- A step that begins a round trip ends the one before it. -/
theorem effectsByTrip_append (hst : st.opensTrip = true) (t t' : List Step) :
    effectsByTrip (t ++ st :: t') = effectsByTrip t ++ effectsByTrip (st :: t') := by
  induction t with
  | nil => rfl
  | cons st' t ih =>
    rw [List.cons_append]
    cases hst' : st'.opensTrip with
    | true =>
      rw [effectsByTrip_cons_of_opens hst', effectsByTrip_cons_of_opens hst',
        takeWhile_append_opens hst, ih, List.cons_append]
    | false => rw [effectsByTrip_cons hst', effectsByTrip_cons hst', ih]

theorem effects_unwatched (t : List Step) : effects (unwatched t) = effects t := by
  rw [← effects_marks, marks_unwatched, effects_marks]

theorem effectsByTrip_unwatched (t : List Step) :
    effectsByTrip (unwatched t) = effectsByTrip t := by
  rw [← effectsByTrip_marks, marks_unwatched, effectsByTrip_marks]

/-- Steps that have found the flag raised and have wound up leave no mark. -/
theorem marks_cut {before after : List Step}
    (hafter : ∀ st ∈ after, st.acts = false ∧ st.opensTrip = false ∧ st.looks = false) :
    marks (before ++ .asked .cancelled true :: after) = marks before := by
  have hnil : marks (.asked .cancelled true :: after) = [] :=
    marks_eq_nil (List.forall_mem_cons.2 ⟨⟨rfl, rfl⟩, fun st hst =>
      ⟨(hafter st hst).1, (hafter st hst).2.1⟩⟩)
  rw [marks_append, hnil, List.append_nil]

theorem effectsByTrip_cut {before after : List Step}
    (hafter : ∀ st ∈ after, st.acts = false ∧ st.opensTrip = false ∧ st.looks = false) :
    effectsByTrip (before ++ .asked .cancelled true :: after) =
      effectsByTrip (unwatched before) := by
  rw [← effectsByTrip_marks, marks_cut hafter, effectsByTrip_marks, effectsByTrip_unwatched]

/-! ### What a run with a flag shares with the run without it -/

theorem Compares.effects (h : Compares limit t' r' t r) : effects t' <+: effects t := by
  cases h with
  | same hraised ht hr =>
    subst ht
    rw [effects_unwatched]
  | cut before after rest key stats ht' hbefore hafter ht hlt hr =>
    rw [ht', ← effects_marks, marks_cut hafter, effects_marks, ht, effects_append,
      effects_unwatched]
    exact List.prefix_append _ _

theorem Compares.trips (h : Compares limit t' r' t r) : effectsByTrip t' <+: effectsByTrip t := by
  cases h with
  | same hraised ht hr =>
    subst ht
    rw [effectsByTrip_unwatched]
  | cut before after rest key stats ht' hbefore hafter ht hlt hr =>
    rw [ht', effectsByTrip_cut hafter, ht, effectsByTrip_append rfl]
    exact List.prefix_append _ _

theorem Compares.stops (h : Compares limit t' r' t r) {before after : List Step}
    (ht : t' = before ++ .asked .cancelled true :: after) : ∀ st ∈ after, st.acts = false := by
  cases h with
  | same hraised =>
    subst ht
    exact absurd (List.mem_append_right _ List.mem_cons_self) hraised
  | cut before' after' rest key stats ht' hbefore hafter =>
    -- the flag has been found raised once, so there is one way to split the steps
    have hafter' : .asked .cancelled true ∉ after' := by
      intro hmem
      cases (hafter _ hmem).2.2
    rw [ht'] at ht
    obtain ⟨-, -, rfl⟩ := (List.append_cons_inj_of_notMem hbefore hafter').1 ht
    exact fun st hst => (hafter st hst).1

/-- A run that has found the flag raised reports it, with some of the limit left. The run without
the flag goes on with a round trip. -/
theorem Compares.short (h : Compares limit t' r' t r) (hraised : .asked .cancelled true ∈ t') :
    ∃ stats, r' = .ok stats ∧ stats.cancelled = true ∧ stats.messages < limit ∧
      (effectsByTrip t').length < (effectsByTrip t).length := by
  cases h with
  | same hdown => exact absurd hraised hdown
  | cut before after rest key stats ht' hbefore hafter ht hlt hr =>
    refine ⟨_, hr, rfl, hlt, ?_⟩
    rw [ht', effectsByTrip_cut hafter, ht, effectsByTrip_append rfl,
      effectsByTrip_cons_of_opens rfl, List.length_append, List.length_cons]
    omega

/-- A run that has not found the flag raised is the run without the flag, but for its looks. -/
theorem Compares.eq_of_down (h : Compares limit t' r' t r)
    (hdown : .asked .cancelled true ∉ t') : unwatched t' = t ∧ r' = r := by
  cases h with
  | same _ ht hr => exact ⟨ht, hr⟩
  | cut before after rest key stats ht' => exact absurd (by simp [ht']) hdown

end Plan

namespace FolderSync

open Exchange Plan

variable {α β : Type} {limit : Nat} {folder : String} {t : List Plan.Step}

/-! ### The parts of a sync that do not look -/

theorem trip_lookless {d : Wire.Sync} {r : Except Failure Wire.Sync} (h : Trip d t r) :
    ∀ st ∈ t, st.looks = false := by
  cases h <;> simp [Plan.Step.looks]

theorem lookless_advance (d : Wire.Sync) : Lookless (advance folder d).run := by
  intro t r hruns
  cases commits_of_runs_advance hruns with
  | fails h | refused h | keyless h => exact trip_lookless h
  | unwritten h | stored h =>
    exact List.forall_mem_append.2 ⟨trip_lookless h, List.forall_mem_singleton.2 rfl⟩

theorem lookless_deliverAll (items : List Wire.Item) :
    Lookless (deliverAll folder items).run := by
  intro t r hruns
  have hdelivers := delivers_of_runs hruns
  clear hruns
  induction hdelivers with
  | nil | nameless => exact List.forall_mem_nil _
  | refused => exact List.forall_mem_singleton.2 rfl
  | delivered _ _ ih => exact List.forall_mem_cons.2 ⟨rfl, List.forall_mem_cons.2 ⟨rfl, ih⟩⟩

theorem lookless_readKey : Lookless (readKey folder).run := by
  intro t r hruns
  obtain ⟨e, rfl, -⟩ | ⟨stored, rfl, -⟩ := runs_readKey hruns
  · exact List.forall_mem_singleton.2 rfl
  · exact List.forall_mem_singleton.2 rfl

theorem lookless_establish (key : String) : Lookless (establish folder key).run := by
  intro t r hruns
  rw [establish] at hruns
  split at hruns
  · obtain ⟨t₁, t₂, p, rfl, h₁, h₂⟩ | ⟨e, -, h₁⟩ := Job.runs_bind_cases hruns
    · obtain ⟨rfl, -⟩ := runs_done_iff.1 h₂
      rw [List.append_nil]
      exact lookless_advance _ t₁ _ h₁
    · exact lookless_advance _ t _ h₁
  · obtain ⟨rfl, -⟩ := runs_done_iff.1 hruns
    exact List.forall_mem_nil _

/-- Jobs that go on from the same steps, which do not look. -/
theorem cuts_bind {j : Job α} {f g : α → Job SyncStats} (hj : Lookless j.run)
    (h : ∀ a, Cuts limit (f a).run (g a).run) : Cuts limit (j >>= f).run (j >>= g).run := by
  refine Cuts.after hj fun x => ?_
  cases x with
  | ok a => exact h a
  | error e => exact .done _

/-! ### Where a sync looks -/

variable {config : SyncConfig}

/-- The windows of a sync that can be cancelled look at the flag before each round trip. -/
theorem cuts_windows (key : String) (stats : SyncStats) :
    Cuts config.visibleLimit.toNat (windows folder config true key stats).run
      (windows folder config false key stats).run := by
  -- on what is left of the budget, which is what the loop ends by
  induction hn : config.visibleLimit.toNat - stats.messages using Nat.strongRecOn
    generalizing key stats with
  | ind n ih =>
    rw [windows.eq_def folder config true, windows.eq_def folder config false]
    by_cases hlt : stats.messages < config.visibleLimit.toNat
    · rw [dif_pos hlt, dif_pos hlt]
      refine .look hlt ?_ ⟨_, rfl⟩ ?_
      · intro t r hruns
        obtain ⟨rfl, rfl⟩ := runs_done_iff.1 hruns
        exact ⟨List.forall_mem_nil _, rfl⟩
      refine cuts_bind (lookless_advance _) fun p => ?_
      obtain ⟨c, key'⟩ := p
      refine cuts_bind (lookless_deliverAll _) fun _ => ?_
      by_cases hmore : c.hasMore = true
      · by_cases hadded : c.added = []
        · simp only [hmore, hadded, not_true_eq_false, ↓reduceIte, ↓reduceDIte]
          exact .done _
        · -- the window has brought something, so less is left for the next
          have hpos := List.length_pos_iff.2 hadded
          simp only [hmore, hadded, not_true_eq_false, ↓reduceIte, ↓reduceDIte]
          refine ih _ ?_ key' (addWindow stats c) rfl
          simp only [addWindow]
          omega
      · simp only [hmore, Bool.false_eq_true, not_false_eq_true, ↓reduceIte]
        exact .done _
    · rw [dif_neg hlt, dif_neg hlt]
      exact .done _

theorem cuts_pull : Cuts config.visibleLimit.toNat (pull folder config true).run
    (pull folder config false).run :=
  cuts_bind lookless_readKey fun key => cuts_bind (lookless_establish key) fun p =>
    cuts_windows p.1 p.2

theorem cuts_sync : Cuts config.visibleLimit.toNat (sync folder config true)
    (sync folder config false) := by
  refine .ask nofun fun _ => cuts_pull.bind ?_ ?_
  · intro r t r' hruns
    cases r with
    | ok stats | error e =>
      obtain ⟨_, t', rfl, h⟩ := runs_ask_iff.1 hruns
      obtain ⟨rfl, -⟩ := runs_done_iff.1 h
      exact List.forall_mem_singleton.2 rfl
  · intro stats t r hruns
    obtain ⟨_, t', rfl, h⟩ := runs_ask_iff.1 hruns
    obtain ⟨rfl, rfl⟩ := runs_done_iff.1 h
    exact ⟨List.forall_mem_singleton.2 ⟨rfl, rfl, rfl⟩, rfl⟩

end FolderSync

namespace Account

open Plan

variable {folder : String} {config : SyncConfig}

/-- A sync that can be cancelled is the sync that nobody can cancel, but for its looks. -/
theorem cuts_account : Cuts config.visibleLimit.toNat (Account.syncCancellable folder config)
    (Account.sync folder config) := by
  refine .ask nofun ?_
  intro a
  cases a with
  | error e => exact .done _
  | ok guard =>
    refine FolderSync.cuts_sync.bind ?_ ?_
    · intro r t r' hruns
      obtain ⟨_, t', rfl, h⟩ := runs_ask_iff.1 hruns
      obtain ⟨rfl, -⟩ := runs_done_iff.1 h
      exact List.forall_mem_singleton.2 rfl
    · intro stats t r hruns
      obtain ⟨_, t', rfl, h⟩ := runs_ask_iff.1 hruns
      obtain ⟨rfl, rfl⟩ := runs_done_iff.1 h
      exact ⟨List.forall_mem_singleton.2 ⟨rfl, rfl, rfl⟩, rfl⟩

/-! ### Where requests for items come from -/

open Exchange FolderSync

variable {past t t' : List Plan.Step} {d : Wire.Sync} {key : String} {stats : SyncStats}

/-- The flag has been found down right before the round trip of a request for items. -/
def Watched (past : List Plan.Step) : Plan.Step → Prop
  | .sent d _ => d.asksForItems = true → ∃ trip earlier,
      past = trip ++ .asked .cancelled false :: earlier ∧ roundTrips trip = 1 ∧
        ∀ st ∈ trip, st.looks = false
  | _ => True

theorem watched_of_unasked
    (h : ∀ d reply, .sent d reply ∈ t → d.asksForItems = false) :
    Plan.Throughout Watched past t := by
  refine Plan.throughout_of_forall_mem fun past st hst => ?_
  cases st with
  | asked q a => trivial
  | sent d reply =>
    intro hasks
    rw [h d reply hst] at hasks
    cases hasks

theorem watched_of_unsent (h : ∀ st ∈ t, st.exchange? = none) :
    Plan.Throughout Watched past t :=
  watched_of_unasked fun _ _ hst => nomatch h _ hst

/-- A round trip right after a look that has found the flag down. -/
theorem trip_watched {r : Except Failure Wire.Sync} (h : Trip d t r) :
    Plan.Throughout Watched (.asked .cancelled false :: past) t := by
  have hsend : ∀ (trip : List Plan.Step) {reply}, roundTrips trip = 1 →
      (∀ st ∈ trip, st.looks = false) →
        Watched (trip ++ .asked .cancelled false :: past) (.sent d reply) :=
    fun _ _ htrip hlooks _ => ⟨_, past, rfl, htrip, hlooks⟩
  cases h with
  | unprovisioned e => exact ⟨trivial, trivial, trivial⟩
  | held key reply =>
    exact ⟨trivial, hsend [_] rfl (by simp [Plan.Step.looks]), trivial⟩
  | provisioned key reply =>
    exact ⟨trivial, trivial, trivial,
      hsend [_, _, _] rfl (by simp [Plan.Step.looks]), trivial⟩
  | rejected key reply e =>
    exact ⟨trivial, hsend [_] rfl (by simp [Plan.Step.looks]), trivial, trivial, trivial⟩
  | retried key reply key' reply' =>
    exact ⟨trivial, hsend [_] rfl (by simp [Plan.Step.looks]), trivial, trivial, trivial,
      hsend [_, _, _, _, _] rfl (by simp [Plan.Step.looks]), trivial⟩

theorem commits_watched {r : Except Failure (Wire.Collection × String)}
    (h : Commits folder (accepted folder) d t r) :
    Plan.Throughout Watched (.asked .cancelled false :: past) t := by
  cases h with
  | fails h | refused h | keyless h => exact trip_watched h
  | unwritten h | stored h => exact Plan.throughout_append.2 ⟨trip_watched h, trivial, trivial⟩

theorem look_watched (h : Plan.Throughout Watched (.asked .cancelled false :: past) t) :
    Plan.Throughout Watched past (checks true ++ t) :=
  ⟨trivial, h⟩

/-- Every request for items in the windows of a sync that can be cancelled is watched. -/
theorem windows_watched {r : Except Failure SyncStats}
    (h : Windows folder config true key stats t r) : Plan.Throughout Watched past t := by
  induction h generalizing past with
  | spent => trivial
  | cancelled => exact ⟨trivial, trivial⟩
  | fails _ hadvance => exact look_watched (commits_watched hadvance)
  | undelivered _ hadvance hitems | last _ hadvance hitems | empty _ hadvance hitems =>
    exact look_watched (Plan.throughout_append.2 ⟨commits_watched hadvance,
      watched_of_unsent (exchange_eq_none_of_delivers hitems)⟩)
  | next _ hadvance hitems _ _ _ ih =>
    exact look_watched (Plan.throughout_append.2 ⟨commits_watched hadvance,
      Plan.throughout_append.2 ⟨watched_of_unsent (exchange_eq_none_of_delivers hitems), ih⟩⟩)

theorem pulls_watched {r : Except Failure SyncStats} (h : Pulls folder config true t r) :
    Plan.Throughout Watched past t := by
  have hintroduces : ∀ {t r}, Commits folder (accepted folder)
      (Wire.Sync.handshake folder Wire.initialKey) t r → ∀ past,
        Plan.Throughout Watched past t := by
    intro t r hadvance past
    refine watched_of_unasked ?_
    intro d reply hsent
    rw [commits_sends hadvance hsent]
    rfl
  cases h with
  | unread e => exact ⟨trivial, trivial⟩
  | known hkey h => exact ⟨trivial, windows_watched h⟩
  | refused hkey hadvance => exact ⟨trivial, hintroduces hadvance _⟩
  | introduced hkey hadvance h =>
    exact ⟨trivial, Plan.throughout_append.2 ⟨hintroduces hadvance _, windows_watched h⟩⟩

theorem sync_watched {r : Except Failure SyncStats}
    (h : Plan.Runs (Account.syncCancellable folder config) t r) :
    Plan.Throughout Watched [] t := by
  have hruns : Plan.Runs (exclusively folder (FolderSync.sync folder config true)) t r := h
  obtain ⟨e, rfl, -⟩ | ⟨guard, t', rfl, hpulls⟩ := course_of_sync hruns
  · exact ⟨trivial, trivial⟩
  · exact ⟨trivial, trivial, Plan.throughout_append.2
      ⟨pulls_watched hpulls, trivial, trivial, trivial⟩⟩

/-- The windows of a sync that nobody can cancel leave the mark of a cancellation as it is. -/
theorem windows_uncancelled {r : Except Failure SyncStats} {stats' : SyncStats}
    (h : Windows folder config false key stats t r) (hr : r = .ok stats') :
    stats'.cancelled = stats.cancelled := by
  induction h with
  | spent | last =>
    cases hr
    rfl
  | cancelled _ hc => cases hc
  | fails | undelivered | empty => cases hr
  | next _ _ _ _ _ _ ih => exact ih hr

/-- A sync that nobody can cancel has not been cancelled. -/
theorem sync_uncancelled (h : Plan.Runs (Account.sync folder config) t (.ok stats)) :
    stats.cancelled = false := by
  have hruns : Plan.Runs (exclusively folder (FolderSync.sync folder config false)) t (.ok stats) :=
    h
  obtain ⟨e, -, hr⟩ | ⟨guard, t', rfl, hpulls⟩ := course_of_sync hruns
  · cases hr
  · cases hpulls with
    | known _ h | introduced _ _ h => exact windows_uncancelled h rfl

/-! ### Whole syncs -/

/-- How a run with a cancel flag, which is `t'` and gives `r'`, compares to a run without it, which
is `t` and gives `r`. -/
structure CutShort (limit : Nat) (flag : Plan.Flag) (t' : List Plan.Step)
    (r' : Except Failure SyncStats) (t : List Plan.Step) (r : Except Failure SyncStats) : Prop where
  /-- Its effects are the first of those without the flag. -/
  effects : effects t' <+: effects t
  /-- A round trip it has begun has all the effects that it has without the flag. -/
  trips : effectsByTrip t' <+: effectsByTrip t
  /-- It asks for items only after a look at the flag, in the same round trip, and the flag has not
  been raised at any time before. -/
  watched : ∀ before d reply after, t' = before ++ .sent d reply :: after →
    d.asksForItems = true → ∃ earlier trip, before = earlier ++ .asked .cancelled false :: trip ∧
      roundTrips trip = 1 ∧ (∀ st ∈ trip, st.looks = false) ∧
      ∀ past, past <:+ earlier.reverse → flag.raised past = false
  /-- Once it has found the flag raised it has no effect. -/
  stops : ∀ before after, t' = before ++ .asked .cancelled true :: after →
    ∀ st ∈ after, st.acts = false
  /-- It reports a cancellation if it has found the flag raised, and only then. -/
  cancelled_iff : (∃ stats, r' = .ok stats ∧ stats.cancelled = true) ↔
    .asked .cancelled true ∈ t'
  /-- A run that reports a cancellation is below the limit, and a round trip short. -/
  short : ∀ stats, r' = .ok stats → stats.cancelled = true →
    stats.messages < limit ∧ (effectsByTrip t').length < (effectsByTrip t).length
  /-- A run that has not found the flag raised is the run without the flag, but for its looks. -/
  same : .asked .cancelled true ∉ t' →
    unwatched t' = t ∧ Plan.effects t' = Plan.effects t ∧ r' = r

variable {flag : Plan.Flag}

/-- A flag that is down has never been raised. -/
theorem down_before (h : flag.raised past = false) {past' : List Plan.Step}
    (hsuffix : past' <:+ past) : flag.raised past' = false := by
  obtain ⟨later, rfl⟩ := hsuffix
  induction later with
  | nil => exact h
  | cons st later ih =>
    refine ih (Bool.eq_false_iff.2 fun hraised => ?_)
    have hstays := flag.stays st _ hraised
    rw [← List.cons_append, h] at hstays
    cases hstays

/-- In surroundings with a flag, a request for items has been sent after a look at the flag before
which it has not been raised. -/
theorem watched_of_granted {S : Plan.Surroundings}
    (hgrants : Plan.Throughout (S.flagged flag).Grants [] t)
    (hwatched : Plan.Throughout Watched [] t) (before : List Plan.Step) (d : Wire.Sync)
    (reply : Except Failure Wire.Sync) (after : List Plan.Step)
    (ht : t = before ++ .sent d reply :: after) (hasks : d.asksForItems = true) :
    ∃ earlier trip, before = earlier ++ .asked .cancelled false :: trip ∧ roundTrips trip = 1 ∧
      (∀ st ∈ trip, st.looks = false) ∧
      ∀ past, past <:+ earlier.reverse → flag.raised past = false := by
  subst ht
  obtain ⟨trip, earlier, hbefore, htrip, hlooks⟩ := (Plan.throughout_append.1 hwatched).2.1 hasks
  rw [List.append_nil, List.reverse_eq_iff] at hbefore
  subst hbefore
  rw [List.reverse_append, List.reverse_cons, List.append_assoc, List.append_assoc] at hgrants
  have hlook : false = flag.raised (earlier.reverse.reverse ++ []) :=
    (Plan.throughout_append.1 hgrants).2.1
  rw [List.append_nil] at hlook
  refine ⟨earlier.reverse, trip.reverse, by simp, ?_, ?_, ?_⟩
  · rw [roundTrips, List.countP_reverse]
    exact htrip
  · simpa using hlooks
  · exact fun past hpast => down_before hlook.symm hpast

/-- **Cancelling a sync**: in any surroundings and with any flag, a sync that can be cancelled comes
to an end as the sync without the flag does. It has the same effects and the same result, or it has
found the flag raised between two round trips, with some of its budget left, and reports that it has
been cancelled. Then its effects are those of the round trips before. It asks for no window at a
look after the flag has been raised. -/
theorem cancelled_at_boundary (folder : String) (config : SyncConfig) (S : Plan.Surroundings)
    (flag : Plan.Flag) :
    (∃ t r, Plan.Runs (Account.sync folder config) t r ∧ Plan.Throughout S.Grants [] t) ∧
    (∃ t' r', Plan.Runs (Account.syncCancellable folder config) t' r' ∧
      Plan.Throughout (S.flagged flag).Grants [] t') ∧
    ∀ t r t' r', Plan.Runs (Account.sync folder config) t r → Plan.Throughout S.Grants [] t →
      Plan.Runs (Account.syncCancellable folder config) t' r' →
      Plan.Throughout (S.flagged flag).Grants [] t' →
        CutShort config.visibleLimit.toNat flag t' r' t r := by
  refine ⟨S.exists_runs _ [], (S.flagged flag).exists_runs _ [], ?_⟩
  intro t r t' r' hruns hgrants hruns' hgrants'
  have hcompares := cuts_account.compares hruns' hgrants' hruns hgrants
  have hcancelled : ∀ stats, r' = .ok stats → stats.cancelled = true →
      .asked .cancelled true ∈ t' := by
    intro stats hr hc
    by_contra hdown
    obtain ⟨-, rfl⟩ := hcompares.eq_of_down hdown
    subst hr
    rw [sync_uncancelled hruns] at hc
    cases hc
  refine
    { effects := hcompares.effects
      trips := hcompares.trips
      watched := watched_of_granted hgrants' (sync_watched hruns')
      stops := fun before after ht => hcompares.stops ht
      cancelled_iff := ⟨fun ⟨stats, hr, hc⟩ => hcancelled stats hr hc, ?_⟩
      short := ?_
      same := ?_ }
  · intro hraised
    obtain ⟨stats, hr, hc, -⟩ := hcompares.short hraised
    exact ⟨stats, hr, hc⟩
  · intro stats hr hc
    obtain ⟨stats', hr', -, hshort⟩ := hcompares.short (hcancelled stats hr hc)
    cases hr.symm.trans hr'
    exact hshort
  · intro hdown
    obtain ⟨rfl, hr⟩ := hcompares.eq_of_down hdown
    exact ⟨rfl, (effects_unwatched t').symm, hr⟩

/-- A sync that finds the flag down before a window, and raised before the next. -/
theorem runs_windows_interrupted {response : Wire.Sync} {c : Wire.Collection}
    {policyKey key' : String} (hlt : (addWindow stats c).messages < config.visibleLimit.toNat)
    (hdemand : response.provisioningDemand? = none) (hc : accepted folder response = .ok c)
    (hkey : c.syncKey = some key') (hmore : c.hasMore = true) (hadded : c.added ≠ [])
    (h : Plan.Runs (deliverAll folder c.added).run t (.ok ())) :
    Plan.Runs (windows folder config true key stats).run
      (.asked .cancelled false :: (advanceSteps folder policyKey
        (nextWindow folder config key stats) response key' ++ (t ++ [.asked .cancelled true])))
      (.ok { addWindow stats c with cancelled := true }) := by
  have hle : stats.messages ≤ (addWindow stats c).messages := Nat.le_add_right _ _
  rw [windows, dif_pos (Nat.lt_of_le_of_lt hle hlt)]
  refine .ask (Job.runs_bind (runs_advance hdemand hc hkey) (Job.runs_bind h ?_))
  simp only [hmore, hadded, not_true_eq_false, ↓reduceIte, ↓reduceDIte]
  rw [windows, dif_pos hlt]
  exact .ask (.done _)

/-- A window that brings one message, and after which the server has more. -/
def bounty : Wire.Collection :=
  { syncKey := some "2", status := some Wire.statusOk, moreAvailable := some true
    commands := some { add := some [{ serverId := some "5:1" }] } }

/-- Surroundings in which every window brings a message, and nothing fails. -/
def plentiful : Plan.Surroundings where
  reply _ _ := .ok (.ofCollection bounty)
  answer _
    | .policyKey => some "P"
    | .handshake => .ok "P"
    | .readExtra _ _ => .ok (some "1")
    | .acquire folder => .ok ⟨folder⟩
    | .writeExtra _ _ _ | .save _ _ => .ok ()
    | .setPolicyKey _ | .notify _ | .release _ => ()
    | .cancelled => false

/-- The listener raises the flag when it hears of a message. -/
def raisedByListener : Plan.Flag where
  raised past := past.any fun
    | .asked (.notify (.newMessage _ _ _)) _ => true
    | _ => false
  stays st past h := by rw [List.any_cons, h, Bool.or_true]

/-- The listener of a sync of two messages cancels it when it hears of the first. The second is left
out, with the whole round trip that would have brought it. -/
theorem cancelled_after_first_message : ∃ t' stats t r,
    Plan.Runs (Account.syncCancellable "inbox" ⟨2, 0⟩) t' (.ok stats) ∧
      Plan.Runs (Account.sync "inbox" ⟨2, 0⟩) t r ∧ stats.cancelled = true ∧ stats.messages = 1 ∧
      Plan.effects t' <+: Plan.effects t ∧
      (effectsByTrip t').length = 1 ∧ 1 < (effectsByTrip t).length := by
  have hdeliver : Plan.Runs (deliverAll "inbox" bounty.added).run
      (deliverSteps "inbox" "5:1" { serverId := some "5:1" } (.ok ())) (.ok ()) :=
    .ask (.ask (.done _))
  have hwindows : Plan.Runs (windows "inbox" ⟨2, 0⟩ true ((some "1").getD Wire.initialKey) {}).run
      (.asked .cancelled false :: (advanceSteps "inbox" "P" (nextWindow "inbox" ⟨2, 0⟩ "1" {})
        (.ofCollection bounty) "2" ++ (_ ++ [.asked .cancelled true]))) _ :=
    runs_windows_interrupted (by decide) rfl rfl rfl rfl (by decide) hdeliver
  have hpull : Plan.Runs (pull "inbox" ⟨2, 0⟩ true).run
      (readStep "inbox" (.ok (some "1")) :: _) _ :=
    runs_pull_known (by decide) hwindows
  have hruns' := runs_plan (o := .syncCancellable "inbox" ⟨2, 0⟩) (runs_sync hpull)
  obtain ⟨⟨t, r, hruns, hgrants⟩, -, hcut⟩ :=
    cancelled_at_boundary "inbox" ⟨2, 0⟩ plentiful raisedByListener
  have hshort := hcut t r _ _ hruns hgrants hruns' ?_
  · refine ⟨_, _, t, r, hruns', hruns, rfl, rfl, hshort.effects, rfl, ?_⟩
    exact (hshort.short _ rfl rfl).2
  · refine ⟨rfl, rfl, rfl, rfl, rfl, rfl, rfl, rfl, rfl, rfl, rfl, rfl, trivial⟩

end Account

end MailSync
