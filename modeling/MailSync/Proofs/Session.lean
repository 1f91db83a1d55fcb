import MailSync.Account
import MailSync.Proofs.Contract
import MailSync.Store

/-!
# Sessions of an account

The operations of an account at work, in surroundings that may do anything. An operation may be
started at any moment, such as while another waits for the reply to a request, and then runs to its
end before the other goes on. Requests are answered with any reply, a handshake has any outcome, a
sync is cancelled at any time, and any call to the store may fail, in which case it changes nothing.
Between the moves of operations the store and the policy key may be changed from outside, the sync
keys of folders excepted.

* `Account.Session.Run` : the moves that lead from one state of a session to another.
* `Account.Session.Run.performs` : an operation takes in a session any steps that it can take, if
  what the operations share answers it so.
* `Account.exclusively_body` : an operation has a body, which runs while it has its folder to
  itself.
-/

namespace MailSync

namespace Account

/-! ### Operations -/

/-- An operation of an account. -/
inductive Operation where
  /-- Syncs a folder. -/
  | sync (folder : String) (config : SyncConfig)
  /-- Syncs a folder, unless cancelled between two windows. -/
  | syncCancellable (folder : String) (config : SyncConfig)
  /-- Fetches a message of a folder. -/
  | fetch (folder id : String)
  deriving DecidableEq, Repr

namespace Operation

/-- The folder that an operation works on. -/
def folder : Operation → String
  | sync folder _ | syncCancellable folder _ | fetch folder _ => folder

/-- What an operation brings if it ends well. -/
abbrev Value : Operation → Type
  | sync _ _ | syncCancellable _ _ => SyncStats
  | fetch _ _ => Message

/-- What an operation does. -/
def plan : (o : Operation) → Plan (Except Failure o.Value)
  | sync folder config => Account.sync folder config
  | syncCancellable folder config => Account.syncCancellable folder config
  | fetch folder id => Account.fetch folder id

/-- What an operation does while it has its folder to itself. -/
def body : (o : Operation) → Plan (Except Failure o.Value)
  | sync folder config => FolderSync.sync folder config false
  | syncCancellable folder config => FolderSync.sync folder config true
  | fetch folder id => MessageFetch.fetch folder id

end Operation

theorem exclusively_body (o : Operation) : exclusively o.folder o.body = o.plan := by
  cases o <;> rfl

/-- An operation in progress. -/
structure Task where
  /-- The operation. -/
  operation : Operation
  /-- The steps that it has taken, the latest first. -/
  past : List Plan.Step
  /-- What it still has to do. -/
  rest : Plan (Except Failure operation.Value)
  /-- It has sent a request and waits for the reply. -/
  waiting : Bool

namespace Task

/-- An operation that has just been started. -/
def start (o : Operation) : Task :=
  ⟨o, [], o.plan, false⟩

/-- The operation after one more step. -/
def take (t : Task) (st : Plan.Step) (rest : Plan (Except Failure t.operation.Value)) : Task :=
  { t with past := st :: t.past, rest := rest, waiting := false }

/-- The operation after it has sent a request. -/
def wait (t : Task) : Task :=
  { t with waiting := true }

/-- The folder that the operation works on. -/
def folder (t : Task) : String :=
  t.operation.folder

end Task

/-! ### Sessions -/

/-- What the operations of an account share. -/
structure Shared where
  /-- The store. -/
  store : Store
  /-- The folders in work. -/
  locks : FolderLocks
  /-- The policy key that the device holds. -/
  policyKey : Option String

/-- A question may be answered so, with this effect. -/
inductive Answers : Shared → (q : Query) → q.Answer → Shared → Prop
  | policyKey (s : Shared) : Answers s .policyKey s.policyKey s
  | setPolicyKey (s : Shared) (key : Option String) :
      Answers s (.setPolicyKey key) () { s with policyKey := key }
  | handshake (s : Shared) (r : Except Failure String) : Answers s .handshake r s
  | read (s : Shared) (folder name : String) :
      Answers s (.readExtra folder name) (.ok (s.store.extra? folder name)) s
  | readFails (s : Shared) (folder name : String) (e : Failure) :
      Answers s (.readExtra folder name) (.error e) s
  | write (s : Shared) (folder name value : String) :
      Answers s (.writeExtra folder name value) (.ok ())
        { s with store := s.store.setExtra folder name value }
  | writeFails (s : Shared) (folder name value : String) (e : Failure) :
      Answers s (.writeExtra folder name value) (.error e) s
  | save (s : Shared) (m : Message) (complete : Bool) :
      Answers s (.save m complete) (.ok ()) { s with store := s.store.save m complete }
  | saveFails (s : Shared) (m : Message) (complete : Bool) (e : Failure) :
      Answers s (.save m complete) (.error e) s
  | cancelled (s : Shared) (b : Bool) : Answers s .cancelled b s
  | notify (s : Shared) (n : Notice) : Answers s (.notify n) () s
  | acquire {s : Shared} {folder : String} {guard : FolderGuard} {locks : FolderLocks}
      (h : s.locks.acquire folder = .ok (guard, locks)) :
      Answers s (.acquire folder) (.ok guard) { s with locks := locks }
  | refuse {s : Shared} {folder : String} {e : Failure} (h : s.locks.acquire folder = .error e) :
      Answers s (.acquire folder) (.error e) s
  | release (s : Shared) (guard : FolderGuard) :
      Answers s (.release guard) () { s with locks := s.locks.release guard }

/-- A run of steps may be answered so, with this effect. -/
inductive AnswersAll : Shared → List Plan.Step → Shared → Prop
  | nil (s : Shared) : AnswersAll s [] s
  | sent {s s' : Shared} {t : List Plan.Step} (d : Wire.Sync) (r : Except Failure Wire.Sync) :
      AnswersAll s t s' → AnswersAll s (.sent d r :: t) s'
  | asked {s s₁ s' : Shared} {q : Query} {a : q.Answer} {t : List Plan.Step} :
      Answers s q a s₁ → AnswersAll s₁ t s' → AnswersAll s (.asked q a :: t) s'

/-- What happens in a session. -/
inductive Event where
  /-- An operation is started. -/
  | starts (o : Operation)
  /-- The innermost operation sends a request. -/
  | sends (o : Operation) (d : Wire.Sync)
  /-- The innermost operation hears the reply to its request, or the answer to a question. -/
  | takes (o : Operation) (st : Plan.Step)
  /-- The innermost operation has ended. -/
  | returns (o : Operation) (r : Except Failure o.Value)
  /-- Something is changed from outside. -/
  | outside

/-- What happens when an operation takes a step. -/
def Event.ofStep (o : Operation) : Plan.Step → List Event
  | .sent d r => [.sends o d, .takes o (.sent d r)]
  | .asked q a => [.takes o (.asked q a)]

/-- What happens when an operation is started, takes some steps and ends. -/
def Event.ofOperation (o : Operation) (t : List Plan.Step) (r : Except Failure o.Value) :
    List Event :=
  .starts o :: (t.flatMap (Event.ofStep o) ++ [.returns o r])

theorem mem_of_takes {o o' : Operation} {t : List Plan.Step} {r : Except Failure o.Value}
    {st : Plan.Step} (h : .takes o' st ∈ Event.ofOperation o t r) : st ∈ t := by
  simp only [Event.ofOperation, List.mem_cons, List.mem_append, List.mem_flatMap, reduceCtorEq,
    false_or, List.not_mem_nil, or_false] at h
  obtain ⟨st', hst', h⟩ := h
  cases st' <;> simp_all [Event.ofStep]

/-- The state of a session. -/
structure Session where
  /-- What the operations share. -/
  shared : Shared
  /-- The operations in progress, the innermost first. -/
  tasks : List Task

namespace Session

/-- No operation is in progress, and no folder is in work. -/
structure Idle (b : Session) : Prop where
  tasks : b.tasks = []
  locks : b.shared.locks.active = []

/-- Nothing is stored, nothing is in progress, and the device holds a policy key. -/
def fresh : Session :=
  ⟨⟨.table .empty, .empty, some "P"⟩, []⟩

theorem fresh_idle : fresh.Idle := ⟨rfl, rfl⟩

/-- The sync key that the store holds for a folder. -/
def syncKey? (b : Session) (folder : String) : Option String :=
  b.shared.store.syncKey? folder

/-- One state of a session leads to another. -/
inductive Moves : Session → Event → Session → Prop
  | starts {s : Shared} {ts : List Task} (o : Operation) :
      Moves ⟨s, ts⟩ (.starts o) ⟨s, Task.start o :: ts⟩
  | sends {s : Shared} {t : Task} {ts : List Task} {d : Wire.Sync}
      {k : Except Failure Wire.Sync → Plan (Except Failure t.operation.Value)}
      (hrest : t.rest = .send d k) (h : t.waiting = false) :
      Moves ⟨s, t :: ts⟩ (.sends t.operation d) ⟨s, t.wait :: ts⟩
  | hears {s : Shared} {t : Task} {ts : List Task} {d : Wire.Sync}
      {k : Except Failure Wire.Sync → Plan (Except Failure t.operation.Value)}
      (r : Except Failure Wire.Sync) (hrest : t.rest = .send d k) (h : t.waiting = true) :
      Moves ⟨s, t :: ts⟩ (.takes t.operation (.sent d r)) ⟨s, t.take (.sent d r) (k r) :: ts⟩
  | asks {s s' : Shared} {t : Task} {ts : List Task} {q : Query}
      {k : q.Answer → Plan (Except Failure t.operation.Value)} {a : q.Answer}
      (hrest : t.rest = .ask q k) (h : Answers s q a s') :
      Moves ⟨s, t :: ts⟩ (.takes t.operation (.asked q a)) ⟨s', t.take (.asked q a) (k a) :: ts⟩
  | returns {s : Shared} {t : Task} {ts : List Task} {r : Except Failure t.operation.Value}
      (hrest : t.rest = .done r) : Moves ⟨s, t :: ts⟩ (.returns t.operation r) ⟨s, ts⟩
  | outside {s s' : Shared} {ts : List Task} (hlocks : s'.locks = s.locks)
      (hkeys : ∀ f, s'.store.syncKey? f = s.store.syncKey? f) :
      Moves ⟨s, ts⟩ .outside ⟨s', ts⟩

/-- The events lead, in their order, from one state of a session to another. -/
inductive Run (b₀ : Session) : List Event → Session → Prop
  | nil : Run b₀ [] b₀
  | snoc {τ : List Event} {b b' : Session} {e : Event} :
      Run b₀ τ b → b.Moves e b' → Run b₀ (τ ++ [e]) b'

namespace Run

variable {b₀ : Session} {τ : List Event} {s s' : Shared} {ts : List Task}

theorem trans {b b' : Session} {τ' : List Event} (h : b₀.Run τ b) (h' : b.Run τ' b') :
    b₀.Run (τ ++ τ') b' := by
  induction h' with
  | nil => rwa [List.append_nil]
  | snoc _ hm ih =>
    rw [← List.append_assoc]
    exact ih.snoc hm

/-- The innermost operation takes steps that it can take. -/
theorem takes {o : Operation} {past : List Plan.Step} {p : Plan (Except Failure o.Value)}
    {t : List Plan.Step} {r : Except Failure o.Value}
    (hrun : b₀.Run τ ⟨s, ⟨o, past, p, false⟩ :: ts⟩) (hp : Plan.Runs p t r) (hs : AnswersAll s t s') :
    ∃ past', b₀.Run (τ ++ t.flatMap (Event.ofStep o)) ⟨s', ⟨o, past', .done r, false⟩ :: ts⟩ := by
  induction hp generalizing τ past s with
  | done a =>
    cases hs
    exact ⟨past, by simpa using hrun⟩
  | @send d k reply t a _ ih =>
    cases hs with
    | sent _ _ hs =>
      -- two moves: the request is sent, and its reply is heard
      have hsent := hrun.snoc (.sends rfl rfl)
      obtain ⟨past', h⟩ := ih (hsent.snoc (.hears reply rfl rfl)) hs
      have hevents : τ ++ (Plan.Step.sent d reply :: t).flatMap (Event.ofStep o) =
          τ ++ [.sends o d] ++ [.takes o (.sent d reply)] ++ t.flatMap (Event.ofStep o) := by
        simp [Event.ofStep]
      rw [hevents]
      exact ⟨past', h⟩
  | @ask q k a t b _ ih =>
    cases hs with
    | asked ha hs =>
      obtain ⟨past', h⟩ := ih (hrun.snoc (.asks rfl ha)) hs
      exact ⟨past', by simpa [Event.ofStep] using h⟩

/-- An operation that is started takes steps that it can take, and ends. -/
theorem performs {o : Operation} {t : List Plan.Step} {r : Except Failure o.Value}
    (hrun : b₀.Run τ ⟨s, ts⟩) (hp : Plan.Runs o.plan t r) (hs : AnswersAll s t s') :
    b₀.Run (τ ++ Event.ofOperation o t r) ⟨s', ts⟩ := by
  obtain ⟨past, h⟩ := takes (hrun.snoc (.starts o)) hp hs
  have hreturns := h.snoc (.returns rfl)
  simpa [Event.ofOperation] using hreturns

end Run

end Session

end Account

end MailSync
