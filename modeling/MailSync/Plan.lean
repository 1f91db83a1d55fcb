import MailSync.Failure
import MailSync.Gate
import MailSync.Locks
import MailSync.Mail.Message
import MailSync.Sync.Stats
import MailSync.Wire.Basic

/-!
# Plans

What an operation does, as a tree: it sends a request, asks its surroundings one question, or is
done, and goes on by the answer. A plan says nothing about how requests are answered, so one plan
serves every client, store and listener. Sending is apart from the other questions because other
operations may run while a request is being answered, and at no other time.

* `run_bind` : running one plan after another runs both, one after the other.
-/

namespace MailSync

/-- A question to an operation's surroundings. -/
inductive Query where
  /-- Which policy key does the device hold? -/
  | policyKey
  /-- Hold this policy key, or none. -/
  | setPolicyKey (key : Option String)
  /-- Ask the server for a new policy key. -/
  | handshake
  /-- Which extra text does the store hold for a folder? -/
  | readExtra (folder name : String)
  /-- Store an extra text for a folder. -/
  | writeExtra (folder name value : String)
  /-- Store a message, whole or in part. -/
  | save (m : Message) (complete : Bool)
  /-- Has the operation been cancelled? -/
  | cancelled
  /-- Tell the listener. -/
  | notify (n : Notice)
  /-- Take a folder into work. -/
  | acquire (folder : String)
  /-- Take a folder out of work. -/
  | release (guard : FolderGuard)
  deriving DecidableEq, Repr

/-- The answers that a question has. -/
abbrev Query.Answer : Query → Type
  | policyKey => Option String
  | setPolicyKey _ => Unit
  | handshake => Except Failure String
  | readExtra _ _ => Except Failure (Option String)
  | writeExtra _ _ _ => Except Failure Unit
  | save _ _ => Except Failure Unit
  | cancelled => Bool
  | notify _ => Unit
  | acquire _ => Except Failure FolderGuard
  | release _ => Unit

/-- What an operation does. -/
inductive Plan (α : Type) : Type where
  /-- The operation is done. -/
  | done (a : α)
  /-- The operation sends a request, and goes on by the response. -/
  | send (request : Wire.Sync) (k : Except Failure Wire.Sync → Plan α)
  /-- The operation asks a question, and goes on by the answer. -/
  | ask (q : Query) (k : q.Answer → Plan α)

namespace Plan

variable {α β σ : Type}

/-- One plan after another. -/
protected def bind : Plan α → (α → Plan β) → Plan β
  | done a, f => f a
  | send d k, f => send d fun r => (k r).bind f
  | ask q k, f => ask q fun a => (k a).bind f

instance : Monad Plan where
  pure := done
  bind := Plan.bind

@[simp] theorem pure_eq (a : α) : (pure a : Plan α) = done a := rfl

@[simp] theorem done_bind (a : α) (f : α → Plan β) : done a >>= f = f a := rfl

@[simp] theorem send_bind (d : Wire.Sync) (k : Except Failure Wire.Sync → Plan α)
    (f : α → Plan β) : send d k >>= f = send d fun r => k r >>= f := rfl

@[simp] theorem ask_bind (q : Query) (k : q.Answer → Plan α) (f : α → Plan β) :
    ask q k >>= f = ask q fun a => k a >>= f := rfl

theorem bind_done (p : Plan α) : p >>= done = p := by
  induction p with
  | done a => rfl
  | send d k ih => exact congrArg (send d) (funext ih)
  | ask q k ih => exact congrArg (ask q) (funext ih)

theorem bind_bind {γ : Type} (p : Plan α) (f : α → Plan β) (g : β → Plan γ) :
    p >>= f >>= g = p >>= fun a => f a >>= g := by
  induction p with
  | done a => rfl
  | send d k ih => exact congrArg (send d) (funext ih)
  | ask q k ih => exact congrArg (ask q) (funext ih)

instance : LawfulMonad Plan := LawfulMonad.mk' Plan
  (fun p => bind_done p) (fun _ _ => rfl) (fun p f g => bind_bind p f g)

/-- The plan that asks one question. -/
def query (q : Query) : Plan q.Answer :=
  ask q done

/-- The plan that sends one request. -/
def request (d : Wire.Sync) : Plan (Except Failure Wire.Sync) :=
  send d done

/-- The device that a plan works for. -/
def device : Device Plan where
  policyKey := query .policyKey
  setPolicyKey key := query (.setPolicyKey key)
  handshake := query .handshake

/-- Runs a plan on a state, given how requests are served and questions answered. -/
def run (serve : Wire.Sync → σ → Except Failure Wire.Sync × σ)
    (answer : (q : Query) → σ → q.Answer × σ) : Plan α → σ → α × σ
  | done a, s => (a, s)
  | send d k, s =>
    let (r, s) := serve d s
    run serve answer (k r) s
  | ask q k, s =>
    let (a, s) := answer q s
    run serve answer (k a) s

theorem run_bind (serve : Wire.Sync → σ → Except Failure Wire.Sync × σ)
    (answer : (q : Query) → σ → q.Answer × σ) (p : Plan α) (f : α → Plan β) (s : σ) :
    (p >>= f).run serve answer s =
      (f (p.run serve answer s).1).run serve answer (p.run serve answer s).2 := by
  induction p generalizing s with
  | done a => rfl
  | send d k ih => exact ih _ _
  | ask q k ih => exact ih _ _

end Plan

/-- What an operation does that may fail. -/
abbrev Job (α : Type) : Type :=
  ExceptT Failure Plan α

end MailSync
