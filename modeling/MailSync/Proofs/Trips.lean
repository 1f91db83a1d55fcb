import MailSync.Proofs.Progress

/-!
# Operations as round trips

An operation at work makes round trips behind the gate, and between them it deals with the store and
the listener, always for its own folder. What holds of the steps of every round trip, and of every
step between them, holds of every step that an operation takes at work.

* `Account.parts_of_runs` : the work of an operation consists of round trips and asides.
* `Account.Parts.throughout` : what holds throughout these holds throughout the work.
* `Account.plan_calm` : the gate only provisions a device that holds no key, or after a demand.
-/

namespace MailSync

namespace Account

open Exchange FolderSync

/-- The operation can be cancelled. -/
def Operation.cancellable : Operation → Bool
  | syncCancellable _ _ => true
  | sync _ _ | fetch _ _ => false

/-- A step of an operation between its round trips. -/
inductive Aside (o : Operation) : Plan.Step → Prop
  | read (found : Except Failure (Option String)) : Aside o (readStep o.folder found)
  | write (key : String) (outcome : Except Failure Unit) : Aside o (writeStep o.folder key outcome)
  | save {m : Message} (hm : m.folder = o.folder) (complete : Bool)
      (outcome : Except Failure Unit) : Aside o (.asked (.save m complete) outcome)
  | notify (n : Notice) : Aside o (.asked (.notify n) ())
  | cancelled (h : o.cancellable = true) (raised : Bool) : Aside o (.asked .cancelled raised)

/-- The steps are those of round trips, and asides. -/
inductive Parts (o : Operation) : List Plan.Step → Prop
  | nil : Parts o []
  | trip {d : Wire.Sync} {t t' : List Plan.Step} {r : Except Failure Wire.Sync} (h : Trip d t r)
      (h' : Parts o t') : Parts o (t ++ t')
  | aside {st : Plan.Step} {t : List Plan.Step} (h : Aside o st) (h' : Parts o t) :
      Parts o (st :: t)

variable {o : Operation} {t t' : List Plan.Step} {d : Wire.Sync}

theorem Parts.append (h : Parts o t) (h' : Parts o t') : Parts o (t ++ t') := by
  induction h with
  | nil => exact h'
  | trip h _ ih =>
    rw [List.append_assoc]
    exact .trip h ih
  | aside h _ ih => exact .aside h ih

theorem parts_trip {r : Except Failure Wire.Sync} (h : Trip d t r) : Parts o t := by
  rw [← List.append_nil t]
  exact .trip h .nil

/-- What holds throughout every round trip, and of every aside, holds throughout the parts. -/
theorem Parts.throughout {P : List Plan.Step → Plan.Step → Prop} (h : Parts o t)
    (htrip : ∀ past d t r, Trip d t r → Plan.Throughout P past t)
    (haside : ∀ past st, Aside o st → P past st) (past : List Plan.Step) :
    Plan.Throughout P past t := by
  induction h generalizing past with
  | nil => trivial
  | trip h _ ih => exact Plan.throughout_append.2 ⟨htrip past _ _ _ h, ih _⟩
  | aside h _ ih => exact ⟨haside past _ h, ih _⟩

/-! ### The parts of an operation -/

theorem commits_parts {check : Wire.Sync → Except Failure Wire.Collection}
    {r : Except Failure (Wire.Collection × String)} (h : Commits o.folder check d t r) :
    Parts o t := by
  cases h with
  | fails h | refused h | keyless h => exact parts_trip h
  | unwritten h | stored h => exact .trip h (.aside (.write _ _) .nil)

theorem delivers_parts {items : List Wire.Item} {r : Except Failure Unit}
    (h : Delivers o.folder items t r) : Parts o t := by
  induction h with
  | nil | nameless => exact .nil
  | refused => exact .aside (.save (folder_materialize ..) _ _) .nil
  | delivered _ _ ih =>
    exact .aside (.save (folder_materialize ..) _ _) (.aside (.notify _) ih)

theorem checks_parts : Parts o (checks o.cancellable) := by
  cases h : o.cancellable with
  | false => exact .nil
  | true => exact .aside (.cancelled h false) .nil

variable {config : SyncConfig}

theorem windows_parts {key : String} {stats : SyncStats} {r : Except Failure SyncStats}
    (h : Windows o.folder config o.cancellable key stats t r) : Parts o t := by
  induction h with
  | spent => exact .nil
  | cancelled _ hc => exact .aside (.cancelled hc true) .nil
  | fails _ hadvance => exact checks_parts.append (commits_parts hadvance)
  | undelivered _ hadvance hitems | last _ hadvance hitems | empty _ hadvance hitems =>
    exact checks_parts.append ((commits_parts hadvance).append (delivers_parts hitems))
  | next _ hadvance hitems _ _ _ ih =>
    exact checks_parts.append ((commits_parts hadvance).append ((delivers_parts hitems).append ih))

theorem pulls_parts {r : Except Failure SyncStats}
    (h : Pulls o.folder config o.cancellable t r) : Parts o t := by
  cases h with
  | unread e => exact .aside (.read _) .nil
  | known _ h => exact .aside (.read _) (windows_parts h)
  | refused _ hadvance => exact .aside (.read _) (commits_parts hadvance)
  | introduced _ hadvance h =>
    exact .aside (.read _) ((commits_parts hadvance).append (windows_parts h))

theorem fetches_parts {id : String} {r : Except Failure Message}
    (h : MessageFetch.Fetches o.folder id t r) : Parts o t := by
  cases h with
  | unread e => exact .aside (.read _) .nil
  | fails h | missing h | found h => exact .aside (.read _) (commits_parts h)

/-- The work of an operation consists of round trips and asides. -/
theorem parts_of_runs {r : Except Failure o.Value} (h : Plan.Runs o.body t r) : Parts o t := by
  cases o with
  | sync folder config =>
    obtain ⟨t', rfl, hpulls⟩ := runs_sync_cases h
    exact .aside (.notify _) ((pulls_parts (o := .sync folder config) hpulls).append
      (.aside (.notify _) .nil))
  | syncCancellable folder config =>
    obtain ⟨t', rfl, hpulls⟩ := runs_sync_cases h
    exact .aside (.notify _) ((pulls_parts (o := .syncCancellable folder config) hpulls).append
      (.aside (.notify _) .nil))
  | fetch folder id =>
    exact fetches_parts (o := .fetch folder id) (MessageFetch.fetches_of_runs h)

/-! ### Calm operations -/

/-- The step shows that the device is to be provisioned. -/
def Alarming : Plan.Step → Prop
  | .asked .policyKey key => key = none
  | .sent _ reply => Demands reply
  | _ => False

/-- A step of an operation that is calm as long as nothing alarms it: the device is not provisioned
without need, only an operation that can be cancelled asks whether it has been, and only the extra
texts of the operation's folder are read. -/
def Calm (o : Operation) (past : List Plan.Step) : Plan.Step → Prop
  | .asked .handshake _ | .asked (.setPolicyKey _) _ => ∃ st ∈ past, Alarming st
  | .asked .cancelled _ => o.cancellable = true
  | .asked (.readExtra f _) _ => f = o.folder
  | _ => True

theorem trip_calm (past : List Plan.Step) {r : Except Failure Wire.Sync} (h : Trip d t r) :
    Plan.Throughout (Calm o) past t := by
  cases h with
  | held => exact ⟨trivial, trivial, trivial⟩
  | unprovisioned => exact ⟨trivial, ⟨_, List.mem_cons_self, rfl⟩, trivial⟩
  | provisioned =>
    exact ⟨trivial, ⟨_, List.mem_cons_self, rfl⟩,
      ⟨_, List.mem_cons_of_mem _ List.mem_cons_self, rfl⟩, trivial, trivial⟩
  | rejected _ _ _ hdemand =>
    exact ⟨trivial, trivial, ⟨_, List.mem_cons_self, hdemand⟩,
      ⟨_, List.mem_cons_of_mem _ List.mem_cons_self, hdemand⟩, trivial⟩
  | retried _ _ _ _ hdemand =>
    exact ⟨trivial, trivial, ⟨_, List.mem_cons_self, hdemand⟩,
      ⟨_, List.mem_cons_of_mem _ List.mem_cons_self, hdemand⟩,
      ⟨_, List.mem_cons_of_mem _ (List.mem_cons_of_mem _ List.mem_cons_self), hdemand⟩,
      trivial, trivial⟩

theorem aside_calm (past : List Plan.Step) {st : Plan.Step} (h : Aside o st) : Calm o past st := by
  cases h with
  | read => exact rfl
  | cancelled h => exact h
  | write | save | notify => exact trivial

/-- Every operation is calm as long as nothing alarms it. -/
theorem plan_calm {r : Except Failure o.Value} (h : Plan.Runs o.plan t r) :
    Plan.Throughout (Calm o) [] t := by
  obtain ⟨e, rfl, -⟩ | ⟨guard, t', rfl, hbody⟩ := course_of_runs h
  · exact ⟨trivial, trivial⟩
  · have hwork := (parts_of_runs hbody).throughout (fun past _ _ _ => trip_calm past)
      (fun past _ => aside_calm past) [.asked (.acquire o.folder) (.ok guard)]
    exact ⟨trivial, Plan.throughout_append.2 ⟨hwork, trivial, trivial⟩⟩

/-- Every step of an operation on its course is calm as long as nothing has alarmed it. -/
theorem Task.OnCourse.calm {u : Task} (h : u.OnCourse) {st : Plan.Step} {past : List Plan.Step}
    (hst : st :: past <:+ u.past) : Calm u.operation past st := by
  obtain ⟨t', r, hruns⟩ := h.extends
  exact (Plan.throughout_append.1 (plan_calm hruns)).1.holds (by rwa [List.reverse_reverse])

end Account

end MailSync
