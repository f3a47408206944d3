import Mathlib.Logic.Function.Basic
import AirQuality.Foundation.Transition

/-!
# A broker's retained messages

What a broker keeps for one client: the retained message of each topic, and the will of the current
session. A session that ends publishes its will.
-/

namespace AirQuality.Foundation

structure Testament (Topic Message : Type*) where
  topic : Topic
  message : Message
  retain : Bool
  deriving DecidableEq

/-- `session` is `some will` while a session is up, with the client's will if it has one. -/
structure Broker (Topic Message : Type*) where
  retained : Topic → Option Message
  session : Option (Option (Testament Topic Message))

inductive Delivery (Topic Message : Type*) where
  | connect (will : Option (Testament Topic Message))
  | publish (topic : Topic) (message : Message) (retain : Bool)
  | disconnect

namespace Broker

variable {Topic Message : Type*} [DecidableEq Topic]

def keep (b : Broker Topic Message) (topic : Topic) (message : Message) (retain : Bool) : Broker Topic Message :=
  if retain then { b with retained := Function.update b.retained topic (some message) } else b

/-- The session ends without a DISCONNECT packet. -/
def endSession (b : Broker Topic Message) : Broker Topic Message :=
  match b.session with
  | some (some will) => keep { b with session := none } will.topic will.message will.retain
  | _ => { b with session := none }

/-- A client that connects again takes its old session over. -/
def deliver (b : Broker Topic Message) : Delivery Topic Message → Broker Topic Message
  | .connect will => { b.endSession with session := some will }
  | .publish topic message retain => if b.session.isSome then b.keep topic message retain else b
  | .disconnect => b.endSession

theorem keep_of_ne (b : Broker Topic Message) {topic other : Topic} (different : other ≠ topic) (message : Message)
    (retain : Bool) : (b.keep other message retain).retained topic = b.retained topic := by
  unfold keep
  split
  · exact Function.update_of_ne different.symm _ _
  · rfl

@[simp] theorem keep_session (b : Broker Topic Message) (topic : Topic) (message : Message) (retain : Bool) :
    (b.keep topic message retain).session = b.session := by
  unfold keep
  split <;> rfl

@[simp] theorem endSession_session (b : Broker Topic Message) : b.endSession.session = none := by
  unfold endSession
  split
  · rw [keep_session]
  · rfl

/-! ### A topic over a run -/

def PublishElsewhere (topic : Topic) : Delivery Topic Message → Prop
  | .publish other _ _ => other ≠ topic
  | _ => False

theorem retained_of_lasting {b : Broker Topic Message} {topic : Topic} (deliveries : List (Delivery Topic Message))
    (elsewhere : ∀ delivery ∈ deliveries, PublishElsewhere topic delivery) :
    (run deliver b deliveries).retained topic = b.retained topic ∧
      (run deliver b deliveries).session = b.session := by
  induction deliveries generalizing b with
  | nil => exact ⟨rfl, rfl⟩
  | cons delivery rest ih =>
    rw [List.forall_mem_cons] at elsewhere
    obtain ⟨retained, session⟩ := ih (b := b.deliver delivery) elsewhere.2
    rw [run_cons, retained, session]
    cases delivery with
    | connect | disconnect => exact elsewhere.1.elim
    | publish other message retain =>
      simp only [deliver]
      split
      · exact ⟨b.keep_of_ne elsewhere.1 message retain, b.keep_session other message retain⟩
      · exact ⟨rfl, rfl⟩

structure Revokes (will : Testament Topic Message) (topic : Topic) (message : Message) : Prop where
  topic : will.topic = topic
  message : will.message ≠ message
  retain : will.retain = true

/-- The topic holds something else than `message`, and the session's will, if any, is `will`. -/
structure Stale (topic : Topic) (message : Message) (will : Testament Topic Message) (b : Broker Topic Message) : Prop where
  retained : b.retained topic ≠ some message
  session : b.session = none ∨ b.session = some (some will)

/-- The delivery cannot make the topic hold `message` again. -/
def KeepsStale (topic : Topic) (message : Message) (will : Testament Topic Message) : Delivery Topic Message → Prop
  | .connect given => given = some will
  | .publish other text _ => other ≠ topic ∨ text ≠ message
  | .disconnect => True

theorem keep_stale {topic : Topic} {message : Message} {will : Testament Topic Message} {b : Broker Topic Message}
    (stale : Stale topic message will b) {other : Topic} {text : Message} (keeps : other ≠ topic ∨ text ≠ message)
    (retain : Bool) : Stale topic message will (b.keep other text retain) := by
  refine ⟨?_, by rw [keep_session]; exact stale.session⟩
  by_cases same : other = topic
  · subst same
    have different : text ≠ message := keeps.resolve_left (fun h => h rfl)
    unfold keep
    split
    · simpa using different
    · exact stale.retained
  · rw [b.keep_of_ne same]
    exact stale.retained

/-- The topic is stale, or will be once the session ends. -/
def Willed (topic : Topic) (message : Message) (will : Testament Topic Message) (b : Broker Topic Message) : Prop :=
  b.session = some (some will) ∨ Stale topic message will b

section Revokes
variable {topic : Topic} {message : Message} {will : Testament Topic Message} (revokes : Revokes will topic message)
include revokes

theorem endSession_stale {b : Broker Topic Message} (willed : Willed topic message will b) :
    Stale topic message will b.endSession := by
  refine ⟨?_, Or.inl b.endSession_session⟩
  have published : b.session = some (some will) → b.endSession.retained topic ≠ some message := by
    intro session
    simp only [endSession, session, keep, revokes.retain, if_true, revokes.topic, Function.update_self]
    simpa using revokes.message
  rcases willed with session | stale
  · exact published session
  · rcases stale.session with closed | session
    · simp only [endSession, closed]
      exact stale.retained
    · exact published session

theorem deliver_stale {b : Broker Topic Message} (stale : Stale topic message will b)
    {delivery : Delivery Topic Message} (keeps : KeepsStale topic message will delivery) :
    Stale topic message will (b.deliver delivery) := by
  cases delivery with
  | connect given =>
    have ended := endSession_stale revokes (Or.inr stale)
    exact ⟨ended.retained, Or.inr (congrArg some keeps)⟩
  | publish other text retain =>
    simp only [deliver]
    split
    · exact keep_stale stale keeps retain
    · exact stale
  | disconnect => exact endSession_stale revokes (Or.inr stale)

theorem deliver_willed {b : Broker Topic Message} (willed : Willed topic message will b)
    {delivery : Delivery Topic Message} (keeps : KeepsStale topic message will delivery) :
    Willed topic message will (b.deliver delivery) := by
  rcases willed with session | stale
  · cases delivery with
    | connect given => exact Or.inl (congrArg some keeps)
    | publish other text retain =>
      simp only [deliver, session, Option.isSome_some, if_true]
      exact Or.inl ((b.keep_session other text retain).trans session)
    | disconnect => exact Or.inr (endSession_stale revokes (Or.inl session))
  · exact Or.inr (deliver_stale revokes stale keeps)

theorem run_stale {b : Broker Topic Message} (stale : Stale topic message will b)
    (deliveries : List (Delivery Topic Message))
    (keeps : ∀ delivery ∈ deliveries, KeepsStale topic message will delivery) :
    Stale topic message will (run deliver b deliveries) := by
  induction deliveries generalizing b with
  | nil => exact stale
  | cons delivery rest ih =>
    rw [List.forall_mem_cons] at keeps
    exact ih (deliver_stale revokes stale keeps.1) keeps.2

theorem run_willed {b : Broker Topic Message} (willed : Willed topic message will b)
    (deliveries : List (Delivery Topic Message))
    (keeps : ∀ delivery ∈ deliveries, KeepsStale topic message will delivery) :
    Willed topic message will (run deliver b deliveries) := by
  induction deliveries generalizing b with
  | nil => exact willed
  | cons delivery rest ih =>
    rw [List.forall_mem_cons] at keeps
    exact ih (deliver_willed revokes willed keeps.1) keeps.2

theorem stale_of_ended {b : Broker Topic Message} (willed : Willed topic message will b)
    {deliveries : List (Delivery Topic Message)}
    (keeps : ∀ delivery ∈ deliveries, KeepsStale topic message will delivery)
    (ended : .disconnect ∈ deliveries) : Stale topic message will (run deliver b deliveries) := by
  obtain ⟨before, after, rfl⟩ := List.append_of_mem ended
  rw [List.forall_mem_append, List.forall_mem_cons] at keeps
  rw [run_append, run_cons]
  have last := run_willed revokes willed before keeps.1
  exact run_stale revokes (endSession_stale revokes last) after keeps.2.2

end Revokes

/-- A will the delivery leaves has the property. -/
def Leaves (P : Testament Topic Message → Prop) : Delivery Topic Message → Prop
  | .connect given => ∀ will, given = some will → P will
  | _ => True

theorem deliver_leaves {P : Testament Topic Message → Prop} {b : Broker Topic Message}
    (held : ∀ will, b.session = some (some will) → P will) {delivery : Delivery Topic Message}
    (leaves : Leaves P delivery) : ∀ will, (b.deliver delivery).session = some (some will) → P will := by
  intro will session
  cases delivery with
  | connect given => exact leaves will (Option.some.inj session)
  | publish other text retain =>
    simp only [deliver] at session
    split at session
    · rw [keep_session] at session
      exact held will session
    · exact held will session
  | disconnect =>
    rw [deliver, endSession_session] at session
    cases session

theorem run_leaves {P : Testament Topic Message → Prop} {b : Broker Topic Message}
    (held : ∀ will, b.session = some (some will) → P will) (deliveries : List (Delivery Topic Message))
    (leaves : ∀ delivery ∈ deliveries, Leaves P delivery) :
    ∀ will, (run deliver b deliveries).session = some (some will) → P will := by
  induction deliveries generalizing b with
  | nil => exact held
  | cons delivery rest ih =>
    rw [List.forall_mem_cons] at leaves
    exact ih (deliver_leaves held leaves.1) leaves.2

/-- The delivery publishes nothing to `topic`. -/
def Misses (topic : Topic) : Delivery Topic Message → Prop
  | .publish other _ _ => other ≠ topic
  | _ => True

theorem endSession_elsewhere {b : Broker Topic Message} {topic : Topic}
    (away : ∀ will, b.session = some (some will) → will.topic ≠ topic) : b.endSession.retained topic = b.retained topic := by
  unfold endSession
  split
  · rename_i will session
    exact keep_of_ne { b with session := none } (away will session) will.message will.retain
  · rfl

theorem deliver_elsewhere {b : Broker Topic Message} {topic : Topic}
    (away : ∀ will, b.session = some (some will) → will.topic ≠ topic) {delivery : Delivery Topic Message}
    (misses : Misses topic delivery) : (b.deliver delivery).retained topic = b.retained topic := by
  cases delivery with
  | connect | disconnect => exact endSession_elsewhere away
  | publish other message retain =>
    unfold deliver
    dsimp only
    split
    · exact b.keep_of_ne misses message retain
    · rfl

/-- What is retained on a topic stays, through any number of sessions, when nothing else is published to
the topic and the wills go elsewhere. -/
theorem retained_of_misses {b : Broker Topic Message} {topic : Topic}
    (away : ∀ will, b.session = some (some will) → will.topic ≠ topic) (deliveries : List (Delivery Topic Message))
    (leaves : ∀ delivery ∈ deliveries, Leaves (fun will => will.topic ≠ topic) delivery)
    (misses : ∀ delivery ∈ deliveries, Misses topic delivery) :
    (run deliver b deliveries).retained topic = b.retained topic := by
  induction deliveries generalizing b with
  | nil => rfl
  | cons delivery rest ih =>
    rw [List.forall_mem_cons] at leaves misses
    rw [run_cons, ih (deliver_leaves away leaves.1) leaves.2 misses.2]
    exact deliver_elsewhere away misses.1

end Broker

end AirQuality.Foundation
