import Mathlib.Data.List.Nodup
import AirQuality.Mqtt.Connection
import AirQuality.Mqtt.Endless

/-!
# Choosing a callback

The handler compares a subscription's topic with the received one on the length of the received one
only, so a topic that merely starts with it agrees as well, and the first entry that agrees is called.
-/

namespace AirQuality.Mqtt
open Foundation

def nul : Char := Char.ofNat 0

/-- A callback the handler invokes, and the string it passes. -/
def Call.invoked : Call → Option (Nat × List (Option UInt8))
  | .callback address data => some (address, data)
  | _ => none

def invocations (s : State) (message : Publish) : List (Nat × List (Option UInt8)) :=
  ((handlePublish s message).calls.drop s.calls.length).filterMap Call.invoked

structure Table where
  entries : List Subscription
  terminated : ∀ entry ∈ entries, nul ∉ entry.topic
  distinct : (entries.map Subscription.topic).Nodup

/-- The C string `a` compares equal to `topic` on the length of `topic`. -/
def Agrees (a topic : Text) : Prop := topic <+: a ∨ a ++ [nul] <+: topic

theorem agrees_self (topic : Text) : Agrees topic topic := Or.inl (List.prefix_refl topic)

theorem agrees_cons {x y : Char} {a topic : Text} : Agrees (x :: a) (y :: topic) ↔ x = y ∧ Agrees a topic := by
  unfold Agrees
  rw [List.cons_append, List.cons_prefix_cons, List.cons_prefix_cons, and_or_left, eq_comm (a := y)]

theorem strncmpZero_iff {a : Text} (terminated : nul ∉ a) (topic : Text) :
    strncmpZero topic.length a topic = true ↔ Agrees a topic := by
  induction topic generalizing a with
  | nil => exact iff_of_true rfl (Or.inl List.nil_prefix)
  | cons y topic ih =>
    cases a with
    | nil =>
      have agrees : Agrees [] (y :: topic) ↔ nul = y := by
        unfold Agrees
        rw [List.nil_append, List.cons_prefix_cons]
        simp
      rw [agrees]
      by_cases same : nul = y
      · simp [strncmpZero, ← same, nul]
      · have different : ¬ Char.ofNat 0 = y := same
        simp [strncmpZero, different, same]
    | cons x a =>
      have inside : nul ∉ a := fun present => terminated (List.mem_cons_of_mem _ present)
      have other : ¬ x = Char.ofNat 0 := fun same => terminated (by rw [same]; exact List.mem_cons_self)
      rw [agrees_cons, ← ih inside]
      by_cases same : x = y
      · simp [strncmpZero, ← same, other]
      · simp [strncmpZero, same]

/-- The entries the search passes over do not agree, and the one it stops at does. -/
theorem matching_eq_some_iff (table : Table) (topic : Text) (first : Subscription) :
    matching table.entries topic = some first ↔
      Agrees first.topic topic ∧ ∃ before after, table.entries = before ++ first :: after ∧
        ∀ entry ∈ before, ¬ Agrees entry.topic topic := by
  have compared : ∀ entry ∈ table.entries,
      strncmpZero topic.length entry.topic topic = true ↔ Agrees entry.topic topic :=
    fun entry present => strncmpZero_iff (table.terminated entry present) topic
  unfold matching
  rw [List.find?_eq_some_iff_append]
  constructor
  · intro found
    obtain ⟨found, before, after, same, passed⟩ := found
    refine ⟨(compared first (by simp [same])).mp found, before, after, same, fun entry present agrees => ?_⟩
    have refused := passed entry present
    rw [(compared entry (by simp [same, present])).mpr agrees] at refused
    exact absurd refused (by decide)
  · intro chosen
    obtain ⟨agrees, before, after, same, passed⟩ := chosen
    refine ⟨(compared first (by simp [same])).mpr agrees, before, after, same, fun entry present => ?_⟩
    have refused := passed entry present
    rw [← compared entry (by simp [same, present])] at refused
    simp [refused]

theorem closeTransport_subscriptions (s : State) : (closeTransport s).subscriptions = s.subscriptions := by
  unfold closeTransport
  split <;> rfl

theorem closeTransport_silent (s : State) : Extends (fun call => call.invoked = none) s (closeTransport s) := by
  unfold closeTransport
  split
  · exact extends_refl _ s
  · exact ⟨[_], rfl, by simp [Call.invoked]⟩

theorem invocations_eq (s : State) (message : Publish) :
    invocations s message =
      ((matching s.subscriptions message.topic).map fun entry =>
        (entry.callback, dataString (drain message.payloadLen message.reads).drain.data)).toList := by
  unfold invocations handlePublish
  generalize drain message.payloadLen message.reads = loop
  obtain ⟨t, read, table, more, same, silent⟩ : ∃ t, (if loop.failure.isSome then closeTransport s else s) = t ∧
      t.subscriptions = s.subscriptions ∧ Extends (fun call => call.invoked = none) s t := by
    split
    · exact ⟨_, rfl, closeTransport_subscriptions s, closeTransport_silent s⟩
    · exact ⟨_, rfl, rfl, extends_refl _ s⟩
  have nothing : more.filterMap Call.invoked = [] := List.filterMap_eq_nil_iff.mpr silent
  dsimp only
  rw [read, table]
  cases matching s.subscriptions message.topic with
  | none =>
    dsimp only
    rw [same, List.drop_left, nothing]
    rfl
  | some entry =>
    simp only [State.record]
    rw [same, List.append_assoc, List.drop_left, List.filterMap_append, nothing]
    rfl

/-- What the handler invokes for an event: nothing, when its loop never ends. -/
inductive Incoming.Invokes (incoming : Incoming) (s : State) (topic : Text) :
    List (Nat × List (Option UInt8)) → Prop where
  | returns {n : Nat} {d : Drain} {failure : Option Errno} (ended : incoming.loop n = .ended d failure) :
      Invokes incoming s topic (invocations s (incoming.message topic ended))
  | stuck (endless : ∀ n d failure, incoming.loop n ≠ .ended d failure) : Invokes incoming s topic []

/-- The callback of the first entry that agrees, with the string the loop has left in the buffer. -/
theorem invoked_eq (s : State) (topic : Text) {incoming : Incoming} {n : Nat} {d : Drain} {failure : Option Errno}
    (ended : incoming.loop n = .ended d failure) :
    invocations s (incoming.message topic ended) =
      ((matching s.subscriptions topic).map fun entry => (entry.callback, dataString d.data)).toList := by
  have drained : drain incoming.payload.length ((List.range n).map incoming.reads) = .ended d failure :=
    (drain_loopAt _ _ _).trans ended
  rw [invocations_eq]
  simp only [Incoming.message, drained, Loop.drain]

theorem mqttSubscribeToTopic_table (s : State) (subs : List Subscription) (env : SubscribeEnv)
    (succeeded : (mqttSubscribeToTopic s subs env).1 = 0) :
    (mqttSubscribeToTopic s subs env).2.subscriptions = subs := by
  have kept : ∀ {t : State}, t.subscriptions = subs →
      ∀ topic result, (subscribe t topic result).subscriptions = subs := by
    intro t table topic result
    unfold subscribe mqttSubscribe afterWrite
    cases result with
    | lost errno => exact (closeTransport_subscriptions _).trans table
    | sent | refused => exact table
  unfold mqttSubscribeToTopic at succeeded ⊢
  dsimp only at succeeded ⊢
  split at succeeded
  · rename_i refused
    exact absurd succeeded (Int.ne_of_lt refused)
  · rename_i connected
    rw [if_neg connected]
    exact @subscribeLoop_invariant (fun t => t.subscriptions = subs) kept env.result 0 subs _ rfl

/-! ### Routing -/

/-- The callbacks `invoked` for a message are that of the entry with exactly its topic, or none. -/
structure RoutedExactly (table : Table) (topic : Text) (invoked : List Nat) : Prop where
  onlyExact : invoked ≠ [] ↔ ∃ entry ∈ table.entries, entry.topic = topic
  once : ∀ entry ∈ table.entries, entry.topic = topic → invoked = [entry.callback]

/-- The first entry that agrees with the topic has the callback of the entry with exactly that topic. -/
def FirstIsExact (table : Table) (topic : Text) : Prop :=
  ∀ before first after, table.entries = before ++ first :: after → Agrees first.topic topic →
    (∀ entry ∈ before, ¬ Agrees entry.topic topic) →
    ∃ entry ∈ table.entries, entry.topic = topic ∧ entry.callback = first.callback

theorem table_unique {table : Table} {a b : Subscription} (left : a ∈ table.entries) (right : b ∈ table.entries)
    (same : a.topic = b.topic) : a = b :=
  List.inj_on_of_nodup_map table.distinct left right same

theorem matching_eq_none_iff (table : Table) (topic : Text) :
    matching table.entries topic = none ↔ ∀ entry ∈ table.entries, ¬ Agrees entry.topic topic := by
  unfold matching
  rw [List.find?_eq_none]
  refine forall₂_congr fun entry present => ?_
  rw [strncmpZero_iff (table.terminated entry present)]

theorem not_routed_nothing {table : Table} {topic : Text} :
    RoutedExactly table topic [] ↔ ∀ entry ∈ table.entries, entry.topic ≠ topic := by
  constructor
  · intro routed entry present same
    exact absurd (routed.once entry present same) (List.cons_ne_nil _ _).symm
  · intro absent
    refine ⟨iff_of_false (fun invoked => invoked rfl) fun found => ?_, fun entry present same => ?_⟩
    · obtain ⟨entry, present, same⟩ := found
      exact absent entry present same
    · exact absurd same (absent entry present)

/-- The first entry that agrees is called, and it is the right one exactly if it stands for the exact topic. -/
theorem routed_matching_iff (table : Table) (topic : Text) :
    RoutedExactly table topic ((matching table.entries topic).map Subscription.callback).toList ↔
      FirstIsExact table topic := by
  cases search : matching table.entries topic with
  | none =>
    have disagree := (matching_eq_none_iff table topic).mp search
    refine iff_of_true (not_routed_nothing.mpr fun entry present same => ?_) fun before first after same agrees _ => ?_
    · exact disagree entry present (same ▸ agrees_self _)
    · exact absurd agrees (disagree first (by simp [same]))
  | some first =>
    obtain ⟨agrees, before, after, same, passed⟩ := (matching_eq_some_iff table topic first).mp search
    constructor
    · intro routed before' first' after' same' agrees' passed'
      have found := (matching_eq_some_iff table topic first').mpr ⟨agrees', before', after', same', passed'⟩
      obtain rfl : first = first' := Option.some.inj (search.symm.trans found)
      obtain ⟨entry, present, equal⟩ := routed.onlyExact.mp (List.cons_ne_nil _ _)
      have callbacks := routed.once entry present equal
      exact ⟨entry, present, equal, (List.cons.inj callbacks).1.symm⟩
    · intro firstIsExact
      obtain ⟨entry, present, equal, callback⟩ := firstIsExact before first after same agrees passed
      refine ⟨iff_of_true (List.cons_ne_nil _ _) ⟨entry, present, equal⟩, fun other present' equal' => ?_⟩
      obtain rfl : other = entry := table_unique present' present (equal'.trans equal.symm)
      rw [callback]
      rfl

/-- Where the loop ends, messages are routed by exact topic exactly if no entry that only starts with the topic is in
the way; where it never does, exactly if there is no entry to call. -/
theorem routed_exactly_iff (s : State) (table : Table) (topic : Text) (incoming : Incoming)
    (invoked : List (Nat × List (Option UInt8)))
    (invokes : incoming.Invokes { s with subscriptions := table.entries } topic invoked) :
    RoutedExactly table topic (invoked.map Prod.fst) ↔
      (¬ (incoming.Retried ∧ ¬ incoming.Failed) ∧ FirstIsExact table topic) ∨
        ((incoming.Retried ∧ ¬ incoming.Failed) ∧ ∀ entry ∈ table.entries, entry.topic ≠ topic) := by
  rw [← incoming.endless_iff]
  cases invokes with
  | @returns n d failure ended =>
    have ends : ¬ ∀ n d failure, incoming.loop n ≠ .ended d failure := fun endless => endless n d failure ended
    have called : (invocations { s with subscriptions := table.entries } (incoming.message topic ended)).map Prod.fst =
        ((matching table.entries topic).map Subscription.callback).toList := by
      rw [invoked_eq]
      cases matching table.entries topic <;> rfl
    rw [called, routed_matching_iff]
    simp only [ends, not_false_eq_true, true_and, false_and, or_false]
  | stuck endless =>
    rw [List.map_nil, not_routed_nothing]
    exact ⟨fun absent => Or.inr ⟨endless, absent⟩, fun cond => cond.elim (fun ends => absurd endless ends.1) And.right⟩

/-- An event without a payload. -/
def emptyMessage : Incoming where
  payload := []
  reads _ := .chunk []
  bounded := by decide
  answers n _ _ := by
    rw [← Nat.zero_add n]
    exact .nothing (left_over rfl n)

def homeTable : Table where
  entries := [⟨"home/temperature".toList, 1⟩, ⟨"home/temp".toList, 2⟩]
  terminated := by decide
  distinct := by decide

theorem routed_exactly_home :
    RoutedExactly homeTable "home/temp".toList [1] ↔
      (¬ (emptyMessage.Retried ∧ ¬ emptyMessage.Failed) ∧ FirstIsExact homeTable "home/temp".toList) ∨
        ((emptyMessage.Retried ∧ ¬ emptyMessage.Failed) ∧
          ∀ entry ∈ homeTable.entries, entry.topic ≠ "home/temp".toList) :=
  routed_exactly_iff (booted 1 [] [] []) homeTable "home/temp".toList emptyMessage [(1, dataString fun _ => none)]
    (.returns (n := 0) rfl)

/-- A message for `home/temp` is taken for one about the temperature. -/
theorem routed_exactly_fails :
    emptyMessage.Invokes { booted 1 [] [] [] with subscriptions := homeTable.entries } "home/temp".toList
        [(1, dataString fun _ => none)] ∧
      ¬ RoutedExactly homeTable "home/temp".toList [1] := by
  refine ⟨.returns (n := 0) rfl, fun routed => ?_⟩
  have second := routed.once ⟨"home/temp".toList, 2⟩ (by decide) rfl
  exact absurd second (by decide)

end AirQuality.Mqtt
