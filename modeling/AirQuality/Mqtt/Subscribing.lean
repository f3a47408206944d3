import AirQuality.Mqtt.Consistency

/-!
# Subscribing

`mqtt_subscribe_to_topic` sends a SUBSCRIBE for each entry of its table, all of them with one packet
identifier, and drops their results.
-/

namespace AirQuality.Mqtt
open Foundation

/-- A call of `mqtt_subscribe` and its result. -/
structure Request where
  topic : Text
  messageId : UInt16
  code : Int
  deriving DecidableEq

def Call.request : Call → Option Request
  | .mqttSubscribe topic messageId code => some { topic, messageId, code }
  | _ => none

/-- The requests made between two states. -/
def requests (before after : State) : List Request :=
  (after.calls.drop before.calls.length).filterMap Call.request

/-- The packet identifiers that go out. -/
def packetIds (made : List Request) : List UInt16 :=
  (made.filter fun request => request.code = 0).map Request.messageId

structure AllAccepted (subs : List Subscription) (made : List Request) : Prop where
  topics : made.map Request.topic = subs.map Subscription.topic
  codes : ∀ request ∈ made, request.code = 0

structure ReportsFailure (subs : List Subscription) (ret : Int) (made : List Request) : Prop where
  success : ret = 0 → AllAccepted subs made
  failure : ¬ AllAccepted subs made → ret < 0

/-- The result tells whether every entry is subscribed, and a SUBACK tells the entry it is for. -/
structure SubscribesApart (subs : List Subscription) (ret : Int) (made : List Request) : Prop where
  reports : ReportsFailure subs ret made
  distinct : (packetIds made).Nodup
  nonzero : ∀ messageId ∈ packetIds made, messageId ≠ 0

theorem requests_of_log {s t : State} {more : List Call} (log : t.calls = s.calls ++ more) :
    requests s t = more.filterMap Call.request := by
  unfold requests
  rw [log, List.drop_left]

theorem requests_none {s t : State} (log : Extends (fun call => call.request = none) s t) : requests s t = [] := by
  obtain ⟨more, appended, silent⟩ := log
  rw [requests_of_log appended]
  exact List.filterMap_eq_nil_iff.mpr silent

theorem requests_append {P Q : Call → Prop} {s t u : State} (first : Extends P s t) (second : Extends Q t u) :
    requests s u = requests s t ++ requests t u := by
  obtain ⟨before, appended, _⟩ := first
  obtain ⟨after, appended', _⟩ := second
  rw [requests_of_log appended, requests_of_log appended', ← List.filterMap_append]
  apply requests_of_log
  rw [appended', appended, List.append_assoc]

theorem Call.Plain.no_request {call : Call} (plain : call.Plain) : call.request = none := by
  cases call with
  | mqttSubscribe => exact plain.elim
  | _ => rfl

theorem Call.Aside.no_request {call : Call} (aside : call.Aside) : call.request = none := by
  cases call with
  | mqttSubscribe => exact aside.elim
  | _ => rfl

theorem ensureConnected_requests {s : State} (consistent : Consistent s) (env : ConnectEnv) :
    Extends (fun call => call.request = none) s (ensureConnected s env).2 := by
  refine ensureConnected_log ?_ (fun _ plain => plain.no_request) (fun _ aside => aside.no_request) consistent env
  intro t attempt
  unfold dialCalls
  cases attempt.connect <;> simp [Call.request]

theorem subscribe_requests (s : State) (topic : Text) (result : WriteResult) :
    requests s (subscribe s topic result) = [{ topic, messageId := 1, code := writeCode s result }] := by
  rw [subscribe_state]
  generalize made : Call.mqttSubscribe topic 1 (writeCode s result) = call
  have logged : (s.record call).calls = s.calls ++ [call] := rfl
  have grown : Extends (fun _ => True) s (s.record call) := extends_record trivial
  have written := (afterWrite_received (s.record call) result).log.mono fun _ plain => plain.no_request
  rw [requests_append grown written, requests_none written, requests_of_log logged, List.append_nil, ← made]
  rfl

theorem subscribeLoop_requests (result : Nat → WriteResult) (i : Nat) (subscription : Subscription)
    (rest : List Subscription) (s : State) :
    requests s (subscribeLoop result i (subscription :: rest) s) =
      { topic := subscription.topic, messageId := 1, code := writeCode s (result i) } ::
        requests (subscribe s subscription.topic (result i))
          (subscribeLoop result (i + 1) rest (subscribe s subscription.topic (result i))) := by
  have first := subscribe_steady s subscription.topic (result i)
  have later := subscribeLoop_steady result (i + 1) rest (subscribe s subscription.topic (result i))
  have both := requests_append first later
  rw [subscribe_requests] at both
  exact both

theorem requests_self (s : State) : requests s s = [] := requests_of_log (List.append_nil s.calls).symm

theorem subscribeLoop_topics (result : Nat → WriteResult) (i : Nat) (subs : List Subscription) (s : State) :
    (requests s (subscribeLoop result i subs s)).map Request.topic = subs.map Subscription.topic ∧
      ∀ request ∈ requests s (subscribeLoop result i subs s), request.messageId = 1 := by
  induction subs generalizing i s with
  | nil => simp [subscribeLoop, requests_self]
  | cons subscription rest ih =>
    obtain ⟨topics, ids⟩ := ih (i + 1) (subscribe s subscription.topic (result i))
    rw [subscribeLoop_requests, List.map_cons, List.map_cons, topics, List.forall_mem_cons]
    exact ⟨rfl, rfl, ids⟩

/-- Every request of a table is accepted if the client stays connected and each one is sent. -/
theorem subscribeLoop_accepted_iff (result : Nat → WriteResult) (i : Nat) (subs : List Subscription) {s : State}
    (consistent : Consistent s) :
    AllAccepted subs (requests s (subscribeLoop result i subs s)) ↔
      subs = [] ∨ (s.mqttConnected = true ∧ ∀ k < subs.length, result (i + k) = .sent) := by
  suffices codes : (∀ request ∈ requests s (subscribeLoop result i subs s), request.code = 0) ↔
      subs = [] ∨ (s.mqttConnected = true ∧ ∀ k < subs.length, result (i + k) = .sent) by
    rw [← codes]
    exact ⟨AllAccepted.codes, fun zero => ⟨(subscribeLoop_topics result i subs s).1, zero⟩⟩
  induction subs generalizing i s with
  | nil => exact iff_of_true (by simp [subscribeLoop, requests_self]) (Or.inl rfl)
  | cons subscription rest ih =>
    have consistent' := (Phase.subscribe s subscription.topic (result i)).consistent consistent
    have later := ih (i + 1) consistent'
    rw [subscribeLoop_requests, List.forall_mem_cons, later]
    rcases writeCode_cases consistent (result i) with ⟨zero, connected, sent⟩ | ⟨negative, fails⟩
    · have connected' : (subscribe s subscription.topic (result i)).mqttConnected = true := by
        rw [subscribe_state, sent]
        exact connected
      have shifted : ∀ k, result (i + (k + 1)) = result (i + 1 + k) := fun k => congrArg result (by omega)
      rw [List.length_cons, Nat.forall_lt_succ_left, zero, connected', connected]
      simp only [shifted, Nat.add_zero, sent, true_and, List.cons_ne_nil, false_or]
      refine or_iff_right_of_imp fun empty k below => ?_
      rw [empty] at below
      exact absurd below (Nat.not_lt_zero k)
    · refine iff_of_false (fun both => absurd both.1 (Int.ne_of_lt negative)) ?_
      intro condition
      rcases condition with empty | ⟨connected, sent⟩
      · cases empty
      · exact fails ⟨connected, sent 0 (Nat.succ_pos rest.length)⟩

/-! ### The whole call -/

/-- The result of the last lookup is an error that `ret < 0` catches. -/
def LookupResult.Negative : LookupResult → Prop
  | .resolved _ => False
  | .failed code _ => code < 0

/-- A reconnection fails with a result that `ret < 0` catches, which misses a positive one of the last lookup. -/
def ConnectEnv.Fails (env : ConnectEnv) : Prop :=
  (¬ Resolves env.lookup 3 ∧ (env.lookup 0).Negative) ∨ (Resolves env.lookup 3 ∧ ¬ Connects env.attempt 3)

theorem lookupLoop_negative_iff (lookup : Nat → LookupResult) (retries : Nat) (rc : Int) (s : State) :
    (lookupLoop lookup (retries + 1) rc s).1 < 0 ↔ ¬ Resolves lookup (retries + 1) ∧ (lookup 0).Negative := by
  induction retries generalizing rc s with
  | zero =>
    unfold lookupLoop Resolves
    cases lookup 0 with
    | resolved address => simp [LookupResult.Negative]
    | failed code nonzero => simp [lookupLoop, Resolves, LookupResult.Negative]
  | succ retries ih =>
    unfold lookupLoop Resolves
    cases lookup (retries + 1) with
    | resolved address => simp
    | failed code nonzero => simp [ih]

theorem connectLoop_nonpositive (attempt : Nat → Attempt) (retries : Nat) {s : State} (idle : Idle s) :
    (connectLoop attempt retries s).1 ≤ 0 := by
  induction retries generalizing s with
  | zero => exact Int.le_of_lt Errno.einval.negative
  | succ retries ih =>
    have outcome := (connectRound_spec idle (attempt retries)).outcome
    unfold connectLoop
    generalize connectRound s (attempt retries) = round at *
    obtain ⟨result, t⟩ := round
    dsimp only at outcome
    rcases outcome with ⟨rfl, _⟩ | ⟨idle', _, _, _, ⟨rfl, _⟩ | ⟨rc, negative, rfl, _⟩⟩
    · exact Int.le_refl 0
    · exact ih idle'
    · exact Int.le_of_lt negative

theorem connectLoop_negative_iff (attempt : Nat → Attempt) (retries : Nat) {s : State} (idle : Idle s) :
    (connectLoop attempt retries s).1 < 0 ↔ ¬ Connects attempt retries := by
  have bounded := connectLoop_nonpositive attempt retries idle
  rcases connectLoop_outcome attempt retries idle with ⟨zero, connects, _⟩ | ⟨nonzero, fails, _⟩
  · exact iff_of_false (by omega) (not_not.mpr connects)
  · exact iff_of_true (by omega) fails

theorem ensureConnected_negative_iff {s : State} (consistent : Consistent s) (env : ConnectEnv) :
    (ensureConnected s env).1 < 0 ↔ s.mqttConnected = false ∧ env.Fails := by
  unfold ensureConnected
  cases connected : s.mqttConnected with
  | true => simp
  | false =>
    obtain ⟨quiet, _⟩ := lookupLoop_quiet env.lookup 3 Errno.einval.code s
    have dialled := connectLoop_negative_iff env.attempt 3 (quiet.idle (consistent.idle connected))
    have missed := lookupLoop_negative_iff env.lookup 2 Errno.einval.code s
    simp only [Bool.false_eq_true, if_false, true_and]
    unfold ConnectEnv.Fails
    rcases connectToServer_cases s env with ⟨missing, _, same⟩ | ⟨resolves, same⟩
    · rw [same, missed]
      exact (or_iff_left fun both => missing both.1).symm
    · rw [same, dialled]
      simp only [resolves, not_true_eq_false, false_and, false_or, true_and]

/-- What a call comes to: it fails to connect and says so, or it returns 0 after the loop over its table. -/
inductive Subscribed (s : State) (subs : List Subscription) (env : SubscribeEnv) (result : Int × State) : Prop where
  | fails (disconnected : s.mqttConnected = false) (fails : env.Fails) (negative : result.1 < 0)
      (silent : requests s result.2 = [])
  | loops (t : State) (caught : ¬ (s.mqttConnected = false ∧ env.Fails)) (zero : result.1 = 0)
      (consistent : Consistent t) (connected : t.mqttConnected = true ↔ s.mqttConnected = true ∨ env.Reconnects)
      (made : requests s result.2 = requests t (subscribeLoop env.result 0 subs t))

theorem mqttSubscribeToTopic_cases {s : State} (consistent : Consistent s) (subs : List Subscription)
    (env : SubscribeEnv) : Subscribed s subs env (mqttSubscribeToTopic s subs env) := by
  have caught := ensureConnected_negative_iff consistent env.toConnectEnv
  have outcome := ensureConnected_outcome consistent env.toConnectEnv
  have reconnected := ensureConnected_requests consistent env.toConnectEnv
  unfold mqttSubscribeToTopic
  generalize ensureConnected s env.toConnectEnv = result at *
  obtain ⟨ret, t⟩ := result
  dsimp only at *
  by_cases negative : ret < 0
  · rw [if_pos negative]
    obtain ⟨disconnected, fails⟩ := caught.mp negative
    exact .fails disconnected fails negative (requests_none reconnected)
  · rw [if_neg negative]
    have table : Extends (fun call => call.request = none) s { t with subscriptions := subs } := reconnected
    have looped := requests_append table (subscribeLoop_steady env.result 0 subs { t with subscriptions := subs })
    rw [requests_none table, List.nil_append] at looped
    refine .loops { t with subscriptions := subs } (fun both => negative (caught.mpr both)) rfl ?_ ?_ looped
    · rcases outcome with ⟨_, _, live, _⟩ | ⟨_, _, idle, _⟩
      · exact Or.inr ⟨live.connected, live.opened, live.polled, live.scheduled⟩
      · exact Or.inl ⟨idle.disconnected, idle.closed, idle.empty⟩
    · rcases outcome with ⟨_, connects, live, _⟩ | ⟨_, misses, idle, _⟩
      · exact iff_of_true live.connected connects
      · exact iff_of_false (by simp [idle.disconnected]) misses

theorem reportsFailure_iff {s : State} (consistent : Consistent s) (subs : List Subscription) (env : SubscribeEnv) :
    ReportsFailure subs (mqttSubscribeToTopic s subs env).1 (requests s (mqttSubscribeToTopic s subs env).2) ↔
      subs = [] ∨ (s.mqttConnected = false ∧ env.Fails) ∨
        ((s.mqttConnected = true ∨ env.Reconnects) ∧ ∀ i < subs.length, env.result i = .sent) := by
  rcases mqttSubscribeToTopic_cases consistent subs env with
    ⟨disconnected, fails, negative, _⟩ | ⟨t, caught, zero, consistent', connected, made⟩
  · refine iff_of_true ⟨fun zero => ?_, fun _ => negative⟩ (Or.inr (Or.inl ⟨disconnected, fails⟩))
    exact absurd zero (Int.ne_of_lt negative)
  · have accepted := subscribeLoop_accepted_iff env.result 0 subs consistent'
    simp only [Nat.zero_add, connected] at accepted
    rw [or_iff_right caught, ← accepted, ← made]
    constructor
    · exact fun reports => reports.success zero
    · exact fun accepted => ⟨fun _ => accepted, fun refused => absurd accepted refused⟩

theorem mqttSubscribeToTopic_ids {s : State} (consistent : Consistent s) (subs : List Subscription)
    (env : SubscribeEnv) : ∀ request ∈ requests s (mqttSubscribeToTopic s subs env).2, request.messageId = 1 := by
  rcases mqttSubscribeToTopic_cases consistent subs env with ⟨_, _, _, silent⟩ | ⟨t, _, _, _, _, made⟩
  · rw [silent]
    exact fun _ present => absurd present List.not_mem_nil
  · rw [made]
    exact (subscribeLoop_topics env.result 0 subs t).2

theorem packetIds_accepted {subs : List Subscription} {made : List Request} (accepted : AllAccepted subs made)
    (one : ∀ request ∈ made, request.messageId = 1) : packetIds made = List.replicate subs.length 1 := by
  have length : made.length = subs.length := by simpa using congrArg List.length accepted.topics
  have kept : (made.filter fun request => request.code = 0) = made :=
    List.filter_eq_self.mpr fun request present => decide_eq_true (accepted.codes request present)
  unfold packetIds
  rw [kept, ← length, ← List.length_map (f := Request.messageId)]
  apply List.eq_replicate_of_mem
  simpa using one

/-- With one identifier for all requests, a call that returns 0 keeps apart a table of one entry at most. -/
theorem subscribesApart_zero_iff {subs : List Subscription} {made : List Request}
    (one : ∀ request ∈ made, request.messageId = 1) :
    SubscribesApart subs 0 made ↔ ReportsFailure subs 0 made ∧ subs.length ≤ 1 := by
  constructor
  · intro apart
    have distinct := apart.distinct
    rw [packetIds_accepted (apart.reports.success rfl) one, List.nodup_replicate] at distinct
    exact ⟨apart.reports, distinct⟩
  · intro both
    obtain ⟨reports, short⟩ := both
    have ids := packetIds_accepted (reports.success rfl) one
    refine ⟨reports, ?_, ?_⟩
    · rw [ids, List.nodup_replicate]
      exact short
    · intro messageId present
      rw [ids] at present
      rw [List.eq_of_mem_replicate present]
      decide

/-- In every state of a run, subscribing reports its failures and keeps its requests apart exactly if it has
nothing to subscribe, or says that it is not connected, or sends a single request. For the failures alone it
is enough that every request is sent. -/
theorem subscribes_apart_iff (channelId : Int) (devId lastWillTopic lastWillMessage : Text) (steps : List Step)
    (subs : List Subscription) (env : SubscribeEnv) :
    let s := run step (booted channelId devId lastWillTopic lastWillMessage) steps
    let result := mqttSubscribeToTopic s subs env
    (SubscribesApart subs result.1 (requests s result.2) ↔
      subs = [] ∨ (s.mqttConnected = false ∧ env.Fails) ∨
        ((s.mqttConnected = true ∨ env.Reconnects) ∧ subs.length = 1 ∧ env.result 0 = .sent)) ∧
    (ReportsFailure subs result.1 (requests s result.2) ↔
      subs = [] ∨ (s.mqttConnected = false ∧ env.Fails) ∨
        ((s.mqttConnected = true ∨ env.Reconnects) ∧ ∀ i < subs.length, env.result i = .sent)) := by
  intro s result
  have consistent : Consistent s :=
    run_consistent (booted_consistent channelId devId lastWillTopic lastWillMessage) steps
  have reports : ReportsFailure subs result.1 (requests s result.2) ↔ _ := reportsFailure_iff consistent subs env
  have one := mqttSubscribeToTopic_ids consistent subs env
  refine ⟨?_, reports⟩
  rcases mqttSubscribeToTopic_cases consistent subs env with
    ⟨disconnected, fails, _, silent⟩ | ⟨_, caught, zero, _, _, _⟩
  · have failed : s.mqttConnected = false ∧ env.Fails := ⟨disconnected, fails⟩
    refine iff_of_true ⟨reports.mpr (Or.inr (Or.inl failed)), ?_, ?_⟩ (Or.inr (Or.inl failed))
    · rw [silent]
      exact List.nodup_nil
    · rw [silent]
      exact fun _ present => absurd present List.not_mem_nil
  · rw [or_iff_right caught] at reports ⊢
    have zero' : result.1 = 0 := zero
    rw [zero'] at reports ⊢
    rw [subscribesApart_zero_iff one, reports]
    constructor
    · intro both
      obtain ⟨condition, short⟩ := both
      rcases condition with empty | ⟨connected, sent⟩
      · exact Or.inl empty
      · rcases Nat.le_one_iff_eq_zero_or_eq_one.mp short with empty | single
        · exact Or.inl (List.length_eq_zero_iff.mp empty)
        · exact Or.inr ⟨connected, single, sent 0 (by omega)⟩
    · intro condition
      rcases condition with rfl | ⟨connected, single, sent⟩
      · exact ⟨Or.inl rfl, Nat.zero_le 1⟩
      · refine ⟨Or.inr ⟨connected, fun i below => ?_⟩, Nat.le_of_eq single⟩
        obtain rfl : i = 0 := by omega
        exact sent

/-- A refused request is reported as success, and two requests share their identifier. -/
theorem subscribes_apart_fails :
    let s := booted 1 [] [] []
    let lights : Subscription := { topic := ['a'], callback := 0 }
    let heating : Subscription := { topic := ['b'], callback := 1 }
    let refused := mqttSubscribeToTopic s [lights] { answering 7 with result := fun _ => .refused Errno.einval }
    let sent := mqttSubscribeToTopic s [lights, heating] { answering 7 with result := fun _ => .sent }
    (refused.1 = 0 ∧ ¬ ReportsFailure [lights] refused.1 (requests s refused.2)) ∧
      packetIds (requests s sent.2) = [1, 1] ∧ ¬ SubscribesApart [lights, heating] sent.1 (requests s sent.2) := by
  intro s lights heating refused sent
  have shared : packetIds (requests s sent.2) = [1, 1] := by decide
  refine ⟨⟨by decide, fun reports => ?_⟩, shared, fun apart => ?_⟩
  · exact absurd (reports.success (by decide)).codes (by decide)
  · have distinct := apart.distinct
    rw [shared] at distinct
    exact absurd distinct (by decide)

end AirQuality.Mqtt
