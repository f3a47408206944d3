import AirQuality.Mqtt.Consistency

/-!
# The packets a call publishes

Nothing but `mqtt_publish_to_topic` publishes, and it publishes its own message, once.
-/

namespace AirQuality.Mqtt
open Foundation

/-- If the call publishes, it does so as `P` says of the message and the result. -/
def Call.Publishes (P : PublishParam → Int → Prop) : Call → Prop
  | .mqttPublish param _ code => P param code
  | _ => True

theorem Call.Plain.publishes {call : Call} (plain : call.Plain) (P : PublishParam → Int → Prop) :
    call.Publishes P := by
  cases call with
  | mqttPublish param connected code => exact plain.elim
  | _ => trivial

theorem Call.Aside.publishes {call : Call} (aside : call.Aside) (P : PublishParam → Int → Prop) :
    call.Publishes P := by
  cases call with
  | mqttPublish param connected code => exact aside.elim
  | _ => trivial

theorem Call.Publishes.mono {call : Call} {P Q : PublishParam → Int → Prop}
    (weaker : ∀ param code, P param code → Q param code) (publishes : call.Publishes P) : call.Publishes Q := by
  cases call with
  | mqttPublish param connected code => exact weaker param code publishes
  | _ => trivial

abbrev Call.Silent (call : Call) : Prop := call.Publishes fun _ _ => False

theorem ensureConnected_silent {s : State} (consistent : Consistent s) (env : ConnectEnv) :
    Extends Call.Silent s (ensureConnected s env).2 := by
  refine ensureConnected_log ?_ (fun _ plain => plain.publishes _) (fun _ aside => aside.publishes _) consistent env
  intro t attempt
  unfold dialCalls
  cases attempt.connect <;> simp [Call.Publishes]

theorem pollReads_silent (s : State) (input : InputResult) : Extends Call.Silent s (pollReads s input) :=
  (pollReads_log s input).mono fun _ plain => plain.publishes _

theorem keepaliveExpires_silent {s : State} (consistent : Consistent s) (ping : Option Errno) :
    Extends Call.Silent s (keepaliveExpires s ping) :=
  keepaliveExpires_log (fun _ => trivial) (fun _ plain => plain.publishes _) consistent ping

theorem pollCalls_silent (s : State) : Extends Call.Silent s (pollCalls s) := by
  refine (pollCalls_log s).mono fun call poll => ?_
  cases call with
  | mqttPublish param connected code => exact poll.elim
  | _ => trivial

def PublishEnv.param (env : PublishEnv) (topic payload : Text) (retain : Bool) : PublishParam :=
  { topic, payload, messageId := env.rand.toUInt16, retainFlag := retain }

/-- If the call publishes, it publishes `param`, and in vain unless `ret` is 0. -/
abbrev Call.Own (param : PublishParam) (ret : Int) (call : Call) : Prop :=
  call.Publishes fun given code => given = param ∧ (code = 0 → ret = 0)

theorem Call.Publishes.own {call : Call} (silent : call.Silent) (param : PublishParam) (ret : Int) :
    call.Own param ret := silent.mono fun _ _ impossible => impossible.elim

theorem mqttPublish_own (s : State) (param : PublishParam) (result : WriteResult) {ret : Int}
    (zero : writeCode s result = 0 → ret = 0) : Extends (Call.Own param ret) s (mqttPublish s param result).2 := by
  rw [mqttPublish_state]
  exact afterWrite_extends ⟨rfl, zero⟩ (fun _ plain => plain.publishes _) result

/-- A call of `mqtt_publish_to_topic` from `s` to `t`: it publishes its message or nothing, and it
returns 0 exactly when the message has gone out, as the last thing it does. -/
structure PublishedOnce (param : PublishParam) (s : State) (ret : Int) (t : State) : Prop where
  phases : Phases s t
  result : ret = 0 ∨ ret < 0
  own : Extends (Call.Own param ret) s t
  sent : ret = 0 → ∃ before, (∀ call ∈ before, call.Silent) ∧
    t.calls = s.calls ++ before ++ [.mqttPublish param true 0]

theorem mqttPublishToTopic_eq (s : State) (topic payload : Text) (retain : Bool) (env : PublishEnv) :
    mqttPublishToTopic s topic payload retain env =
      let (ret, s) := ensureConnected s env.toConnectEnv
      if ret < 0 then (ret, s) else
      let (ret, s) := mqttPublish s (env.param topic payload retain) env.result
      if ret < 0 then (ret, s) else (0, s) := rfl

theorem mqttPublishToTopic_once {s : State} (consistent : Consistent s) (topic payload : Text) (retain : Bool)
    (env : PublishEnv) :
    PublishedOnce (env.param topic payload retain) s (mqttPublishToTopic s topic payload retain env).1
      (mqttPublishToTopic s topic payload retain env).2 := by
  have phases := mqttPublishToTopic_phases consistent topic payload retain env
  have consistent' := (ensureConnected_phases consistent env.toConnectEnv).consistent consistent
  have silent := ensureConnected_silent consistent env.toConnectEnv
  rw [mqttPublishToTopic_eq] at phases ⊢
  generalize env.param topic payload retain = param at *
  generalize ensureConnected s env.toConnectEnv = reconnected at *
  obtain ⟨ret, t⟩ := reconnected
  have own : ∀ ret, Extends (Call.Own param ret) s t := fun ret => silent.mono fun _ silent => silent.own param ret
  dsimp only at *
  by_cases failed : ret < 0
  · rw [if_pos failed] at phases ⊢
    exact ⟨phases, Or.inr failed, own ret, fun zero => absurd zero (Int.ne_of_lt failed)⟩
  · rw [if_neg failed] at phases ⊢
    rcases writeCode_cases consistent' env.result with ⟨zero, connected, sent⟩ | ⟨negative, _⟩
    · have code : ¬ (mqttPublish t param env.result).1 < 0 := by
        show ¬ writeCode t env.result < 0
        omega
      rw [if_neg code] at phases ⊢
      refine ⟨phases, Or.inl rfl, (own 0).trans (mqttPublish_own t param env.result fun _ => rfl), ?_⟩
      intro _
      obtain ⟨before, logged, silents⟩ := silent
      refine ⟨before, silents, ?_⟩
      rw [mqttPublish_state, zero, sent, connected]
      simp [afterWrite, State.record, logged]
    · have code : (mqttPublish t param env.result).1 < 0 := negative
      rw [if_pos code] at phases ⊢
      have vain : writeCode t env.result = 0 → (mqttPublish t param env.result).1 = 0 := fun zero => zero
      exact ⟨phases, Or.inr code, (own _).trans (mqttPublish_own t param env.result vain),
        fun zero => absurd zero (Int.ne_of_lt code)⟩

end AirQuality.Mqtt
