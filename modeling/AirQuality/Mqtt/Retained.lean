import AirQuality.Mqtt.Sending
import AirQuality.Mqtt.Session

/-!
# A message announced once

A client whose will revokes a message announces it once and publishes only elsewhere after that. The
broker then retains the message exactly as long as the session of the announcement lasts.
-/

namespace AirQuality.Mqtt
open Foundation

/-- What the call gets through does not go to `topic`. -/
abbrev Call.Elsewhere (topic : Text) (call : Call) : Prop :=
  call.Publishes fun param code => code = 0 → param.topic ≠ topic

/-- If the call connects, its client leaves `will` with the broker. -/
def Call.Wills (will : Testament Text Text) : Call → Prop
  | .mqttConnect _ client _ => client.will = some { topic := will.topic, message := will.message, retain := will.retain }
  | _ => True

/-- `boot` ends with the announcement of `message`, the only publish to its topic that gets through. -/
structure Announced (topic message : Text) (will : Testament Text Text) (boot calls : List Call) : Prop where
  possible : Along transportAfter Call.Possible false calls
  wills : ∀ call ∈ calls, call.Wills will
  last : ∃ before param, boot = before ++ [.mqttPublish param true 0] ∧
    (param.topic = topic ∧ param.payload = message ∧ param.retainFlag = true) ∧
    ∀ call ∈ before, call.Elsewhere topic
  later : ∃ more, calls = boot ++ more ∧ ∀ call ∈ more, call.Elsewhere topic

/-- Whenever a publish gets through after `boot`, the broker retains `message`. -/
def Available (retained : Text → Option Text) (topic message : Text) (boot calls : List Call) : Prop :=
  ∀ between param connected after, calls = boot ++ (between ++ .mqttPublish param connected 0 :: after) →
    (brokerAfter retained (boot ++ (between ++ [.mqttPublish param connected 0]))).retained topic = some message

/-- Whenever a publish gets through after `boot`, the session `boot` ended with has lasted so far. -/
def Uninterrupted (retained : Text → Option Text) (boot calls : List Call) : Prop :=
  ∀ between param connected after, calls = boot ++ (between ++ .mqttPublish param connected 0 :: after) →
    (brokerAfter retained boot).session.isSome ∧ ∀ call ∈ between, ¬ call.EndsSession

theorem delivery_keepsStale {topic message : Text} {will : Testament Text Text} {call : Call}
    (wills : call.Wills will) (elsewhere : call.Elsewhere topic) {delivered : Delivery Text Text}
    (present : delivery call = some delivered) : Broker.KeepsStale topic message will delivered := by
  cases call with
  | mqttConnect broker client result =>
    cases result with
    | failed errno => cases present
    | opened socket accepted =>
      cases accepted with
      | false => cases present
      | true =>
        cases present
        show client.will.map _ = some will
        rw [show client.will = _ from wills]
        rfl
  | mqttPublish param connected code =>
    simp only [delivery] at present
    split at present
    · rename_i zero
      cases present
      exact Or.inl (elsewhere zero)
    · cases present
  | transportClosed | serverDisconnects =>
    cases present
    trivial
  | _ => cases present

theorem delivery_elsewhere {topic : Text} {call : Call} (elsewhere : call.Elsewhere topic)
    (lasting : ¬ call.EndsSession) (unconnected : ∀ broker client result, call ≠ .mqttConnect broker client result)
    {delivered : Delivery Text Text} (present : delivery call = some delivered) :
    Broker.PublishElsewhere topic delivered := by
  cases call with
  | mqttConnect broker client result => exact absurd rfl (unconnected broker client result)
  | mqttPublish param connected code =>
    simp only [delivery] at present
    split at present
    · rename_i zero
      cases present
      exact elsewhere zero
    · cases present
  | transportClosed | serverDisconnects => exact absurd trivial lasting
  | _ => cases present

theorem delivery_endsSession {call : Call} (ends : call.EndsSession) : delivery call = some .disconnect := by
  cases call with
  | transportClosed | serverDisconnects => rfl
  | _ => exact ends.elim

theorem brokerAfter_announcement (retained : Text → Option Text) (before : List Call) (param : PublishParam)
    (keeps : param.retainFlag = true) :
    let b := brokerAfter retained before
    brokerAfter retained (before ++ [.mqttPublish param true 0]) =
      if b.session.isSome then { b with retained := Function.update b.retained param.topic (some param.payload) } else b := by
  rw [brokerAfter_append]
  simp [delivery, Broker.deliver, Broker.keep, keeps, run]

/-! ### The session decides -/

variable {retained : Text → Option Text} {topic message : Text} {will : Testament Text Text} {boot calls : List Call}

theorem Announced.elsewhere (announced : Announced topic message will boot calls) {between after : List Call}
    {last : Call} (same : calls = boot ++ (between ++ last :: after)) :
    ∀ call ∈ between ++ [last], call ∈ calls ∧ call.Elsewhere topic := by
  obtain ⟨more, grown, elsewhere⟩ := announced.later
  obtain rfl : more = between ++ last :: after := by
    rw [grown] at same
    exact List.append_cancel_left same
  intro call member
  have present : call ∈ between ++ last :: after := by
    rw [List.append_cons]
    exact List.mem_append_left after member
  exact ⟨by rw [grown]; exact List.mem_append_right boot present, elsewhere call present⟩

theorem Announced.opened (announced : Announced topic message will boot calls) :
    run transportAfter false boot = true := by
  obtain ⟨before, first, ended, _⟩ := announced.last
  obtain ⟨more, grown, _⟩ := announced.later
  have possible := announced.possible
  rw [grown, ended, along_append, along_append] at possible
  rw [ended, run_append]
  exact possible.1.2.1 rfl

theorem Announced.holds (announced : Announced topic message will boot calls)
    (up : (brokerAfter retained boot).session.isSome) : (brokerAfter retained boot).retained topic = some message := by
  obtain ⟨before, first, ended, ⟨ontopic, carries, keeps⟩, _⟩ := announced.last
  have announcement := brokerAfter_announcement retained before first keeps
  rw [← ended] at announcement
  dsimp only at announcement
  split at announcement
  · rw [announcement, ontopic, carries]
    exact Function.update_self ..
  · rename_i down
    rw [announcement] at up
    exact absurd up down

theorem Announced.keepsStale (announced : Announced topic message will boot calls) {part : List Call}
    (each : ∀ call ∈ part, call ∈ calls ∧ call.Elsewhere topic) :
    ∀ delivered ∈ part.filterMap delivery, Broker.KeepsStale topic message will delivered := by
  intro delivered present
  obtain ⟨call, member, given⟩ := List.mem_filterMap.mp present
  exact delivery_keepsStale (announced.wills call (each call member).1) (each call member).2 given

/-- Before the announcement the topic is stale, and the announcement needs a session to change that. -/
theorem Announced.willed (announced : Announced topic message will boot calls)
    (revokes : Broker.Revokes will topic message) (fresh : retained topic ≠ some message) :
    Broker.Willed topic message will (brokerAfter retained boot) := by
  obtain ⟨before, first, ended, ⟨_, _, keeps⟩, quiet⟩ := announced.last
  obtain ⟨more, grown, _⟩ := announced.later
  have stale : Broker.Stale topic message will (brokerAfter retained before) := by
    refine Broker.run_stale revokes ⟨fresh, Or.inl rfl⟩ _ (announced.keepsStale ?_)
    intro call member
    exact ⟨by simp [grown, ended, member], quiet call member⟩
  have announcement := brokerAfter_announcement retained before first keeps
  rw [← ended] at announcement
  rw [announcement]
  split
  · rename_i up
    refine Or.inl (stale.session.resolve_left ?_)
    intro ended
    rw [ended] at up
    cases up
  · exact Or.inr stale

theorem Announced.available (announced : Announced topic message will boot calls)
    (uninterrupted : Uninterrupted retained boot calls) : Available retained topic message boot calls := by
  intro between param connected after same
  obtain ⟨up, lasting⟩ := uninterrupted between param connected after same
  have elsewhere := announced.elsewhere same
  have unconnected : ∀ call ∈ between, ∀ broker client result, call ≠ .mqttConnect broker client result := by
    have possible := announced.possible
    rw [same, along_append, announced.opened, along_append] at possible
    exact not_connect_of_open possible.2.1 lasting
  have deliveries : ∀ delivered ∈ (between ++ [Call.mqttPublish param connected 0]).filterMap delivery,
      Broker.PublishElsewhere topic delivered := by
    intro delivered present
    obtain ⟨call, member, given⟩ := List.mem_filterMap.mp present
    have away := (elsewhere call member).2
    rcases List.mem_append.mp member with earlier | last
    · exact delivery_elsewhere away (lasting call earlier) (unconnected call earlier) given
    · obtain rfl := List.mem_singleton.mp last
      exact delivery_elsewhere away id (by simp) given
  rw [brokerAfter_append, (Broker.retained_of_lasting _ deliveries).1]
  exact announced.holds up

theorem Announced.uninterrupted (announced : Announced topic message will boot calls)
    (revokes : Broker.Revokes will topic message) (fresh : retained topic ≠ some message)
    (available : Available retained topic message boot calls) : Uninterrupted retained boot calls := by
  intro between param connected after same
  have held := available between param connected after same
  rw [brokerAfter_append] at held
  have keeps := announced.keepsStale (announced.elsewhere same)
  have willed := announced.willed revokes fresh
  refine ⟨?_, ?_⟩
  · rcases willed with session | stale
    · rw [session]
      rfl
    · exact absurd held (Broker.run_stale revokes stale _ keeps).retained
  · intro call member ends
    have ended : Delivery.disconnect ∈ (between ++ [Call.mqttPublish param connected 0]).filterMap delivery :=
      List.mem_filterMap.mpr ⟨call, List.mem_append_left _ member, delivery_endsSession ends⟩
    exact (Broker.stale_of_ended revokes willed keeps ended).retained held

end AirQuality.Mqtt
