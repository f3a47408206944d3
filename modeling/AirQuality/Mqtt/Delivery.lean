import AirQuality.Foundation.Output
import AirQuality.Mqtt.Sending

/-!
# Delivery

The messages the library takes from the client are those of the calls of `mqtt_publish_to_topic` that
return 0: each once, in the order of the calls, whatever the other threads and the server do in between.
-/

namespace AirQuality.Mqtt
open Foundation

def Call.accepted : Call → Option PublishParam
  | .mqttPublish param _ code => if code = 0 then some param else none
  | _ => none

/-- The messages the library has taken, in order. -/
def accepted (calls : List Call) : List PublishParam := calls.filterMap Call.accepted

@[simp] theorem accepted_append (before after : List Call) :
    accepted (before ++ after) = accepted before ++ accepted after := List.filterMap_append

theorem Call.Silent.unaccepted {call : Call} (silent : call.Silent) : call.accepted = none := by
  cases call with
  | mqttPublish param connected code => exact silent.elim
  | _ => rfl

theorem accepted_silent {calls : List Call} (silent : ∀ call ∈ calls, call.Silent) : accepted calls = [] :=
  List.filterMap_eq_nil_iff.mpr fun call present => (silent call present).unaccepted

theorem Extends.accepted_eq {s t : State} (silent : Extends Call.Silent s t) : accepted t.calls = accepted s.calls := by
  obtain ⟨more, grown, each⟩ := silent
  rw [grown, accepted_append, accepted_silent each, List.append_nil]

theorem PublishedOnce.accepted_eq {param : PublishParam} {s t : State} {ret : Int} (once : PublishedOnce param s ret t) :
    accepted t.calls = accepted s.calls ++ if ret = 0 then [param] else [] := by
  by_cases zero : ret = 0
  · obtain ⟨before, silent, logged⟩ := once.sent zero
    have last : accepted [Call.mqttPublish param true 0] = [param] := rfl
    rw [logged, accepted_append, accepted_append, accepted_silent silent, last, if_pos zero, List.append_nil]
  · obtain ⟨more, grown, own⟩ := once.own
    have nothing : accepted more = [] := by
      refine List.filterMap_eq_nil_iff.mpr fun call present => ?_
      cases call with
      | mqttPublish given connected code =>
        have failed : code ≠ 0 := fun success => zero ((own _ present).2 success)
        exact if_neg failed
      | _ => rfl
    rw [grown, accepted_append, nothing, if_neg zero]

theorem subscribe_silent (s : State) (topic : Text) (result : WriteResult) :
    Extends Call.Silent s (subscribe s topic result) := by
  rw [subscribe_state]
  exact afterWrite_extends (by trivial) (fun _ plain => plain.publishes _) result

theorem mqttSubscribeToTopic_silent {s : State} (consistent : Consistent s) (subs : List Subscription)
    (env : SubscribeEnv) : Extends Call.Silent s (mqttSubscribeToTopic s subs env).2 := by
  apply mqttSubscribeToTopic_invariant _ _ subs env (ensureConnected_silent consistent env.toConnectEnv)
  · intro t silent topic result
    exact silent.trans (subscribe_silent t topic result)
  · intro t subs silent
    exact silent

/-- The message a step offers. -/
def Step.message : Step → List PublishParam
  | .publish topic payload retain env => [env.param topic payload retain]
  | _ => []

/-- The message a step has published, as its result tells. -/
def published (s : State) (action : Step) : List PublishParam :=
  if (perform s action).1 = some 0 then action.message else []

theorem step_accepted {s : State} (consistent : Consistent s) (action : Step) :
    accepted (step s action).calls = accepted s.calls ++ published s action := by
  have quiet : action.message = [] → Extends Call.Silent s (step s action) →
      accepted (step s action).calls = accepted s.calls ++ published s action := by
    intro mute silent
    rw [silent.accepted_eq, published, mute, ite_self, List.append_nil]
  cases action with
  | publish topic payload retain env =>
    have once := mqttPublishToTopic_once consistent topic payload retain env
    simp only [step, perform, published, Step.message, once.accepted_eq, Option.some.injEq]
  | subscribe subs env => exact quiet rfl (mqttSubscribeToTopic_silent consistent subs env)
  | pollCalls => exact quiet rfl (pollCalls_silent s)
  | pollReturns poll => exact quiet rfl (extends_of_calls (pollReturns_calls s poll))
  | pollReads input => exact quiet rfl (pollReads_silent s input)
  | keepaliveExpires ping => exact quiet rfl (keepaliveExpires_silent consistent ping)
  | serverDisconnects => exact quiet rfl (extends_record (by trivial))

/-- The library takes exactly the messages whose calls return 0, each once and in the order of the calls. -/
theorem delivered_in_order (channelId : Int) (devId lastWillTopic lastWillMessage : Text) (steps : List Step) :
    let start := booted channelId devId lastWillTopic lastWillMessage
    accepted (run step start steps).calls = outputs step published start steps ∧
      (accepted (run step start steps).calls).Sublist (steps.flatMap Step.message) := by
  intro start
  have consistent : Consistent start := booted_consistent _ _ _ _
  have taken : accepted (run step start steps).calls = outputs step published start steps := by
    let log (s : State) : List PublishParam := accepted s.calls
    have keep : ∀ s action, Consistent s → Consistent (step s action) := fun _ action held => step_consistent held action
    have each : ∀ s action, Consistent s → log (step s action) = log s ++ published s action :=
      fun _ action held => step_accepted held action
    exact run_emits keep each consistent steps
  refine ⟨taken, ?_⟩
  rw [taken]
  refine outputs_sublist (fun s action => ?_) start steps
  unfold published
  split
  · exact List.Sublist.refl _
  · exact List.nil_sublist _

end AirQuality.Mqtt
