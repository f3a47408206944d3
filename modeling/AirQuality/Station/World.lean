import AirQuality.Mqtt.Sending
import AirQuality.Mqtt.Session
import AirQuality.Station.Loop

/-!
# The station on its network

`main` over the MQTT client of `mqtt.c`. Between two publishes the other threads and the server take
any number of steps.
-/

namespace AirQuality.Station
open Foundation Ha Uid

/-- What can happen while `main` is not publishing. -/
inductive Background where
  | pollCalls
  | pollReturns (poll : Mqtt.PollResult)
  | pollReads (input : Mqtt.InputResult)
  | keepaliveExpires (ping : Option Errno)
  | serverDisconnects

def Background.step : Background → Mqtt.Step
  | .pollCalls => .pollCalls
  | .pollReturns poll => .pollReturns poll
  | .pollReads input => .pollReads input
  | .keepaliveExpires ping => .keepaliveExpires ping
  | .serverDisconnects => .serverDisconnects

structure Moment where
  background : List Background
  env : Mqtt.PublishEnv

structure World where
  mqtt : Mqtt.State
  moments : Nat → Moment
  next : Nat := 0

def World.init : Init World := fun deviceId topic message w =>
  (0, { w with mqtt := Mqtt.mqttInit w.mqtt deviceId topic message })

def World.publish : Publish World := fun topic payload retain w =>
  let moment := w.moments w.next
  let before := run Mqtt.step w.mqtt (moment.background.map Background.step)
  let (ret, mqtt) := Mqtt.mqttPublishToTopic before topic payload retain moment.env
  (ret, { w with mqtt, next := w.next + 1 })

def World.powered (channelId : Int) (moments : Nat → Moment) : World :=
  { mqtt := Mqtt.mqttWatchdogInit {} channelId, moments }

/-- A station with all that answers it. -/
structure Deployment where
  platform : Platform
  identity : Identity
  patience : Patience
  channelId : Int
  moments : Nat → Moment

/-- Up to the return of `set_online_retry`. -/
def Deployment.online (station : Deployment) : Bool × App World :=
  goOnline World.publish World.init station.platform station.identity station.patience
    (World.powered station.channelId station.moments)

def Deployment.run (station : Deployment) (turns : List Turn) : App World :=
  main World.publish World.init station.platform station.identity station.patience
    (World.powered station.channelId station.moments) turns

theorem background_silent {s : Mqtt.State} (consistent : Mqtt.Consistent s) (background : Background) :
    Mqtt.Extends Mqtt.Call.Silent s (Mqtt.step s background.step) := by
  cases background with
  | pollCalls => exact Mqtt.pollCalls_silent s
  | pollReturns poll => exact Mqtt.extends_of_calls (Mqtt.pollReturns_calls s poll)
  | pollReads input => exact Mqtt.pollReads_silent s input
  | keepaliveExpires ping => exact Mqtt.keepaliveExpires_silent consistent ping
  | serverDisconnects => exact Mqtt.extends_record (by trivial)

theorem backgrounds_silent {s : Mqtt.State} (consistent : Mqtt.Consistent s) (background : List Background) :
    Mqtt.Extends Mqtt.Call.Silent s (run Mqtt.step s (background.map Background.step)) := by
  induction background generalizing s with
  | nil => exact Mqtt.extends_refl _ s
  | cons head rest ih =>
    exact (background_silent consistent head).trans (ih (Mqtt.step_consistent consistent head.step))

/-- A publish in the world is one call of `mqtt_publish_to_topic` after some silent phases. -/
theorem World.publish_once {w : World} (consistent : Mqtt.Consistent w.mqtt) (topic payload : Text) (retain : Bool) :
    ∃ param : Mqtt.PublishParam, (param.topic = topic ∧ param.payload = payload ∧ param.retainFlag = retain) ∧
      Mqtt.PublishedOnce param w.mqtt (World.publish topic payload retain w).1
        (World.publish topic payload retain w).2.mqtt := by
  have quiet := backgrounds_silent consistent (w.moments w.next).background
  have phases := Mqtt.run_phases consistent ((w.moments w.next).background.map Background.step)
  have once := Mqtt.mqttPublishToTopic_once (phases.consistent consistent) topic payload retain (w.moments w.next).env
  refine ⟨(w.moments w.next).env.param topic payload retain, ⟨rfl, rfl, rfl⟩, phases.trans once.phases, once.result,
    (quiet.mono fun _ silent => silent.own _ _).trans once.own, ?_⟩
  intro zero
  obtain ⟨more, logged, silent⟩ := quiet
  obtain ⟨before, silent', last⟩ := once.sent zero
  refine ⟨more ++ before, List.forall_mem_append.mpr ⟨silent, silent'⟩, ?_⟩
  rw [← List.append_assoc, ← logged]
  exact last

end AirQuality.Station
