import AirQuality.Foundation.Output
import AirQuality.Mqtt.Transport

/-!
# Sockets and addresses

The client holds one socket at most, closes each one it has opened before it opens the next, and reads, sends and polls
only while it holds one. It opens each to the address that the last lookup has found.
-/

namespace AirQuality.Mqtt
open Foundation

def Call.use : Call → Option (Use Nat)
  | .mqttConnect _ _ (.opened socket _) => some (.take socket)
  | .transportClosed socket => some (.give socket)
  | _ => none

def uses (calls : List Call) : List (Use Nat) := calls.filterMap Call.use

/-- The socket held after the calls. -/
def heldAfter (calls : List Call) : Option Nat := run Use.after none (uses calls)

def openedSockets (calls : List Call) : List Nat := (uses calls).filterMap Use.taken

def closedSockets (calls : List Call) : List Nat := (uses calls).filterMap Use.given

/-- The call is one to make while `held` is open: a connection is set up and made with no socket open, only the held
socket is closed, and packets are read and sent and a poll is made only while some socket is held. -/
def Call.Suits (held : Option Nat) : Call → Prop
  | .mqttConnect _ _ _ => held = none
  | .transportClosed socket => held = some socket
  | call => call.Fits held

theorem Call.Fits.suits {call : Call} {held : Option Nat} (fits : call.Fits held) : call.Suits held := by
  cases call with
  | mqttConnect | transportClosed => exact fits.elim
  | _ => exact fits

theorem Call.Fits.use {call : Call} {held : Option Nat} (fits : call.Fits held) : call.use = none := by
  cases call with
  | mqttConnect | transportClosed => exact fits.elim
  | _ => rfl

/-- The log tells the transport, and each call suits the socket held when it was made. -/
structure Keeps (d : Dealings) : Prop where
  held : heldAfter d.calls = d.transport
  proper : Along Use.after Use.Proper none (uses d.calls)
  suits : Ordered (fun before call => call.Suits (heldAfter before)) d.calls

theorem heldAfter_call (calls : List Call) (call : Call) :
    heldAfter (calls ++ [call]) = match call.use with
      | none => heldAfter calls
      | some use => use.after (heldAfter calls) := by
  unfold heldAfter uses
  rw [List.filterMap_append, run_append]
  cases used : call.use <;> simp [used, run]

theorem proper_call {calls : List Call} (proper : Along Use.after Use.Proper none (uses calls)) {call : Call}
    (now : ∀ use, call.use = some use → use.Proper (heldAfter calls)) :
    Along Use.after Use.Proper none (uses (calls ++ [call])) := by
  unfold uses at proper ⊢
  rw [List.filterMap_append, along_append]
  refine ⟨proper, ?_⟩
  cases used : call.use with
  | none => simp [used, Along]
  | some use =>
    have next : use.Proper (heldAfter calls) := now use used
    simp only [List.filterMap_cons, used, List.filterMap_nil]
    exact ⟨next, trivial⟩

theorem move_keeps {identity : Client} {d e : Dealings} (move : Move identity d e) (keeps : Keeps d) : Keeps e := by
  cases move with
  | call call fits =>
    have unused := fits.use
    refine ⟨?_, proper_call keeps.proper (by simp [unused]), ordered_grow.mpr ⟨keeps.suits, ?_⟩⟩
    · show heldAfter (d.calls ++ [call]) = d.transport
      rw [heldAfter_call, unused]
      exact keeps.held
    · rw [keeps.held]
      exact fits.suits
  | connect address result closed fresh =>
    have empty : heldAfter d.calls = none := keeps.held.trans closed
    refine ⟨?_, ?_, ordered_grow.mpr ⟨keeps.suits, empty⟩⟩
    · show heldAfter (d.calls ++ [.mqttConnect (some address) identity result]) = result.transport
      rw [heldAfter_call]
      cases result with
      | opened socket accepted => rfl
      | failed errno => exact empty
    · refine proper_call keeps.proper fun use used => ?_
      cases result with
      | opened socket accepted =>
        cases used
        exact empty
      | failed errno => cases used
  | close socket opened =>
    have full : heldAfter d.calls = some socket := keeps.held.trans opened
    refine ⟨?_, ?_, ordered_grow.mpr ⟨keeps.suits, full⟩⟩
    · show heldAfter (d.calls ++ [.transportClosed socket]) = none
      rw [heldAfter_call]
      rfl
    · refine proper_call keeps.proper fun use used => ?_
      cases used
      exact full

/-- Each call suits the socket held when it is made, and the sockets that were opened are those that were closed,
in the same order, and the one that is open now. -/
theorem sockets_in_custody (channelId : Int) (devId lastWillTopic lastWillMessage : Text) (steps : List Step) :
    let s := run step (booted channelId devId lastWillTopic lastWillMessage) steps
    Ordered (fun before call => call.Suits (heldAfter before)) s.calls ∧
      heldAfter s.calls = s.client.transport ∧
      openedSockets s.calls = closedSockets s.calls ++ s.client.transport.toList := by
  intro s
  have gets := run_gets channelId devId lastWillTopic lastWillMessage steps
  have start : Keeps (booted channelId devId lastWillTopic lastWillMessage).dealings :=
    ⟨rfl, trivial, fun before call after same => by cases before <;> cases same⟩
  have keeps : Keeps s.dealings := Moves.invariant move_keeps gets start
  refine ⟨keeps.suits, keeps.held, ?_⟩
  have balanced := Use.balanced keeps.proper
  have held : run Use.after none (uses s.calls) = s.client.transport := keeps.held
  rw [Option.toList_none, List.nil_append] at balanced
  unfold openedSockets closedSockets
  rw [← held]
  exact balanced

/-- A connection is made as the booted client, to the address of the last lookup. -/
def ToLatest (identity : Client) (before : List Call) : Call → Prop
  | .mqttConnect broker client _ =>
    client = identity ∧ ∃ address, broker = some address ∧ lastLookup before = some (.resolved address)
  | _ => True

theorem move_toLatest {identity : Client} {d e : Dealings} (move : Move identity d e)
    (latest : Ordered (ToLatest identity) d.calls) : Ordered (ToLatest identity) e.calls := by
  cases move with
  | call call fits =>
    refine ordered_grow.mpr ⟨latest, ?_⟩
    cases call with
    | mqttConnect => exact fits.elim
    | _ => trivial
  | connect address result closed fresh => exact ordered_grow.mpr ⟨latest, rfl, address, rfl, fresh⟩
  | close socket opened => exact ordered_grow.mpr ⟨latest, trivial⟩

/-- Every connection carries the device id and the retained will of `mqtt_init`, and goes to the address found by the
lookup made last, which has succeeded. -/
theorem connects_to_latest (channelId : Int) (devId lastWillTopic lastWillMessage : Text) (steps : List Step) :
    Ordered (ToLatest
      { clientId := devId, will := some ⟨lastWillTopic, lastWillMessage, true⟩, keepalive := configMqttKeepalive })
      (run step (booted channelId devId lastWillTopic lastWillMessage) steps).calls := by
  have gets := run_gets channelId devId lastWillTopic lastWillMessage steps
  have start : Ordered (ToLatest (configuredClient (booted channelId devId lastWillTopic lastWillMessage))) [] :=
    fun before call after same => by cases before <;> cases same
  exact @Moves.invariant _ (fun d => Ordered (ToLatest _) d.calls) move_toLatest _ _ gets start

end AirQuality.Mqtt
