import AirQuality.Mqtt.Reader
import AirQuality.Mqtt.Script

/-!
# Feeding the MQTT watchdog

The watchdog channel of the client is fed once for each PINGRESP that is read and for nothing else. When the
poll thread has returned, the only reads left are those of the answers to a CONNECT.
-/

namespace AirQuality.Mqtt
open Foundation

def Call.feeds : Call → Bool
  | .wdtFeed _ => true
  | _ => false

/-- The feed that belongs to a call. -/
def Call.fed (channelId : Int) : Call → List Call
  | .mqttInput result => Mqtt.fed channelId result
  | _ => []

def withoutFeeds (calls : List Call) : List Call := calls.filter fun call => !call.feeds

/-- The feeds of the log can be told from its reads. -/
def FedByReads (channelId : Int) (calls : List Call) : Prop :=
  calls = (withoutFeeds calls).flatMap fun call => call :: call.fed channelId

theorem FedByReads.append {channelId : Int} {before after : List Call} (first : FedByReads channelId before)
    (second : FedByReads channelId after) : FedByReads channelId (before ++ after) := by
  unfold FedByReads withoutFeeds at *
  rw [List.filter_append, List.flatMap_append, ← first, ← second]

theorem fedByReads_single {channelId : Int} {call : Call} (feeds : call.feeds = false)
    (silent : call.fed channelId = []) : FedByReads channelId [call] := by
  simp [FedByReads, withoutFeeds, feeds, silent]

theorem fedByReads_read (channelId : Int) (result : InputResult) :
    FedByReads channelId (.mqttInput result :: fed channelId result) := by
  unfold FedByReads withoutFeeds
  by_cases pinged : result.packet = some .pingresp <;> simp [fed, pinged, Call.feeds, Call.fed]

theorem Script.fedByReads {channelId : Int} {reader : Prop} {calls : List Call}
    (script : Script channelId reader calls) : FedByReads channelId calls := by
  induction script with
  | nil => rfl
  | bare call bare _ ih =>
    refine ih.append ?_
    cases call with
    | mqttInput | wdtFeed => exact bare.elim
    | _ => exact fedByReads_single rfl rfl
  | watch fd transport _ _ ih => exact ih.append (fedByReads_single rfl rfl)
  | read result _ _ ih => exact ih.append (fedByReads_read channelId result)
  | answer broker client socket accepted fd result _ ih =>
    have dialled : FedByReads channelId
        [.mqttConnect broker client (.opened socket accepted), .zsockPoll fd mqttConnectTimeoutMs (some socket)] :=
      (fedByReads_single rfl rfl).append (fedByReads_single rfl rfl)
    exact ih.append (dialled.append (fedByReads_read channelId result))

/-- In every run the watchdog is fed right after each read of a PINGRESP, on the channel it was given, and at no
other time. -/
theorem feeds_follow_pings (channelId : Int) (devId lastWillTopic lastWillMessage : Text) (steps : List Step) :
    FedByReads channelId (run step (booted channelId devId lastWillTopic lastWillMessage) steps).calls := by
  have consistent := booted_consistent channelId devId lastWillTopic lastWillMessage
  obtain ⟨_, more, grown, script⟩ := run_scripted consistent steps
  rw [grown]
  exact script.fedByReads

/-! ### Without a reader -/

/-- A read follows a CONNECT at once, a feed follows such a read, and no wait is without an end. -/
def OnlyAnswers (before : List Call) : Call → Prop
  | .mqttInput _ => ∃ earlier broker client socket accepted fd,
      before = earlier ++ [.mqttConnect broker client (.opened socket accepted),
        .zsockPoll fd mqttConnectTimeoutMs (some socket)]
  | .wdtFeed _ => ∃ earlier broker client socket accepted fd failure,
      before = earlier ++ answerCalls broker client socket accepted fd ⟨some .pingresp, failure⟩
  | .zsockPoll _ timeout _ => timeout ≠ sysForeverMs
  | _ => True

theorem Script.answers {channelId : Int} {calls : List Call} (script : Script channelId False calls) :
    Ordered OnlyAnswers calls := by
  induction script with
  | nil => exact fun before call after same => by cases before <;> cases same
  | bare call bare _ ih =>
    refine ordered_grow.mpr ⟨ih, ?_⟩
    cases call with
    | mqttInput | wdtFeed => exact bare.elim
    | zsockPoll => exact bare
    | _ => trivial
  | watch _ _ reads => exact reads.elim
  | read _ reads => exact reads.elim
  | @answer calls broker client socket accepted fd result _ ih =>
    have dialled : Ordered OnlyAnswers ((calls ++ [.mqttConnect broker client (.opened socket accepted)]) ++
        [.zsockPoll fd mqttConnectTimeoutMs (some socket)]) := by
      refine ordered_grow.mpr ⟨ordered_grow.mpr ⟨ih, trivial⟩, ?_⟩
      exact (by decide : mqttConnectTimeoutMs ≠ sysForeverMs)
    have read : Ordered OnlyAnswers (calls ++ answerCalls broker client socket accepted fd result) := by
      have follows : OnlyAnswers ((calls ++ [.mqttConnect broker client (.opened socket accepted)]) ++
          [.zsockPoll fd mqttConnectTimeoutMs (some socket)]) (.mqttInput result) :=
        ⟨calls, broker, client, socket, accepted, fd, List.append_assoc _ _ _⟩
      have grown := ordered_grow.mpr ⟨dialled, follows⟩
      rwa [List.append_assoc, List.append_assoc] at grown
    rw [← List.append_assoc]
    unfold fed
    split
    · rename_i pinged
      refine ordered_grow.mpr ⟨read, calls, broker, client, socket, accepted, fd, result.failure, ?_⟩
      rw [← pinged]
    · rwa [List.append_nil]

theorem step_returned {s : State} (consistent : Consistent s) (returned : s.pollThread = .returned) (action : Step) :
    (step s action).pollThread = .returned := by
  rcases step_pollThread consistent action with same | ⟨_, same⟩ | ⟨alive, _⟩
  · rw [same, returned]
  · rw [same, returned, start_returned]
  · exact absurd returned alive.2

theorem run_unread {s : State} (consistent : Consistent s) (returned : s.pollThread = .returned) (steps : List Step) :
    (run step s steps).pollThread = .returned ∧ Scripted False s (run step s steps) := by
  let Inv (t : State) : Prop := Consistent t ∧ t.pollThread = .returned ∧ Scripted False s t
  have keep : ∀ t action, Inv t → Inv (step t action) := by
    rintro t action ⟨held, gone, before⟩
    have scripted := step_scripted held (fun running => running gone) action
    exact ⟨step_consistent held action, step_returned held gone action, before.trans scripted⟩
  have start : Inv s := ⟨consistent, returned, scripted_refl s⟩
  exact (run_invariant keep start steps).2

/-- Once the poll thread has returned it stays so, and from then on the watchdog is fed only where a CONNECT is
answered with a PINGRESP. -/
theorem unfed_without_reader (channelId : Int) (devId lastWillTopic lastWillMessage : Text) (steps more : List Step)
    (returned : (run step (booted channelId devId lastWillTopic lastWillMessage) steps).pollThread = .returned) :
    let s := run step (booted channelId devId lastWillTopic lastWillMessage) steps
    (run step s more).pollThread = .returned ∧ Ordered OnlyAnswers ((run step s more).calls.drop s.calls.length) := by
  intro s
  have consistent := run_consistent (booted_consistent channelId devId lastWillTopic lastWillMessage) steps
  obtain ⟨gone, _, later, grown, script⟩ := run_unread consistent returned more
  refine ⟨gone, ?_⟩
  rw [grown, List.drop_left]
  exact script.answers

/-- The reader is lost with the connection, and the connection is made anew. -/
theorem unfed_without_reader_reconnected :
    let publish := Step.publish ['t'] ['p'] false { answering 7 with rand := 0, result := .sent }
    let s := run step (booted 1 [] [] [])
      [publish, .pollCalls, .pollReturns (.ready 1), .pollReads { failure := some Errno.einval }]
    (run step s [publish, .pollCalls]).pollThread = .returned ∧
      Ordered OnlyAnswers ((run step s [publish, .pollCalls]).calls.drop s.calls.length) :=
  unfed_without_reader 1 [] [] [] _ _ (by decide)

end AirQuality.Mqtt
