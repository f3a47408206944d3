import AirQuality.Mqtt.Consistency

/-!
# The pause after an abort

`try_to_connect` means to wait for five seconds after it has aborted an attempt. The abort closes the
transport, which empties the poll set, and on an empty set `wait` returns at once.
-/

namespace AirQuality.Mqtt
open Foundation

def Call.Dials (call : Call) : Prop := ∃ broker client result, call = .mqttConnect broker client result

def Call.Pauses (call : Call) : Prop := ∃ fd transport, call = .zsockPoll fd mqttAbortTimeoutMs transport

/-- Between an abort and a connect after it there is a pause. -/
def Spaced (calls : List Call) : Prop :=
  ∀ before between dial after, calls = before ++ .mqttAbort :: (between ++ dial :: after) → dial.Dials →
    ∃ call ∈ between, call.Pauses

/-- The attempt opens a transport and waits on it without an error, and is not acknowledged. -/
structure Attempt.Refused (attempt : Attempt) : Prop where
  opens : ∃ socket accepted, attempt.connect = .opened socket accepted
  waits : 0 ≤ attempt.poll.code
  unacknowledged : ¬ attempt.input.Acknowledges

def Attempt.Fails (attempt : Attempt) : Prop := ∃ errno, attempt.connect = .failed errno

/-- Of the attempts made with `retries` of them to go, none from `last` on is refused: one is made when
all before it fail to open a transport. -/
def NoneRefused (attempt : Nat → Attempt) (last retries : Nat) : Prop :=
  ∀ k, last ≤ k → k < retries → (∀ j, k < j → j < retries → (attempt j).Fails) → ¬ (attempt k).Refused

/-- The size of the poll set at each wait after an abort; a wait does not change it. -/
def abortWaits (attempt : Nat → Attempt) : Nat → State → List Int
  | 0, _ => []
  | retries + 1, s =>
    match connectRound s (attempt retries) with
    | (some _, _) => []
    | (none, t) =>
      match (attempt retries).connect with
      | .opened _ _ => t.nfds :: abortWaits attempt retries t
      | .failed _ => abortWaits attempt retries t

theorem spaced_cons {call : Call} (other : call ≠ .mqttAbort) (calls : List Call) :
    Spaced (call :: calls) ↔ Spaced calls := by
  constructor
  · rintro spaced before between dial after rfl
    exact spaced (call :: before) between dial after rfl
  · intro spaced before between dial after same
    cases before with
    | nil => exact absurd (List.cons.inj same).1 other
    | cons first before => exact spaced before between dial after (List.cons.inj same).2

theorem spaced_append {first : List Call} (other : ∀ call ∈ first, call ≠ .mqttAbort) (calls : List Call) :
    Spaced (first ++ calls) ↔ Spaced calls := by
  induction first with
  | nil => rfl
  | cons call rest ih =>
    rw [List.cons_append, spaced_cons (other call List.mem_cons_self)]
    exact ih fun later present => other later (List.mem_cons_of_mem _ present)

theorem spaced_of_no_dial {calls : List Call} (undialled : ∀ call ∈ calls, ¬ call.Dials) : Spaced calls := by
  rintro before between dial after rfl dials
  exact absurd dials (undialled dial (by simp))

theorem Call.Plain.not_dials {call : Call} (plain : call.Plain) : ¬ call.Dials := by
  rintro ⟨broker, client, result, rfl⟩
  exact plain

theorem Call.Plain.not_pauses {call : Call} (plain : call.Plain) : ¬ call.Pauses := by
  rintro ⟨fd, transport, rfl⟩
  exact plain

theorem dialCalls_no_abort (s : State) (attempt : Attempt) : ∀ call ∈ dialCalls s attempt, call ≠ .mqttAbort := by
  unfold dialCalls
  cases attempt.connect <;> simp

/-! ### From one attempt to a run -/

theorem noneRefused_succ (attempt : Nat → Attempt) (last retries : Nat) :
    NoneRefused attempt last (retries + 1) ↔
      (last ≤ retries → ¬ (attempt retries).Refused) ∧
        ((attempt retries).Fails → NoneRefused attempt last retries) := by
  constructor
  · intro clear
    refine ⟨fun within => clear retries within (Nat.lt_succ_self _) fun j above below => by omega, ?_⟩
    intro fails k within below earlier
    refine clear k within (Nat.lt_succ_of_lt below) fun j above below' => ?_
    rcases Nat.lt_succ_iff_lt_or_eq.mp below' with lower | rfl
    · exact earlier j above lower
    · exact fails
  · intro both k within below earlier
    obtain ⟨first, later⟩ := both
    rcases Nat.lt_succ_iff_lt_or_eq.mp below with lower | rfl
    · refine later (earlier retries lower (Nat.lt_succ_self _)) k within lower fun j above below' => ?_
      exact earlier j above (Nat.lt_succ_of_lt below')
    · exact first within

theorem refused_not_fails {attempt : Attempt} (refused : attempt.Refused) : ¬ attempt.Fails := by
  intro fails
  obtain ⟨errno, failed⟩ := fails
  obtain ⟨socket, accepted, opened⟩ := refused.opens
  rw [failed] at opened
  cases opened

/-- What a round comes to: it ends the call, it opens no transport, or it aborts the one it opened. -/
inductive RoundEnd (s : State) (attempt : Attempt) : Option Int × State → Prop where
  | ends {rc : Int} {t : State} {more : List Call} (unrefused : ¬ attempt.Refused) (opened : ¬ attempt.Fails)
      (log : t.calls = s.calls ++ dialCalls s attempt ++ more) (plain : ∀ call ∈ more, call.Plain) :
      RoundEnd s attempt (some rc, t)
  | fails {t : State} (fails : attempt.Fails) (idle : Idle t) (log : t.calls = s.calls ++ dialCalls s attempt) :
      RoundEnd s attempt (none, t)
  | refused {t : State} (refused : attempt.Refused) (idle : Idle t)
      (log : ∃ before after, t.calls = s.calls ++ dialCalls s attempt ++ (before ++ .mqttAbort :: after) ∧
        ∀ call ∈ before ++ .mqttAbort :: after, call.Plain) : RoundEnd s attempt (none, t)

theorem mqttAbort_log (s : State) :
    ∃ after, (mqttAbort s).calls = s.calls ++ .mqttAbort :: after ∧ ∀ call ∈ after, call.Plain := by
  obtain ⟨after, appended, plain⟩ := (closeTransport_received (s.record .mqttAbort)).log
  refine ⟨after, ?_, plain⟩
  show (closeTransport (s.record .mqttAbort)).calls = _
  rw [appended]
  exact List.append_assoc _ _ _

theorem wait_nfds (s : State) (timeout : Int) (poll : PollResult) : (wait s timeout poll).2.nfds = s.nfds := by
  unfold wait
  split <;> rfl

theorem wait_empty {s : State} (empty : s.nfds = 0) (timeout : Int) (poll : PollResult) :
    wait s timeout poll = (Errno.einval.code, s) := by
  simp [wait, empty]

theorem connectRound_end {s : State} (idle : Idle s) (attempt : Attempt) :
    RoundEnd s attempt (connectRound s attempt) := by
  obtain ⟨_, _, ⟨more, log, plain⟩, _, outcome⟩ := connectRound_spec idle attempt
  cases connect : attempt.connect with
  | failed errno =>
    have round := connectRound_failed (s := s) connect
    rw [round] at log outcome ⊢
    rcases outcome with ⟨impossible, _⟩ | ⟨idle', _⟩
    · cases impossible
    · refine .fails ⟨errno, connect⟩ idle' ?_
      simp [dialCalls, connect, clientInit, brokerInit, State.record]
  | opened socket accepted =>
    have opens : ∃ socket accepted, attempt.connect = .opened socket accepted := ⟨socket, accepted, connect⟩
    have opened : ¬ attempt.Fails := by
      intro fails
      obtain ⟨errno, failed⟩ := fails
      rw [connect] at failed
      cases failed
    have round := connectRound_opened (s := s) connect
    obtain ⟨_, logged⟩ := awaiting_spec idle connect
    generalize connectRound s attempt = result at *
    obtain ⟨rc, t⟩ := result
    rcases outcome with ⟨ended, connects, _⟩ | ⟨idle', _, _, misses, ⟨ended, keeps⟩ | ⟨rc, _, ended, gives⟩⟩
    · obtain rfl : rc = some 0 := ended
      exact .ends (fun refused => refused.unacknowledged connects.acknowledges) opened log plain
    · obtain rfl : rc = none := ended
      have waits : ¬ attempt.poll.code < 0 := fun fails => keeps ⟨opens, fails⟩
      have refused : attempt.Refused :=
        ⟨opens, Int.not_lt.mp waits, fun acknowledges => misses ⟨opens, Int.not_lt.mp waits, acknowledges⟩⟩
      rw [if_neg waits] at round
      dsimp only at round
      split at round
      · cases round
      · obtain ⟨before, read, plainBefore⟩ := (mqttInput_received (awaiting s attempt) attempt.input).log
        obtain ⟨after, aborted, plainAfter⟩ := mqttAbort_log (mqttInput (awaiting s attempt) attempt.input).2
        obtain rfl := (Prod.mk.inj round).2
        have empty := idle'.empty
        dsimp only at empty idle' ⊢
        rw [wait_nfds] at empty
        rw [wait_empty empty] at idle' ⊢
        refine .refused refused idle' ⟨before, after, ?_, ?_⟩
        · rw [aborted, read, logged]
          simp only [List.append_assoc]
        · rw [List.forall_mem_append, List.forall_mem_cons]
          exact ⟨plainBefore, trivial, plainAfter⟩
    · obtain rfl : _ = some rc := ended
      exact .ends (fun refused => absurd refused.waits (Int.not_le.mpr gives.fails)) opened log plain

/-- After an abort the next attempt dials without a pause. -/
theorem not_spaced_of_abort {before after : List Call} (plain : ∀ call ∈ before ++ .mqttAbort :: after, call.Plain)
    (t : State) (attempt : Attempt) (rest : List Call) :
    ¬ Spaced (before ++ .mqttAbort :: after ++ (dialCalls t attempt ++ rest)) := by
  intro spaced
  have paused := spaced before (after ++ [.clientInit t.client.transport, .kWorkInitDelayable t.keepalivePending])
    (.mqttConnect t.haddr (configuredClient t) attempt.connect) _ (by simp [dialCalls]; rfl) ⟨_, _, _, rfl⟩
  obtain ⟨call, present, pauses⟩ := paused
  rcases List.mem_append.mp present with late | early
  · exact (plain call (by simp [late])).not_pauses pauses
  · obtain ⟨fd, transport, rfl⟩ := pauses
    simp at early

theorem connectLoop_spaced (attempt : Nat → Attempt) (retries : Nat) {s : State} (idle : Idle s) :
    ∃ made, (connectLoop attempt retries s).2.calls = s.calls ++ made ∧
      (Spaced made ↔ NoneRefused attempt 1 retries) ∧
      ∀ left, retries = left + 1 → ∃ rest, made = dialCalls s (attempt left) ++ rest := by
  induction retries generalizing s with
  | zero =>
    refine ⟨[], (List.append_nil _).symm, iff_of_true ?_ ?_, by simp⟩
    · exact spaced_of_no_dial (by simp)
    · exact fun k _ below => absurd below (Nat.not_lt_zero k)
  | succ retries ih =>
    have dialled := dialCalls_no_abort s (attempt retries)
    have round := connectRound_end idle (attempt retries)
    rw [noneRefused_succ]
    unfold connectLoop
    generalize connectRound s (attempt retries) = result at round
    cases round with
    | @ends rc t more unrefused opened log plain =>
      refine ⟨dialCalls s (attempt retries) ++ more, ?_, ?_, ?_⟩
      · exact log.trans (List.append_assoc _ _ _)
      · rw [spaced_append dialled]
        refine iff_of_true (spaced_of_no_dial fun call present => (plain call present).not_dials) ?_
        exact ⟨fun _ => unrefused, fun fails => absurd fails opened⟩
      · rintro left ⟨⟩
        exact ⟨more, rfl⟩
    | @fails t fails idle' log =>
      obtain ⟨made, appended, spaced, _⟩ := ih idle'
      refine ⟨dialCalls s (attempt retries) ++ made, ?_, ?_, ?_⟩
      · dsimp only
        rw [appended, log, List.append_assoc]
      · rw [spaced_append dialled, spaced]
        constructor
        · exact fun clear => ⟨fun _ refused => refused_not_fails refused fails, fun _ => clear⟩
        · exact fun both => both.2 fails
      · rintro left ⟨⟩
        exact ⟨made, rfl⟩
    | @refused t refused idle' log =>
      obtain ⟨before, after, log, plain⟩ := log
      obtain ⟨made, appended, spaced, next⟩ := ih idle'
      refine ⟨dialCalls s (attempt retries) ++ (before ++ .mqttAbort :: after ++ made), ?_, ?_, ?_⟩
      · dsimp only
        rw [appended, log]
        simp only [List.append_assoc]
      · rw [spaced_append dialled]
        cases retries with
        | zero =>
          have nothing : made = [] := List.self_eq_append_right.mp appended
          rw [nothing, List.append_nil]
          refine iff_of_true (spaced_of_no_dial fun call present => (plain call present).not_dials) ⟨?_, ?_⟩
          · exact fun impossible => absurd impossible (by decide)
          · exact fun fails => absurd fails (refused_not_fails refused)
        | succ left =>
          obtain ⟨rest, rfl⟩ := next left rfl
          exact iff_of_false (not_spaced_of_abort plain t (attempt left) rest)
            fun both => both.1 (Nat.succ_le_succ (Nat.zero_le left)) refused
      · rintro left ⟨⟩
        exact ⟨_, rfl⟩

theorem abortWaits_positive (attempt : Nat → Attempt) (retries : Nat) {s : State} (idle : Idle s) :
    (∀ fds ∈ abortWaits attempt retries s, 0 < fds) ↔ NoneRefused attempt 0 retries := by
  induction retries generalizing s with
  | zero => exact iff_of_true (by simp [abortWaits]) fun k _ below => absurd below (Nat.not_lt_zero k)
  | succ retries ih =>
    have round := connectRound_end idle (attempt retries)
    rw [noneRefused_succ]
    unfold abortWaits
    generalize connectRound s (attempt retries) = result at round
    cases round with
    | ends unrefused opened => exact iff_of_true (by simp) ⟨fun _ => unrefused, fun fails => absurd fails opened⟩
    | fails fails idle' =>
      obtain ⟨errno, failed⟩ := fails
      simp only [failed]
      rw [ih idle']
      constructor
      · exact fun clear => ⟨fun _ refused => refused_not_fails refused ⟨errno, failed⟩, fun _ => clear⟩
      · exact fun both => both.2 ⟨errno, failed⟩
    | refused refused idle' =>
      obtain ⟨socket, accepted, opened⟩ := refused.opens
      simp only [opened]
      rw [List.forall_mem_cons, idle'.empty]
      exact iff_of_false (fun both => absurd both.1 (Int.lt_irrefl 0)) fun both => both.1 (Nat.zero_le _) refused

/-- What `try_to_connect` logs. -/
def dialled (s : State) (attempt : Nat → Attempt) : List Call := (tryToConnect s attempt).2.calls.drop s.calls.length

/-- After a lookup while disconnected, each abort is followed by a pause before the next connect exactly
if no attempt but the last is refused, and waits on a poll set that is not empty exactly if none is. -/
theorem aborts_spaced_iff (channelId : Int) (devId lastWillTopic lastWillMessage : Text) (steps : List Step)
    (env : ConnectEnv)
    (disconnected : (run step (booted channelId devId lastWillTopic lastWillMessage) steps).mqttConnected = false) :
    let s := (getMqttBrokerAddrinfo (run step (booted channelId devId lastWillTopic lastWillMessage) steps)
      env.lookup).2
    (Spaced (dialled s env.attempt) ↔ NoneRefused env.attempt 1 3) ∧
      ((∀ fds ∈ abortWaits env.attempt 3 s, 0 < fds) ↔ NoneRefused env.attempt 0 3) := by
  intro s
  have consistent := run_consistent (booted_consistent channelId devId lastWillTopic lastWillMessage) steps
  obtain ⟨quiet, _⟩ := lookupLoop_quiet env.lookup 3 Errno.einval.code
    (run step (booted channelId devId lastWillTopic lastWillMessage) steps)
  have idle : Idle s := quiet.idle (consistent.idle disconnected)
  refine ⟨?_, abortWaits_positive env.attempt 3 idle⟩
  obtain ⟨made, appended, spaced, _⟩ := connectLoop_spaced env.attempt 3 idle
  unfold dialled tryToConnect
  rw [appended, List.drop_left]
  exact spaced

theorem aborts_spaced_at_once :
    let s := (getMqttBrokerAddrinfo (booted 1 [] [] []) (answering 7).lookup).2
    (Spaced (dialled s (answering 7).attempt) ↔ NoneRefused (answering 7).attempt 1 3) ∧
      ((∀ fds ∈ abortWaits (answering 7).attempt 3 s, 0 < fds) ↔ NoneRefused (answering 7).attempt 0 3) :=
  aborts_spaced_iff 1 [] [] [] [] (answering 7) rfl

/-- A server that accepts the transport and stays silent is dialled again right after the abort. -/
theorem aborts_spaced_fails :
    let s := (getMqttBrokerAddrinfo (booted 1 [] [] []) (answering 7).lookup).2
    let silent : Nat → Attempt := fun _ =>
      { connect := .opened 7 true, poll := .ready 0, input := {}, abortPoll := .ready 0 }
    ¬ Spaced (dialled s silent) ∧ ¬ ∀ fds ∈ abortWaits silent 3 s, 0 < fds := by
  intro s silent
  refine ⟨fun spaced => ?_, by decide⟩
  have paused := spaced ((dialled s silent).take 5)
    [.transportClosed 7, .clientInit none, .kWorkInitDelayable false]
    (.mqttConnect (some 1) (configuredClient s) (.opened 7 true)) ((dialled s silent).drop 10) (by decide)
    ⟨_, _, _, rfl⟩
  obtain ⟨call, present, fd, transport, rfl⟩ := paused
  simp at present

end AirQuality.Mqtt
