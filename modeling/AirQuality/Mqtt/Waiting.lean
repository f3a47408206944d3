import AirQuality.Mqtt.Script

/-!
# How long a call waits

`main` calls the interface from its only thread, and the main watchdog is fed by that thread. What a call asks to
wait for, in the polls of `try_to_connect` and the pauses between lookups, is bounded in every state of the client.
-/

namespace AirQuality.Mqtt
open Foundation

/-- `k_sleep` after a lookup that failed. -/
def lookupPauseMs : Nat := 200

/-- For how many milliseconds a call waits at most; a wait without an end is counted apart. -/
def Call.pause : Call → Nat
  | .zsockPoll _ timeout _ => timeout.toNat
  | .getaddrinfo (.failed _ _) => lookupPauseMs
  | _ => 0

def pauses : List Call → Nat
  | [] => 0
  | call :: rest => call.pause + pauses rest

theorem pauses_append (before after : List Call) : pauses (before ++ after) = pauses before + pauses after := by
  induction before with
  | nil => simp [pauses]
  | cons call rest ih =>
    rw [List.cons_append, pauses, pauses, ih]
    omega

/-- Getting from `s` to `t` takes `most` milliseconds of waiting. -/
def Waits (most : Nat) (s t : State) : Prop := ∃ more, t.calls = s.calls ++ more ∧ pauses more ≤ most

theorem waits_refl (s : State) : Waits 0 s s := ⟨[], by simp, by simp [pauses]⟩

theorem Waits.trans {most rest : Nat} {s t u : State} (first : Waits most s t) (second : Waits rest t u) :
    Waits (most + rest) s u := by
  obtain ⟨before, grown, short⟩ := first
  obtain ⟨after, grown', short'⟩ := second
  refine ⟨before ++ after, by rw [grown', grown, List.append_assoc], ?_⟩
  rw [pauses_append]
  omega

theorem Waits.mono {most rest : Nat} (less : most ≤ rest) {s t : State} (waits : Waits most s t) : Waits rest s t := by
  obtain ⟨more, grown, short⟩ := waits
  exact ⟨more, grown, short.trans less⟩

theorem pauses_zero {calls : List Call} (prompt : ∀ call ∈ calls, call.pause = 0) : pauses calls = 0 := by
  induction calls with
  | nil => rfl
  | cons call rest ih =>
    rw [List.forall_mem_cons] at prompt
    rw [pauses, prompt.1, ih prompt.2]

theorem waits_extends {s t : State} (extended : Extends (fun call => call.pause = 0) s t) : Waits 0 s t := by
  obtain ⟨more, grown, prompt⟩ := extended
  exact ⟨more, grown, Nat.le_of_eq (pauses_zero prompt)⟩

theorem Call.Plain.prompt {call : Call} (plain : call.Plain) : call.pause = 0 := by
  cases call with
  | zsockPoll | getaddrinfo => exact plain.elim
  | _ => rfl

theorem afterWrite_waits {s : State} {call : Call} (prompt : call.pause = 0) (result : WriteResult) :
    Waits 0 s (afterWrite (s.record call) result) :=
  waits_extends (afterWrite_extends prompt (fun _ plain => plain.prompt) result)

theorem connectRound_waits {s : State} (idle : Idle s) (attempt : Attempt) :
    Waits 1000 s (connectRound s attempt).2 := by
  obtain ⟨more, grown, plain⟩ := (connectRound_spec idle attempt).log
  refine ⟨dialCalls s attempt ++ more, by rw [grown, List.append_assoc], ?_⟩
  have prompt := pauses_zero fun call member => (plain call member).prompt
  have dials : pauses (dialCalls s attempt) ≤ 1000 := by
    unfold dialCalls
    cases attempt.connect <;> simp [pauses, Call.pause, mqttConnectTimeoutMs]
  rw [pauses_append]
  omega

theorem connectLoop_waits (attempt : Nat → Attempt) (retries : Nat) {s : State} (idle : Idle s) :
    Waits (1000 * retries) s (connectLoop attempt retries s).2 := by
  induction retries generalizing s with
  | zero => exact waits_refl s
  | succ retries ih =>
    have round := connectRound_waits idle (attempt retries)
    have outcome := (connectRound_spec idle (attempt retries)).outcome
    unfold connectLoop
    generalize connectRound s (attempt retries) = result at *
    obtain ⟨rc, t⟩ := result
    cases rc with
    | some rc => exact round.mono (by omega)
    | none =>
      rcases outcome with ⟨impossible, _⟩ | ⟨idle', _⟩
      · cases impossible
      · exact (round.trans (ih idle')).mono (by omega)

/-- A lookup that succeeds is not followed by a pause. -/
theorem lookupLoop_waits (lookup : Nat → LookupResult) (retries : Nat) (rc : Int) (s : State) :
    Waits (lookupPauseMs * retries) s (lookupLoop lookup retries rc s).2 ∧
      (Resolves lookup retries → Waits (lookupPauseMs * (retries - 1)) s (lookupLoop lookup retries rc s).2) := by
  induction retries generalizing rc s with
  | zero => exact ⟨waits_refl s, False.elim⟩
  | succ retries ih =>
    unfold lookupLoop Resolves
    cases found : lookup retries with
    | resolved address =>
      have asked : Waits 0 s { s.record (.getaddrinfo (.resolved address)) with haddr := some address } :=
        waits_extends ⟨[.getaddrinfo (.resolved address)], rfl, by simp [Call.pause]⟩
      exact ⟨asked.mono (Nat.zero_le _), fun _ => asked.mono (Nat.zero_le _)⟩
    | failed code nonzero =>
      have asked : Waits lookupPauseMs s (s.record (.getaddrinfo (.failed code nonzero))) :=
        ⟨_, rfl, by simp [pauses, Call.pause]⟩
      obtain ⟨always, sooner⟩ := ih code (s.record (.getaddrinfo (.failed code nonzero)))
      refine ⟨(asked.trans always).mono (by rw [Nat.mul_succ]; omega), fun resolves => ?_⟩
      have later : Resolves lookup retries := by
        refine resolves.resolve_left ?_
        rintro ⟨address, impossible⟩
        cases impossible
      cases retries with
      | zero => exact later.elim
      | succ left => exact (asked.trans (sooner later)).mono (by simp [Nat.mul_succ]; omega)

theorem ensureConnected_waits {s : State} (consistent : Consistent s) (env : ConnectEnv) :
    Waits 3400 s (ensureConnected s env).2 := by
  unfold ensureConnected
  cases connected : s.mqttConnected with
  | true => exact (waits_refl s).mono (Nat.zero_le _)
  | false =>
    obtain ⟨always, sooner⟩ := lookupLoop_waits env.lookup 3 Errno.einval.code s
    obtain ⟨quiet, _⟩ := lookupLoop_quiet env.lookup 3 Errno.einval.code s
    simp only [Bool.false_eq_true, if_false]
    rcases connectToServer_cases s env with ⟨_, _, same⟩ | ⟨resolves, same⟩
    · rw [same]
      exact always.mono (by decide)
    · rw [same]
      have dialled := connectLoop_waits env.attempt 3 (quiet.idle (consistent.idle connected))
      exact ((sooner resolves).trans dialled).mono (by decide)

theorem mqttPublishToTopic_waits {s : State} (consistent : Consistent s) (topic payload : Text) (retain : Bool)
    (env : PublishEnv) : Waits 3400 s (mqttPublishToTopic s topic payload retain env).2 := by
  apply mqttPublishToTopic_invariant _ topic payload retain env (ensureConnected_waits consistent _)
  intro t before param result
  exact before.trans (afterWrite_waits rfl result)

theorem mqttSubscribeToTopic_waits {s : State} (consistent : Consistent s) (subs : List Subscription)
    (env : SubscribeEnv) : Waits 3400 s (mqttSubscribeToTopic s subs env).2 := by
  apply mqttSubscribeToTopic_invariant _ _ subs env (ensureConnected_waits consistent _)
  · intro t before topic result
    exact before.trans (afterWrite_waits rfl result)
  · intro t subs before
    exact before

/-- The calls that a step adds to the log. -/
def added (s : State) (action : Step) : List Call := (step s action).calls.drop s.calls.length

/-- The calls wait for a bounded time: 3.4 seconds, none of it without an end. -/
def Prompt (calls : List Call) : Prop :=
  pauses calls ≤ 3400 ∧ ∀ fd transport, .zsockPoll fd sysForeverMs transport ∉ calls

theorem Script.endless {channelId : Int} {calls : List Call} (script : Script channelId False calls) (fd : Int)
    (transport : Option Nat) : .zsockPoll fd sysForeverMs transport ∉ calls := by
  induction script with
  | nil => exact List.not_mem_nil
  | bare call bare _ ih =>
    intro member
    rcases List.mem_append.mp member with before | last
    · exact ih before
    · rw [List.mem_singleton] at last
      rw [← last] at bare
      exact bare rfl
  | watch _ _ reads => exact reads.elim
  | read _ reads => exact reads.elim
  | answer broker client socket accepted polled result _ ih =>
    intro member
    rcases List.mem_append.mp member with before | last
    · exact ih before
    · unfold answerCalls fed at last
      split at last <;> simp [mqttConnectTimeoutMs, sysForeverMs] at last

theorem prompt_added {s : State} {action : Step} (waits : Waits 3400 s (step s action))
    (scripted : Scripted False s (step s action)) : Prompt (added s action) := by
  obtain ⟨more, grown, short⟩ := waits
  obtain ⟨_, more', grown', script⟩ := scripted
  obtain rfl : more' = more := List.append_cancel_left (grown'.symm.trans grown)
  unfold added
  rw [grown, List.drop_left]
  exact ⟨short, script.endless⟩

/-- Whatever state a run has left the client in and whatever the network answers, a publish and a subscribe wait for
3.4 seconds at most, and never without an end. -/
theorem interface_prompt (channelId : Int) (devId lastWillTopic lastWillMessage : Text) (steps : List Step) :
    let s := run step (booted channelId devId lastWillTopic lastWillMessage) steps
    (∀ topic payload retain env, Prompt (added s (.publish topic payload retain env))) ∧
      ∀ subs env, Prompt (added s (.subscribe subs env)) := by
  intro s
  have consistent : Consistent s :=
    run_consistent (booted_consistent channelId devId lastWillTopic lastWillMessage) steps
  constructor
  · intro topic payload retain env
    apply prompt_added (mqttPublishToTopic_waits consistent topic payload retain env)
    exact mqttPublishToTopic_scripted consistent topic payload retain env
  · intro subs env
    apply prompt_added (mqttSubscribeToTopic_waits consistent subs env)
    exact mqttSubscribeToTopic_scripted consistent subs env

end AirQuality.Mqtt
