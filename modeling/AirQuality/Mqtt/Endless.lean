import AirQuality.Mqtt.Draining

/-!
# How the payload loop ends

A retry puts the loop's count ahead of what is left, for good: the end of the payload is then passed over, and only an
error of the library ends the loop. Without one the handler does not return, and neither does `mqtt_input`.
-/

namespace AirQuality.Mqtt
open Foundation

/-- Some read fails with another error than `-EAGAIN`. -/
def Incoming.Failed (incoming : Incoming) : Prop := ∃ n errno, incoming.reads n = .error errno

/-- How far the loop's count is ahead of what is left. -/
def Incoming.excess (incoming : Incoming) (n : Nat) (d : Drain) : Int := d.len - (incoming.rest n).length

/-- One pass: it ends the loop with an error, or it keeps the excess, or a retry adds to it. -/
theorem Incoming.pass {incoming : Incoming} {n : Nat} {d : Drain} (state : incoming.loop n = .going d) :
    (∃ errno, incoming.reads n = .error errno ∧ incoming.loop (n + 1) = .ended d (some errno)) ∨
      ∃ d' : Drain, incoming.loop (n + 1) = d'.enter ∧
        incoming.excess (n + 1) d' = incoming.excess n d + if incoming.reads n = .again then 11 else 0 := by
  have answer := incoming.answers n d state
  have rest : incoming.rest (n + 1) = (incoming.rest n).drop (incoming.reads n).taken := rfl
  rw [incoming.loop_succ, state]
  unfold Incoming.excess
  rw [rest]
  cases read : incoming.reads n with
  | again =>
    refine Or.inr ⟨d.terminate Errno.eagain.code, rfl, ?_⟩
    simp [ReadResult.taken, Drain.terminate, Drain.put, Errno.eagain]
    omega
  | error errno => exact Or.inl ⟨errno, rfl, rfl⟩
  | chunk bytes =>
    have within : bytes.length ≤ requestedLength d.len ∧ bytes.length ≤ (incoming.rest n).length := by
      rw [read] at answer
      exact answer.within
    refine Or.inr ⟨(d.store 0 bytes).terminate bytes.length, pass_chunk within.1, ?_⟩
    have len : ((d.store 0 bytes).terminate bytes.length).len = d.len - bytes.length :=
      congrArg (· - (bytes.length : Int)) (store_len d 0 bytes)
    simp only [len, ReadResult.taken, List.length_drop, reduceCtorEq, if_false]
    omega

theorem enter_going {d e : Drain} (state : d.enter = .going e) : e = d := by
  unfold Drain.enter at state
  split at state
  · cases state
  · cases state
    rfl

theorem Incoming.enter_ahead {incoming : Incoming} {n : Nat} {d : Drain} (ahead : 0 < incoming.excess n d) :
    d.enter = .going d := by
  unfold Incoming.excess at ahead
  unfold Drain.enter
  rw [if_neg]
  omega

theorem Incoming.excess_nonneg {incoming : Incoming} {n : Nat} {d : Drain} (state : incoming.loop n = .going d) :
    0 ≤ incoming.excess n d := by
  induction n generalizing d with
  | zero =>
    rw [enter_going state]
    simp [Incoming.excess, Drain.start, left]
  | succ n ih =>
    cases before : incoming.loop n with
    | ended e failure =>
      rw [incoming.stays before 1] at state
      cases state
    | going e =>
      have ahead := ih before
      rcases Incoming.pass before with ⟨errno, _, ended⟩ | ⟨d', entered, excess⟩
      · rw [ended] at state
        cases state
      · rw [entered] at state
        rw [enter_going state, excess]
        split <;> omega

theorem Incoming.finished {incoming : Incoming} {n : Nat} {d : Drain} (state : incoming.loop n = .ended d none) :
    incoming.rest n = [] := by
  induction n generalizing d with
  | zero =>
    have empty : (incoming.payload.length : Int) = 0 := (enter_ended state).1
    show incoming.payload = []
    exact List.eq_nil_of_length_eq_zero (by omega)
  | succ n ih =>
    cases before : incoming.loop n with
    | ended e failure =>
      rw [incoming.stays before 1] at state
      cases state
      exact left_over (ih before) 1
    | going e =>
      have ahead := Incoming.excess_nonneg before
      rcases Incoming.pass before with ⟨errno, _, ended⟩ | ⟨d', entered, excess⟩
      · rw [ended] at state
        cases state
      · rw [entered] at state
        have zero := (enter_ended state).1
        have kept : 0 ≤ incoming.excess (n + 1) d' := by
          rw [excess]
          split <;> omega
        unfold Incoming.excess at kept
        exact List.eq_nil_of_length_eq_zero (by omega)

/-- After a retry the count never meets the end of the payload: only another error ends the loop. -/
theorem Incoming.after_retry {incoming : Incoming} {k : Nat} {d : Drain} (state : incoming.loop k = .going d)
    (retried : incoming.reads k = .again) (more : Nat) :
    (∃ e, incoming.loop (k + 1 + more) = .going e ∧ 0 < incoming.excess (k + 1 + more) e) ∨
      ∃ e errno, incoming.loop (k + 1 + more) = .ended e (some errno) := by
  induction more with
  | zero =>
    have ahead := Incoming.excess_nonneg state
    rcases Incoming.pass state with ⟨errno, failed, _⟩ | ⟨e, entered, excess⟩
    · rw [retried] at failed
      cases failed
    · rw [if_pos retried] at excess
      have positive : 0 < incoming.excess (k + 1) e := by omega
      exact Or.inl ⟨e, entered.trans (Incoming.enter_ahead positive), positive⟩
  | succ more ih =>
    rcases ih with ⟨e, going, ahead⟩ | ⟨e, errno, ended⟩
    · rcases Incoming.pass going with ⟨errno, _, ended⟩ | ⟨f, entered, excess⟩
      · exact Or.inr ⟨e, errno, ended⟩
      · have positive : 0 < incoming.excess (k + 1 + more + 1) f := by
          rw [excess]
          split <;> omega
        exact Or.inl ⟨f, entered.trans (Incoming.enter_ahead positive), positive⟩
    · exact Or.inr ⟨e, errno, incoming.stays ended 1⟩

theorem Incoming.clean_of_ended {incoming : Incoming} {n : Nat} {d : Drain}
    (ended : incoming.loop n = .ended d none) : ¬ incoming.Retried := by
  intro ends
  obtain ⟨k, read, remains, unfailed⟩ := ends
  cases state : incoming.loop k with
  | going e =>
    have later : incoming.loop (k + 1 + n) = .ended d none := by
      rw [Nat.add_comm]
      exact incoming.stays ended (k + 1)
    rcases Incoming.after_retry state read n with ⟨f, going, _⟩ | ⟨f, errno, failed⟩
    · rw [going] at later
      cases later
    · rw [failed] at later
      cases later
  | ended e failure =>
    cases failure with
    | none => exact remains (Incoming.finished state)
    | some errno =>
      obtain ⟨j, below, failed⟩ := Incoming.failed_read state
      exact unfailed j below errno failed

/-- The loop runs forever exactly if it is made to retry and no read fails otherwise. -/
theorem Incoming.endless_iff (incoming : Incoming) :
    (∀ n d failure, incoming.loop n ≠ .ended d failure) ↔ incoming.Retried ∧ ¬ incoming.Failed := by
  constructor
  · intro endless
    refine ⟨?_, ?_⟩
    · by_contra clean
      obtain ⟨n, d, failure, ended⟩ := Incoming.ends clean
      exact endless n d failure ended
    · intro ends
      obtain ⟨n, errno, read⟩ := ends
      cases state : incoming.loop n with
      | ended d failure => exact endless n d failure state
      | going d =>
        refine endless (n + 1) d (some errno) ?_
        rw [incoming.loop_succ, state, read]
        rfl
  · rintro ⟨retried, clean⟩ n d failure ended
    cases failure with
    | none => exact Incoming.clean_of_ended ended retried
    | some errno =>
      obtain ⟨k, _, read⟩ := Incoming.failed_read ended
      exact clean ⟨k, errno, read⟩

/-- The event, as a handler has taken it that returns: with the reads up to the loop's end. -/
def Incoming.message (incoming : Incoming) (topic : Text) {n : Nat} {d : Drain} {failure : Option Errno}
    (ended : incoming.loop n = .ended d failure) : Publish where
  topic
  payloadLen := incoming.payload.length
  reads := (List.range n).map incoming.reads
  finished := congrArg Loop.finished ((drain_loopAt _ _ _).trans ended)

end AirQuality.Mqtt
