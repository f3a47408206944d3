import AirQuality.Mqtt.Receive

/-!
# Reading the payload

The payload loop one read at a time, over an endless sequence of answers of
`mqtt_read_publish_payload`. The library reads what is left of the payload as it is asked to; the loop
takes `-EAGAIN` for a number of bytes.
-/

namespace AirQuality.Mqtt
open Foundation

def loopAt (payloadLen : Nat) (reads : Nat → ReadResult) : Nat → Loop
  | 0 => (Drain.start payloadLen).enter
  | n + 1 => (loopAt payloadLen reads n).next (reads n)

theorem drain_loopAt (payloadLen : Nat) (reads : Nat → ReadResult) (n : Nat) :
    drain payloadLen ((List.range n).map reads) = loopAt payloadLen reads n := by
  induction n with
  | zero => rfl
  | succ n ih =>
    unfold drain at ih ⊢
    rw [List.range_succ, List.map_append, List.foldl_append, ih]
    rfl

/-- The bytes an answer takes off the payload. -/
def ReadResult.taken : ReadResult → Nat
  | .chunk bytes => bytes.length
  | .again | .error _ => 0

/-- What is left of the payload before each read. -/
def left (payload : List UInt8) (reads : Nat → ReadResult) : Nat → List UInt8
  | 0 => payload
  | n + 1 => (left payload reads n).drop (reads n).taken

/-- The answers to a request for `requested` bytes with `rest` left. -/
inductive Answers (requested : Nat) (rest : List UInt8) : ReadResult → Prop where
  | again : Answers requested rest .again
  | error (errno : Errno) (other : errno ≠ Errno.eagain) : Answers requested rest (.error errno)
  | some (bytes : List UInt8) (nonempty : bytes ≠ []) (within : bytes.length ≤ requested)
      (next : bytes <+: rest) : Answers requested rest (.chunk bytes)
  | nothing (finished : rest = []) : Answers requested rest (.chunk [])

theorem Answers.within {requested : Nat} {rest bytes : List UInt8} (answer : Answers requested rest (.chunk bytes)) :
    bytes.length ≤ requested ∧ bytes.length ≤ rest.length := by
  cases answer with
  | some _ nonempty within next => exact ⟨within, next.length_le⟩
  | nothing finished => exact ⟨Nat.zero_le _, Nat.zero_le _⟩

/-- A payload and the answers the loop gets for it. Its length fits the `int` the loop counts with. -/
structure Incoming where
  payload : List UInt8
  reads : Nat → ReadResult
  bounded : payload.length < 2 ^ 31
  answers : ∀ n d, loopAt payload.length reads n = .going d →
    Answers (requestedLength d.len) (left payload reads n) (reads n)

abbrev Incoming.loop (incoming : Incoming) (n : Nat) : Loop := loopAt incoming.payload.length incoming.reads n

abbrev Incoming.rest (incoming : Incoming) (n : Nat) : List UInt8 := left incoming.payload incoming.reads n

/-- The library returns `-EAGAIN` with some of the payload left, and no read has failed before. -/
def Incoming.Retried (incoming : Incoming) : Prop :=
  ∃ n, incoming.reads n = .again ∧ incoming.rest n ≠ [] ∧ ∀ k < n, ∀ errno, incoming.reads k ≠ .error errno

theorem Incoming.loop_succ (incoming : Incoming) (n : Nat) :
    incoming.loop (n + 1) = (incoming.loop n).next (incoming.reads n) := rfl

theorem Incoming.stays {incoming : Incoming} {n : Nat} {d : Drain} {failure : Option Errno}
    (state : incoming.loop n = .ended d failure) (more : Nat) : incoming.loop (n + more) = .ended d failure := by
  induction more with
  | zero => exact state
  | succ more ih =>
    rw [← Nat.add_assoc, incoming.loop_succ, ih]
    rfl

theorem Incoming.unfailed {incoming : Incoming} {n : Nat} {d : Drain} (state : incoming.loop n = .going d) :
    ∀ k < n, ∀ errno, incoming.reads k ≠ .error errno := by
  intro k below errno failed
  obtain ⟨e, failure, ended⟩ : ∃ e failure, incoming.loop (k + 1) = .ended e failure := by
    cases earlier : incoming.loop k with
    | ended e failure => exact ⟨e, failure, incoming.stays earlier 1⟩
    | going e =>
      refine ⟨e, some errno, ?_⟩
      rw [incoming.loop_succ, earlier, failed]
      rfl
  have later := incoming.stays ended (n - (k + 1))
  rw [Nat.add_sub_cancel' below, state] at later
  cases later

theorem enter_ended {d e : Drain} {failure : Option Errno} (state : d.enter = .ended e failure) :
    d.len = 0 ∧ failure = none := by
  unfold Drain.enter at state
  split at state
  · rename_i finished
    cases state
    exact ⟨finished, rfl⟩
  · cases state

theorem Incoming.failed_read {incoming : Incoming} {n : Nat} {d : Drain} {errno : Errno}
    (state : incoming.loop n = .ended d (some errno)) : ∃ k < n, incoming.reads k = .error errno := by
  induction n generalizing d with
  | zero => exact absurd (enter_ended state).2 (Option.some_ne_none errno)
  | succ n ih =>
    cases before : incoming.loop n with
    | ended e failure =>
      rw [incoming.stays before 1] at state
      cases state
      obtain ⟨k, below, read⟩ := ih before
      exact ⟨k, Nat.lt_succ_of_lt below, read⟩
    | going e =>
      rw [incoming.loop_succ, before] at state
      refine ⟨n, Nat.lt_succ_self n, ?_⟩
      cases read : incoming.reads n with
      | error other =>
        rw [read] at state
        cases state
        rfl
      | again | chunk =>
        rw [read] at state
        exact absurd (enter_ended state).2 (Option.some_ne_none errno)

theorem store_len (d : Drain) (index : Int) (bytes : List UInt8) : (d.store index bytes).len = d.len := by
  induction bytes generalizing d index with
  | nil => rfl
  | cons byte rest ih => exact ih _ _

theorem store_written {d : Drain} {index : Int} {bytes : List UInt8} {i : Int}
    (written : i ∈ (d.store index bytes).written) : i ∈ d.written ∨ (index ≤ i ∧ i < index + bytes.length) := by
  induction bytes generalizing d index with
  | nil => exact Or.inl written
  | cons byte rest ih =>
    rw [List.length_cons]
    rcases ih written with before | ⟨above, below⟩
    · rcases List.mem_append.mp before with earlier | now
      · exact Or.inl earlier
      · rw [List.mem_singleton] at now
        exact Or.inr (by omega)
    · exact Or.inr (by omega)

theorem requestedLength_le (len : Int) (positive : 0 ≤ len) (bounded : len < 2 ^ 32) :
    requestedLength len ≤ 32 ∧ (requestedLength len : Int) ≤ len := by
  unfold requestedLength geSize dataSize
  split
  · rename_i long
    simp only [decide_eq_true_eq] at long
    omega
  · rename_i short
    simp only [decide_eq_true_eq] at short
    omega

/-- Every index written so far lies in the buffer. -/
def Drain.Within (d : Drain) : Prop := ∀ i ∈ d.written, 0 ≤ i ∧ i ≤ 32

theorem within_chunk {d : Drain} (within : d.Within) {bytes : List UInt8} (short : bytes.length ≤ 32) :
    ((d.store 0 bytes).terminate bytes.length).Within := by
  intro i written
  rcases List.mem_append.mp written with stored | terminator
  · rcases store_written stored with before | ⟨above, below⟩
    · exact within i before
    · omega
  · rw [List.mem_singleton] at terminator
    omega

theorem pass_chunk {d : Drain} {bytes : List UInt8} (within : bytes.length ≤ requestedLength d.len) :
    d.pass (.chunk bytes) = ((d.store 0 bytes).terminate bytes.length).enter := by
  simp only [Drain.pass, List.take_of_length_le within]

theorem left_over {payload : List UInt8} {reads : Nat → ReadResult} {n : Nat} (finished : left payload reads n = [])
    (more : Nat) : left payload reads (n + more) = [] := by
  induction more with
  | zero => exact finished
  | succ more ih =>
    show (left payload reads (n + more)).drop _ = []
    rw [ih, List.drop_nil]

/-! ### A loop that never retries -/

/-- Before a read the loop knows how much is left, and each read has taken something. -/
structure Incoming.Reading (incoming : Incoming) (n : Nat) (d : Drain) : Prop where
  len : d.len = (incoming.rest n).length
  within : d.Within
  progress : (incoming.rest n).length + n ≤ incoming.payload.length

def Incoming.Sound (incoming : Incoming) (n : Nat) : Loop → Prop
  | .going d => d.len ≠ 0 ∧ incoming.Reading n d
  | .ended d failure => d.Within ∧ (failure = none → incoming.rest n = [])

theorem Incoming.Reading.enter {incoming : Incoming} {n : Nat} {d : Drain} (reading : incoming.Reading n d) :
    incoming.Sound n d.enter := by
  unfold Drain.enter
  split
  · rename_i finished
    refine ⟨reading.within, fun _ => List.eq_nil_of_length_eq_zero ?_⟩
    have len := reading.len
    omega
  · rename_i more
    exact ⟨more, reading⟩

/-- A read without retry ends the loop with an error, or takes the next bytes into the buffer. -/
theorem Incoming.clean_pass {incoming : Incoming} (clean : ¬ incoming.Retried) {n : Nat} {d : Drain}
    (state : incoming.loop n = .going d) (reading : incoming.Reading n d) (more : d.len ≠ 0) :
    (∃ errno, incoming.loop (n + 1) = .ended d (some errno)) ∨
      ∃ bytes, incoming.reads n = .chunk bytes ∧ bytes ≠ [] ∧ bytes.length ≤ requestedLength d.len ∧
        bytes <+: incoming.rest n ∧
        incoming.loop (n + 1) = ((d.store 0 bytes).terminate bytes.length).enter := by
  have answer := incoming.answers n d state
  have remains : incoming.rest n ≠ [] := by
    intro finished
    have len := reading.len
    rw [finished] at len
    exact more len
  rw [incoming.loop_succ, state]
  cases read : incoming.reads n with
  | again => exact absurd ⟨n, read, remains, Incoming.unfailed state⟩ clean
  | error errno => exact Or.inl ⟨errno, rfl⟩
  | chunk bytes =>
    rw [read] at answer
    cases answer with
    | some _ nonempty within taken => exact Or.inr ⟨bytes, rfl, nonempty, within, taken, pass_chunk within⟩
    | nothing finished => exact absurd finished remains

theorem Incoming.Reading.chunk {incoming : Incoming} {n : Nat} {d : Drain} (reading : incoming.Reading n d)
    {bytes : List UInt8} (read : incoming.reads n = .chunk bytes) (nonempty : bytes ≠ [])
    (within : bytes.length ≤ requestedLength d.len) (next : bytes <+: incoming.rest n) :
    incoming.Reading (n + 1) ((d.store 0 bytes).terminate bytes.length) := by
  have len := reading.len
  have progress := reading.progress
  have bounded := incoming.bounded
  have requested := (requestedLength_le d.len (by omega) (by omega)).1
  have positive := List.length_pos_iff.mpr nonempty
  have fewer : (incoming.rest (n + 1)).length = (incoming.rest n).length - bytes.length := by
    show ((incoming.rest n).drop (incoming.reads n).taken).length = _
    rw [read]
    exact List.length_drop
  have prefix_length := next.length_le
  refine ⟨?_, within_chunk reading.within (by omega), by omega⟩
  show (d.store 0 bytes).len - bytes.length = _
  rw [store_len]
  omega

theorem Incoming.sound {incoming : Incoming} (clean : ¬ incoming.Retried) (n : Nat) :
    incoming.Sound n (incoming.loop n) := by
  induction n with
  | zero =>
    have start : incoming.Reading 0 (Drain.start incoming.payload.length) :=
      ⟨rfl, fun i written => absurd written List.not_mem_nil, Nat.le_refl _⟩
    exact start.enter
  | succ n ih =>
    cases state : incoming.loop n with
    | ended d failure =>
      rw [state] at ih
      rw [incoming.stays state 1]
      exact ⟨ih.1, fun unfailed => left_over (ih.2 unfailed) 1⟩
    | going d =>
      rw [state] at ih
      obtain ⟨more, reading⟩ := ih
      rcases incoming.clean_pass clean state reading more with
        ⟨errno, ended⟩ | ⟨bytes, read, nonempty, within, taken, entered⟩
      · rw [ended]
        exact ⟨reading.within, fun unfailed => absurd unfailed (Option.some_ne_none errno)⟩
      · rw [entered]
        exact (reading.chunk read nonempty within taken).enter

/-! ### The loop -/

/-- What the loop owes: no index outside the buffer, an end, and without an error the whole payload read. -/
structure Incoming.Safe (incoming : Incoming) : Prop where
  indices : ∀ n, (incoming.loop n).drain.Within
  ends : ∃ n d failure, incoming.loop n = .ended d failure
  consumed : ∀ n d, incoming.loop n = .ended d none → incoming.rest n = []

theorem Incoming.ends {incoming : Incoming} (clean : ¬ incoming.Retried) :
    ∃ n d failure, incoming.loop n = .ended d failure := by
  refine ⟨incoming.payload.length, ?_⟩
  have sound := incoming.sound clean incoming.payload.length
  cases state : incoming.loop incoming.payload.length with
  | ended d failure => exact ⟨d, failure, rfl⟩
  | going d =>
    rw [state] at sound
    obtain ⟨more, reading⟩ := sound
    have len := reading.len
    have progress := reading.progress
    omega

/-- A retry that the loop makes writes in front of the buffer. -/
theorem Incoming.retry_outside {incoming : Incoming} {n : Nat} {d : Drain} (state : incoming.loop n = .going d)
    (read : incoming.reads n = .again) : Errno.eagain.code ∈ (incoming.loop (n + 1)).drain.written := by
  rw [incoming.loop_succ, state, read]
  show _ ∈ ((d.terminate Errno.eagain.code).enter).drain.written
  unfold Drain.enter
  split <;> simp [Loop.drain, Drain.terminate, Drain.put]

/-- The loop is safe exactly if it is never answered with `-EAGAIN`. -/
theorem drains_safely_iff (incoming : Incoming) : incoming.Safe ↔ ¬ incoming.Retried := by
  constructor
  · rintro safe ⟨n, read, remains, unfailed⟩
    cases state : incoming.loop n with
    | going d =>
      have outside := Incoming.retry_outside state read
      exact absurd (safe.indices (n + 1) _ outside).1 (by decide)
    | ended d failure =>
      cases failure with
      | none => exact remains (safe.consumed n d state)
      | some errno =>
        obtain ⟨k, below, failed⟩ := Incoming.failed_read state
        exact unfailed k below errno failed
  · intro clean
    refine ⟨fun n => ?_, Incoming.ends clean, fun n d state => ?_⟩
    · have sound := incoming.sound clean n
      cases state : incoming.loop n with
      | ended d failure =>
        rw [state] at sound
        exact sound.1
      | going d =>
        rw [state] at sound
        exact sound.2.within
    · have sound := incoming.sound clean n
      rw [state] at sound
      exact sound.2 rfl

/-- One byte, for which the library asks to be called again once. -/
def retriedOnce : Incoming where
  payload := [0x61]
  reads
    | 0 => .again
    | 1 => .chunk [0x61]
    | _ => .chunk []
  bounded := by decide
  answers := by
    intro n d state
    cases n with
    | zero => exact .again
    | succ n =>
      cases n with
      | zero =>
        cases state
        exact .some _ (by decide) (by decide) (List.prefix_refl _)
      | succ n =>
        refine .nothing ?_
        rw [Nat.add_assoc, Nat.add_comm]
        exact left_over rfl n

/-- After its one retry the terminator lands eleven bytes in front of the buffer. -/
theorem drains_safely_fails : (∀ n, retriedOnce.reads (n + 1) ≠ .again) ∧ ¬ retriedOnce.Safe := by
  refine ⟨fun n => ?_, fun safe => ?_⟩
  · cases n with
    | zero => exact fun impossible => ReadResult.noConfusion impossible
    | succ n => exact fun impossible => ReadResult.noConfusion impossible
  · exact absurd (safe.indices 1 (-11) (by decide)).1 (by decide)

end AirQuality.Mqtt
