import AirQuality.Mqtt.Routing

/-!
# The string a callback gets

The handler passes its buffer on whatever the loop left in it, and each read overwrites the one before.
So a callback sees the message exactly when the whole of it came in one read.
-/

namespace AirQuality.Mqtt
open Foundation

theorem store_before (d : Drain) (index j : Int) (bytes : List UInt8) (below : j < index) :
    (d.store index bytes).data j = d.data j := by
  induction bytes generalizing d index with
  | nil => rfl
  | cons byte rest ih =>
    have other : j ≠ index := by omega
    have later := ih (d.put index byte) (index + 1) (by omega)
    exact later.trans (Function.update_of_ne other _ _)

theorem store_cells (d : Drain) (index : Int) (bytes : List UInt8) :
    (List.range bytes.length).map (fun k : Nat => (d.store index bytes).data (index + k)) = bytes.map some := by
  induction bytes generalizing d index with
  | nil => rfl
  | cons byte rest ih =>
    have first : (d.store index (byte :: rest)).data index = some byte := by
      have kept := store_before (d.put index byte) (index + 1) index rest (by omega)
      exact kept.trans (Function.update_self _ _ _)
    rw [List.length_cons, List.range_succ_eq_map, List.map_cons, List.map_map, List.map_cons,
      ← ih (d.put index byte) (index + 1)]
    refine congrArg₂ List.cons ?_ (List.map_congr_left fun k _ => ?_)
    · rw [Int.natCast_zero, Int.add_zero, first]
    · have shifted : index + ((k + 1 : Nat) : Int) = index + 1 + k := by omega
      exact congrArg (d.store index (byte :: rest)).data shifted

/-- The terminator ends the string behind the bytes just stored. -/
theorem dataString_chunk (d : Drain) {bytes : List UInt8} (short : bytes.length ≤ 32) (text : 0 ∉ bytes) :
    dataString ((d.store 0 bytes).terminate bytes.length).data = bytes.map some := by
  obtain ⟨room, total⟩ : ∃ room, dataSize = bytes.length + (room + 1) := ⟨32 - bytes.length, by unfold dataSize; omega⟩
  have front : (List.range bytes.length).map (fun k : Nat => ((d.store 0 bytes).terminate bytes.length).data k) =
      bytes.map some := by
    rw [← store_cells d 0 bytes]
    refine List.map_congr_left fun k inside => ?_
    have below : (k : Int) ≠ bytes.length := by
      have bound := List.mem_range.mp inside
      omega
    rw [Int.zero_add]
    exact Function.update_of_ne below _ _
  have stop : ((d.store 0 bytes).terminate bytes.length).data bytes.length = some 0 := Function.update_self _ _ _
  unfold dataString
  rw [total, List.range_add, List.map_append, front, List.range_succ_eq_map]
  simp only [List.map_cons, Nat.add_zero, stop]
  rw [List.takeWhile_append_of_pos]
  · simp
  · intro cell present
    obtain ⟨byte, inside, rfl⟩ := List.mem_map.mp present
    have other : byte ≠ 0 := fun zero => text (zero ▸ inside)
    simpa using other

/-- The buffer shows the last read, which is the first only if nothing came before it. -/
def Incoming.Last (incoming : Incoming) (n : Nat) (d : Drain) : Prop :=
  ∃ before bytes, before ++ bytes ++ incoming.rest n = incoming.payload ∧ bytes ≠ [] ∧
    dataString d.data = bytes.map some ∧ (before = [] → incoming.reads 0 = .chunk bytes)

def Incoming.Shown (incoming : Incoming) (n : Nat) : Loop → Prop
  | .going d => (n = 0 ∧ d = Drain.start incoming.payload.length) ∨ incoming.Last n d
  | .ended d none => (incoming.payload = [] ∧ d = Drain.start incoming.payload.length) ∨ incoming.Last n d
  | .ended _ (some _) => True

theorem Incoming.Last.shown {incoming : Incoming} {n : Nat} {d : Drain} (last : incoming.Last n d) :
    incoming.Shown n d.enter := by
  unfold Drain.enter
  split
  · exact Or.inr last
  · exact Or.inr last

theorem Incoming.shown {incoming : Incoming} (text : 0 ∉ incoming.payload) (clean : ¬ incoming.Retried) (n : Nat) :
    incoming.Shown n (incoming.loop n) := by
  induction n with
  | zero =>
    show incoming.Shown 0 (Drain.start incoming.payload.length).enter
    unfold Drain.enter
    split
    · rename_i empty
      have length : (incoming.payload.length : Int) = 0 := empty
      exact Or.inl ⟨List.eq_nil_of_length_eq_zero (by omega), rfl⟩
    · exact Or.inl ⟨rfl, rfl⟩
  | succ n ih =>
    have sound := incoming.sound clean n
    cases state : incoming.loop n with
    | ended d failure =>
      rw [state] at ih sound
      rw [incoming.stays state 1]
      cases failure with
      | some errno => trivial
      | none =>
        have finished : incoming.rest n = [] := sound.2 rfl
        have still : incoming.rest (n + 1) = [] := left_over finished 1
        rcases ih with start | ⟨before, bytes, whole, rest⟩
        · exact Or.inl start
        · exact Or.inr ⟨before, bytes, by rw [still, ← finished]; exact whole, rest⟩
    | going d =>
      rw [state] at ih sound
      obtain ⟨more, reading⟩ := sound
      rcases incoming.clean_pass clean state reading more with
        ⟨errno, ended⟩ | ⟨bytes, read, nonempty, within, taken, entered⟩
      · rw [ended]
        trivial
      · have len := reading.len
        have progress := reading.progress
        have bounded := incoming.bounded
        have requested := (requestedLength_le d.len (by omega) (by omega)).1
        have following : bytes ++ incoming.rest (n + 1) = incoming.rest n := by
          show bytes ++ (incoming.rest n).drop (incoming.reads n).taken = _
          rw [read]
          exact List.prefix_iff_eq_append.mp taken
        obtain ⟨before, whole, first⟩ : ∃ before, before ++ incoming.rest n = incoming.payload ∧
            (before = [] → incoming.reads 0 = .chunk bytes) := by
          rcases ih with ⟨rfl, rfl⟩ | ⟨before, shown, whole, nonempty, _⟩
          · exact ⟨[], rfl, fun _ => read⟩
          · exact ⟨before ++ shown, whole, fun nothing => absurd (List.append_eq_nil_iff.mp nothing).2 nonempty⟩
        have inside : 0 ∉ bytes := by
          intro present
          rw [← whole, ← following] at text
          exact text (by simp [present])
        have last : incoming.Last (n + 1) ((d.store 0 bytes).terminate bytes.length) :=
          ⟨before, bytes, by rw [List.append_assoc, following, whole], nonempty,
            dataString_chunk d (by omega) inside, first⟩
        rw [entered]
        exact last.shown

/-! ### What the callback gets -/

/-- Whenever the loop has ended, a callback that is invoked gets the payload, and no read has failed. -/
def SeesWhole (s : State) (topic : Text) (incoming : Incoming) : Prop :=
  ∀ n d failure, ∀ ended : incoming.loop n = .ended d failure,
    ∀ invocation ∈ invocations s (incoming.message topic ended),
      failure = none ∧ invocation.2 = incoming.payload.map some

/-- The whole payload, in the first read. -/
def Incoming.AtOnce (incoming : Incoming) : Prop :=
  incoming.payload ≠ [] ∧ incoming.reads 0 = .chunk incoming.payload

theorem Incoming.AtOnce.ended {incoming : Incoming} (atOnce : incoming.AtOnce) (text : 0 ∉ incoming.payload)
    {n : Nat} {d : Drain} {failure : Option Errno} (ended : incoming.loop n = .ended d failure) :
    failure = none ∧ dataString d.data = incoming.payload.map some := by
  obtain ⟨nonempty, whole⟩ := atOnce
  have positive := List.length_pos_iff.mpr nonempty
  have bounded := incoming.bounded
  have start : incoming.loop 0 = .going (Drain.start incoming.payload.length) := by
    have more : ¬ (incoming.payload.length : Int) = 0 := by omega
    exact if_neg more
  have answer := incoming.answers 0 _ start
  rw [whole] at answer
  have within := answer.within.1
  have requested := requestedLength_le incoming.payload.length (by omega) (by omega)
  have short : incoming.payload.length ≤ 32 := Nat.le_trans within requested.1
  have finished : incoming.loop 1 = .ended (((Drain.start incoming.payload.length).store 0 incoming.payload).terminate
      incoming.payload.length) none := by
    rw [incoming.loop_succ, start, whole]
    show (Drain.start incoming.payload.length).pass (.chunk incoming.payload) = _
    rw [pass_chunk within]
    unfold Drain.enter
    rw [if_pos]
    show (Drain.store _ 0 incoming.payload).len - (incoming.payload.length : Int) = 0
    rw [store_len]
    exact Int.sub_self _
  cases n with
  | zero =>
    rw [start] at ended
    cases ended
  | succ n =>
    have later := incoming.stays finished n
    rw [Nat.add_comm, ended] at later
    cases later
    exact ⟨rfl, dataString_chunk _ short text⟩

/-- A callback sees the whole message exactly if there is none for it, or the loop never ends, or the
first read delivers all of the payload. -/
theorem sees_whole_iff (s : State) (topic : Text) (incoming : Incoming) (text : 0 ∉ incoming.payload) :
    SeesWhole s topic incoming ↔
      matching s.subscriptions topic = none ∨ (incoming.Retried ∧ ¬ incoming.Failed) ∨ incoming.AtOnce := by
  constructor
  · intro whole
    cases search : matching s.subscriptions topic with
    | none => exact Or.inl rfl
    | some entry =>
      refine Or.inr ?_
      by_cases endless : incoming.Retried ∧ ¬ incoming.Failed
      · exact Or.inl endless
      · right
        rw [← incoming.endless_iff] at endless
        simp only [not_forall, not_not] at endless
        obtain ⟨n, d, failure, ended⟩ := endless
        have invoked := invoked_eq s topic ended
        rw [search] at invoked
        obtain ⟨rfl, string⟩ := whole n d failure ended (entry.callback, dataString d.data)
          (by rw [invoked]; exact List.mem_cons_self)
        have shown := incoming.shown text (Incoming.clean_of_ended ended) n
        have sound := incoming.sound (Incoming.clean_of_ended ended) n
        rw [ended] at shown sound
        rcases shown with ⟨empty, rfl⟩ | ⟨before, bytes, all, nonempty, last, first⟩
        · rw [empty] at string
          have blank : dataString (fun _ => none) = [] := string
          exact absurd blank (by decide)
        · rw [sound.2 rfl, List.append_nil] at all
          have same : bytes = incoming.payload :=
            List.map_injective_iff.mpr (fun _ _ => Option.some.inj) (last.symm.trans string)
          have nothing : before = [] := by
            rw [same] at all
            exact List.append_left_eq_self.mp all
          rw [same] at nonempty first
          exact ⟨nonempty, first nothing⟩
  · rintro (unmatched | endless | atOnce) n d failure ended invocation present
    · rw [invoked_eq s topic ended, unmatched] at present
      cases present
    · exact absurd ended (incoming.endless_iff.mpr endless n d failure)
    · obtain ⟨unfailed, string⟩ := atOnce.ended text ended
      rw [invoked_eq s topic ended] at present
      cases search : matching s.subscriptions topic with
      | none =>
        rw [search] at present
        cases present
      | some entry =>
        rw [search] at present
        rw [List.mem_singleton.mp present]
        exact ⟨unfailed, string⟩

/-- Two bytes that come one by one. -/
def twoParts : Incoming where
  payload := [0x61, 0x62]
  reads
    | 0 => .chunk [0x61]
    | 1 => .chunk [0x62]
    | _ => .chunk []
  bounded := by decide
  answers := by
    intro n d state
    cases n with
    | zero =>
      cases state
      exact .some _ (by decide) (by decide) (List.prefix_append [0x61] [0x62])
    | succ n =>
      cases n with
      | zero =>
        cases state
        exact .some _ (by decide) (by decide) (List.prefix_refl _)
      | succ n =>
        refine .nothing ?_
        rw [Nat.add_assoc, Nat.add_comm]
        exact left_over rfl n

theorem sees_whole_parts :
    SeesWhole (booted 1 [] [] []) ['t'] twoParts ↔
      matching (booted 1 [] [] []).subscriptions ['t'] = none ∨ (twoParts.Retried ∧ ¬ twoParts.Failed) ∨
        twoParts.AtOnce :=
  sees_whole_iff (booted 1 [] [] []) ['t'] twoParts (by decide)

/-- The callback gets the second part in the place of the message. -/
theorem sees_whole_fails : ¬ SeesWhole { booted 1 [] [] [] with subscriptions := [⟨['t'], 1⟩] } ['t'] twoParts := by
  intro whole
  have second := whole 2 _ none rfl (1, [some 0x62]) (by decide)
  exact absurd second.2 (by decide)

end AirQuality.Mqtt
