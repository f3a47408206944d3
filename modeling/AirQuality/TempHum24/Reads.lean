import AirQuality.Hvac.Detection
import AirQuality.TempHum24.Driver

/-!
# What the HDC302x reads accept

Every read of `temphum24.c` is decided by its transfer and its checksums, and fills its output or leaves it alone.
The sensor computes its checksums as the SPS30 does, so they notice the same errors.
-/

namespace AirQuality.TempHum24
open Foundation Hvac

theorem calculateCrc_eq (first second : UInt8) : calculateCrc first second = devCalcCrc first second := rfl

/-- A read of `words` words: what it accepts, what it delivers then, and what it leaves otherwise. -/
structure ReadsExactly {β : Type} (words : Nat) (before after : β) (reply : Reply) (code : Int) (out : β) : Prop where
  accepts : code = temphum24Ok ↔ reply.code = temphum24Ok ∧ ChecksumsHold reply.bytes words
  delivers : code = temphum24Ok → out = after
  unchanged : code ≠ temphum24Ok → out = before

theorem delivered_exact {β : Type} {words : Nat} {wrong : Prop} [Decidable wrong] {reply : Reply}
    (checks : ChecksumsHold reply.bytes words ↔ ¬ wrong) (before after : β) :
    ReadsExactly words before after reply (delivered wrong reply.code before after).1
      (delivered wrong reply.code before after).2 := by
  have refused : temphum24Error ≠ temphum24Ok := by decide
  unfold delivered
  dsimp only
  refine ⟨?_, fun accepted => if_pos accepted, fun failed => if_neg failed⟩
  rw [checks]
  by_cases spoiled : wrong
  · rw [if_pos spoiled]
    exact iff_of_false refused fun both => both.2 spoiled
  · rw [if_neg spoiled]
    exact (and_iff_left spoiled).symm

/-- Any other code is the transfer's, or the one for a wrong checksum. -/
theorem delivered_code {β : Type} (wrong : Prop) [Decidable wrong] (code : Int) (before after : β) :
    (delivered wrong code before after).1 = temphum24Error ∨ (delivered wrong code before after).1 = code := by
  unfold delivered
  dsimp only
  split
  · exact Or.inl rfl
  · exact Or.inr rfl

theorem checks_one (rx : Nat → UInt8) : ChecksumsHold rx 1 ↔ ¬ WrongAt rx 0 := by
  rw [checksumsHold_one, not_not]
  rfl

theorem checks_two (rx : Nat → UInt8) : ChecksumsHold rx 2 ↔ ¬ (WrongAt rx 0 ∨ WrongAt rx 3) := by
  rw [checksumsHold_two, checks_one, not_or]
  exact and_congr_right fun _ => not_not.symm

section Reads
variable (ctx : Temphum24) (cmd : UInt16) (reply : Reply)

theorem writeThenReadSingle_exact (dataOut : UInt16) :
    ReadsExactly 1 dataOut (word (reply.bytes 0) (reply.bytes 1)) reply
      (temphum24WriteThenReadSingle ctx cmd dataOut reply).1 (temphum24WriteThenReadSingle ctx cmd dataOut reply).2.2 :=
  delivered_exact (checks_one reply.bytes) _ _

theorem writeThenReadSingle_code (dataOut : UInt16) :
    (temphum24WriteThenReadSingle ctx cmd dataOut reply).1 = temphum24Error ∨
      (temphum24WriteThenReadSingle ctx cmd dataOut reply).1 = reply.code :=
  delivered_code (WrongAt reply.bytes 0) reply.code dataOut (word (reply.bytes 0) (reply.bytes 1))

theorem writeThenReadMulti_exact (dataOut : UInt16 × UInt16) :
    ReadsExactly 2 dataOut (word (reply.bytes 0) (reply.bytes 1), word (reply.bytes 3) (reply.bytes 4)) reply
      (temphum24WriteThenReadMulti ctx cmd dataOut reply).1 (temphum24WriteThenReadMulti ctx cmd dataOut reply).2.2 :=
  delivered_exact (checks_two reply.bytes) _ _

theorem readSingle_exact (dataOut : UInt16) :
    ReadsExactly 1 dataOut (word (reply.bytes 0) (reply.bytes 1)) reply
      (temphum24ReadSingle ctx dataOut reply).1 (temphum24ReadSingle ctx dataOut reply).2.2 :=
  delivered_exact (checks_one reply.bytes) _ _

theorem readMulti_exact (dataOut : UInt16 × UInt16) :
    ReadsExactly 2 dataOut (word (reply.bytes 0) (reply.bytes 1), word (reply.bytes 3) (reply.bytes 4)) reply
      (temphum24ReadMulti ctx dataOut reply).1 (temphum24ReadMulti ctx dataOut reply).2.2 :=
  delivered_exact (checks_two reply.bytes) _ _

theorem readTempAndRh_exact (out : ℚ × ℚ) :
    ReadsExactly 2 out
      (temperatureOf (word (reply.bytes 0) (reply.bytes 1)), humidityOf (word (reply.bytes 3) (reply.bytes 4))) reply
      (temphum24ReadTempAndRh ctx out reply).1 (temphum24ReadTempAndRh ctx out reply).2.2 := by
  obtain ⟨accepts, delivers, _⟩ := writeThenReadMulti_exact ctx cmdAutoMeasRoutTRh reply (0, 0)
  unfold temphum24ReadTempAndRh
  dsimp only
  refine ⟨accepts, fun accepted => ?_, fun failed => if_neg failed⟩
  rw [if_pos accepted, delivers accepted]

theorem readTempAndRh_code (out : ℚ × ℚ) :
    (temphum24ReadTempAndRh ctx out reply).1 = temphum24Error ∨ (temphum24ReadTempAndRh ctx out reply).1 = reply.code :=
  delivered_code (WrongAt reply.bytes 0 ∨ WrongAt reply.bytes 3) reply.code ((0 : UInt16), (0 : UInt16))
    (word (reply.bytes 0) (reply.bytes 1), word (reply.bytes 3) (reply.bytes 4))

/-- The manufacturer id is right, and came with its checksum. -/
theorem checkCommunication_ok_iff :
    (temphum24CheckCommunication ctx reply).1 = temphum24Ok ↔
      reply.code = temphum24Ok ∧ ChecksumsHold reply.bytes 1 ∧ word (reply.bytes 0) (reply.bytes 1) = manufacturerId := by
  obtain ⟨accepts, delivers, unchanged⟩ := writeThenReadSingle_exact ctx cmdReadManufacturerId reply 0
  have refused : temphum24Error ≠ temphum24Ok := by decide
  unfold temphum24CheckCommunication
  dsimp only
  rw [← and_assoc, ← accepts]
  by_cases accepted : (temphum24WriteThenReadSingle ctx cmdReadManufacturerId 0 reply).1 = temphum24Ok
  · rw [delivers accepted]
    split
    · rename_i wrong
      exact iff_of_false refused fun both => wrong both.2.symm
    · rename_i right
      exact iff_of_true accepted ⟨accepted, (not_not.mp right).symm⟩
  · rw [unchanged accepted, if_pos (by decide)]
    exact iff_of_false refused fun both => accepted both.1

/-- A check that does not succeed returns the one code `temphum24_default_cfg` compares with. -/
theorem checkCommunication_code :
    (temphum24CheckCommunication ctx reply).1 = temphum24Ok ∨
      (temphum24CheckCommunication ctx reply).1 = temphum24Error := by
  obtain ⟨_, _, unchanged⟩ := writeThenReadSingle_exact ctx cmdReadManufacturerId reply 0
  unfold temphum24CheckCommunication
  dsimp only
  split
  · exact Or.inr rfl
  · rename_i right
    refine Or.inl ?_
    by_contra failed
    rw [unchanged failed] at right
    exact right (by decide)

/-- The sensor is started exactly if it has shown its id and took the command. -/
theorem defaultCfg_ok_iff (write : Int) :
    (temphum24DefaultCfg ctx reply write).1 = temphum24Ok ↔
      (temphum24CheckCommunication (temphum24ResetDevice ctx) reply).1 = temphum24Ok ∧ write = temphum24Ok := by
  have refused : temphum24Error ≠ temphum24Ok := by decide
  have started : ∀ code : Int, Int.lor temphum24Ok code = code := by
    intro code
    cases code with
    | ofNat n => simp [Int.lor, temphum24Ok]
    | negSucc n =>
      have kept : n.ldiff 0 = n := Nat.eq_of_testBit_eq fun k => by simp [Nat.testBit_ldiff]
      simp [Int.lor, temphum24Ok, kept]
  unfold temphum24DefaultCfg
  dsimp only
  split
  · rename_i failed
    rw [failed]
    exact iff_of_false refused fun both => refused both.1
  · rename_i passed
    have ok := (checkCommunication_code (temphum24ResetDevice ctx) reply).resolve_right passed
    rw [ok, started]
    exact (and_iff_right rfl).symm

end Reads

theorem lor_eq_zero_iff (a b : Int) : Int.lor a b = 0 ↔ a = 0 ∧ b = 0 := by
  cases a with
  | ofNat m =>
    cases b with
    | ofNat n => simp [Int.lor]
    | negSucc n => simp [Int.lor]
  | negSucc m => cases b <;> simp [Int.lor]

/-- A history is read exactly if both of its words are, and its output is filled with both or left alone. -/
theorem readHistory_exact (cmdMin cmdMax : UInt16) (convert : UInt16 → ℚ) (ctx : Temphum24) (out : ℚ × ℚ)
    (first second : Reply) :
    let result := readHistory cmdMin cmdMax convert ctx out first second
    (result.1 = temphum24Ok ↔ (first.code = temphum24Ok ∧ ChecksumsHold first.bytes 1) ∧
      second.code = temphum24Ok ∧ ChecksumsHold second.bytes 1) ∧
    (result.1 = temphum24Ok → result.2.2 =
      (convert (word (first.bytes 0) (first.bytes 1)), convert (word (second.bytes 0) (second.bytes 1)))) ∧
    (result.1 ≠ temphum24Ok → result.2.2 = out) := by
  intro result
  have low := writeThenReadSingle_exact ctx cmdMin first 0
  have high := writeThenReadSingle_exact (temphum24WriteThenReadSingle ctx cmdMin 0 first).2.1 cmdMax second 0
  have both : result.1 = temphum24Ok ↔ (temphum24WriteThenReadSingle ctx cmdMin 0 first).1 = temphum24Ok ∧
      (temphum24WriteThenReadSingle (temphum24WriteThenReadSingle ctx cmdMin 0 first).2.1 cmdMax 0 second).1 =
        temphum24Ok := lor_eq_zero_iff _ _
  refine ⟨?_, fun accepted => ?_, fun failed => if_neg failed⟩
  · rw [both, low.accepts, high.accepts]
  · obtain ⟨first', second'⟩ := both.mp accepted
    rw [← low.delivers first', ← high.delivers second']
    exact if_pos accepted

/-! ### The serial number -/

/-- An answer that the driver takes a word from. -/
def Taken (reply : Reply) : Prop := reply.code = temphum24Ok ∧ ChecksumsHold reply.bytes 1

/-- The word in an answer. -/
def carried (reply : Reply) : UInt16 := word (reply.bytes 0) (reply.bytes 1)

section Serial
variable (replies : Nat → Reply) (codes : ∀ i, (replies i).code ≤ 0)
include codes

theorem readSerialNumber_refused {i : Nat} (refused : ¬ Taken (replies i)) (words : Nat) (ctx : Temphum24)
    (serialNumber : Nat → UInt16) : (readSerialNumber replies (words + 1) i ctx serialNumber).1 < 0 := by
  have bound := codes i
  have exactly := writeThenReadSingle_exact ctx (cmdReadNistIdBytes5_4 + UInt16.ofNat i) (replies i) (serialNumber i)
  have either := writeThenReadSingle_code ctx (cmdReadNistIdBytes5_4 + UInt16.ofNat i) (replies i) (serialNumber i)
  have failed := mt exactly.accepts.mp refused
  unfold temphum24Ok temphum24Error at *
  rw [readSerialNumber]
  dsimp only
  rw [if_pos (by omega)]
  omega

omit codes in
theorem readSerialNumber_taken {i : Nat} (taken : Taken (replies i)) (words : Nat) (ctx : Temphum24)
    (serialNumber : Nat → UInt16) :
    ∃ ctx', readSerialNumber replies (words + 1) i ctx serialNumber =
      readSerialNumber replies words (i + 1) ctx' (Function.update serialNumber i (carried (replies i))) := by
  have exactly := writeThenReadSingle_exact ctx (cmdReadNistIdBytes5_4 + UInt16.ofNat i) (replies i) (serialNumber i)
  have accepted := exactly.accepts.mpr taken
  refine ⟨(temphum24WriteThenReadSingle ctx (cmdReadNistIdBytes5_4 + UInt16.ofNat i) (serialNumber i)
    (replies i)).2.1, ?_⟩
  have passed : ¬ temphum24Ok < 0 := by decide
  rw [readSerialNumber]
  dsimp only
  rw [exactly.delivers accepted, accepted, if_neg passed]
  rfl

omit codes in
theorem readSerialNumber_before (words i : Nat) (ctx : Temphum24) (serialNumber : Nat → UInt16) :
    ∀ k < i, (readSerialNumber replies words i ctx serialNumber).2.2 k = serialNumber k := by
  induction words generalizing i ctx serialNumber with
  | zero => exact fun _ _ => rfl
  | succ words ih =>
    intro k below
    have kept : ∀ value, Function.update serialNumber i value k = serialNumber k := fun value =>
      Function.update_of_ne (Nat.ne_of_lt below) value serialNumber
    rw [readSerialNumber]
    dsimp only
    split
    · exact kept _
    · rw [ih (i + 1) _ _ k (by omega)]
      exact kept _

/-- The loop succeeds exactly if every answer is taken, and the words are then those of the answers. -/
theorem readSerialNumber_exact (words i : Nat) (ctx : Temphum24) (serialNumber : Nat → UInt16) :
    (¬ (readSerialNumber replies words i ctx serialNumber).1 < 0 ↔ ∀ k, i ≤ k → k < i + words → Taken (replies k)) ∧
    (¬ (readSerialNumber replies words i ctx serialNumber).1 < 0 → ∀ k, i ≤ k → k < i + words →
      (readSerialNumber replies words i ctx serialNumber).2.2 k = carried (replies k)) := by
  induction words generalizing i ctx serialNumber with
  | zero =>
    have passed : ¬ temphum24Ok < 0 := by decide
    refine ⟨iff_of_true passed fun k above below => ?_, fun _ k above below => ?_⟩
    · omega
    · omega
  | succ words ih =>
    by_cases taken : Taken (replies i)
    · obtain ⟨ctx', rest⟩ := readSerialNumber_taken replies taken words ctx serialNumber
      obtain ⟨accepts, delivers⟩ := ih (i + 1) ctx' (Function.update serialNumber i (carried (replies i)))
      rw [rest]
      constructor
      · rw [accepts]
        constructor
        · intro all k above below
          rcases Nat.eq_or_lt_of_le above with rfl | later
          · exact taken
          · exact all k later (by omega)
        · intro all k above below
          exact all k (by omega) (by omega)
      · intro passed k above below
        rcases Nat.eq_or_lt_of_le above with rfl | later
        · rw [readSerialNumber_before replies words (i + 1) ctx' _ i (Nat.lt_succ_self i), Function.update_self]
        · exact delivers passed k later (by omega)
    · have negative := readSerialNumber_refused replies codes taken words ctx serialNumber
      refine ⟨iff_of_false (not_not.mpr negative) fun all => taken (all i (le_refl i) (by omega)), ?_⟩
      exact fun passed => absurd negative passed

end Serial

/-! ### Errors on the bus -/

/-- What the bus may make of the words `sent` by the sensor: the transfer fails, or a small error spoils some word, or
the answer arrives as it was sent. -/
structure Noisy (sent : List (UInt8 × UInt8)) (reply : Reply) : Prop where
  code : reply.code ≤ 0
  carried : reply.code = temphum24Ok →
    (∀ index < 3 * sent.length, reply.bytes index = (answer sent).bytes index) ∨ Corrupted sent reply.bytes

/-- The checksums of an answer hold exactly if it arrives as it was sent. -/
theorem Noisy.checks_iff {sent : List (UInt8 × UInt8)} {reply : Reply} (noisy : Noisy sent reply)
    (received : reply.code = temphum24Ok) :
    ChecksumsHold reply.bytes sent.length ↔ ∀ index < 3 * sent.length, reply.bytes index = (answer sent).bytes index := by
  have right := answer_checksums sent
  constructor
  · intro checks
    refine (noisy.carried received).resolve_right fun corrupted => ?_
    obtain ⟨k, inside, small⟩ := corrupted
    exact checksum_spoiled (right k inside) small (checks k inside)
  · intro intact k inside
    rw [intact (3 * k + 2) (by omega), intact (3 * k) (by omega), intact (3 * k + 1) (by omega)]
    exact right k inside

end AirQuality.TempHum24
