import Gumstix.Mcspi.ProgrammedIo

/-!
# Short transfers

The loop decrements its rest before it waits, so that a word that does not come is counted; and it
tests its rest after the turn, so that one turn is always made.
-/
namespace Gumstix.Mcspi
open Gumstix.Synchronization (Word)
open WordMemory (Memory load store storeAll)

/-- The whole words of a transfer. -/
def Transfer.words (x : Transfer) (k : DataType) : Nat := x.len.toNat / k.bytes

/-- No access lies beyond the end of the buffers. -/
def InBounds (x : Transfer) (k : DataType) (result : TransferResult) : Prop :=
  k.bytes * result.sent ≤ x.len.toNat ∧ k.bytes * result.received ≤ x.len.toNat

instance (x : Transfer) (k : DataType) (result : TransferResult) :
    Decidable (InBounds x k result) := inferInstanceAs (Decidable (_ ∧ _))

section results
variable {x : Transfer} {r : LineReplies} {c : Channel}

theorem wordLen_div_le {wordLen : Nat} (bits : wordLen ≤ 32) :
    wordLen / 8 ≤ (dataType wordLen).bytes := by
  unfold dataType
  split_ifs
  · exact (Nat.div_le_iff_le_mul_add_pred (by decide)).mpr (by change wordLen ≤ 8 * 1 + 7; omega)
  · exact (Nat.div_le_iff_le_mul_add_pred (by decide)).mpr (by change wordLen ≤ 8 * 2 + 7; omega)
  · exact (Nat.div_le_iff_le_mul_add_pred (by decide)).mpr (by change wordLen ≤ 8 * 4 + 7; omega)

/-- The loop as it is started. -/
abbrev startedLoop (x : Transfer) (r : LineReplies) (c : Channel) : Pio × Bool :=
  pioLoop x r c.chconf0 (dataType c.wordLen) (pioStart x c)

theorem txrxPio_eq (bits : c.wordLen ≤ 32) (long : ¬ x.len.toNat < c.wordLen / 8) :
    txrxPio x r c = pioOut x (startedLoop x r c).1 (startedLoop x r c).2 := by
  rw [txrxPio, if_neg long, if_neg (Nat.not_lt.mpr bits)]

theorem before_pioStart (x : Transfer) (c : Channel) : Before x (pioStart x c) 0 :=
  ⟨fun _ => rfl, fun _ => rfl, rfl⟩

theorem one_le_words {k : DataType} (whole : k.bytes ≤ x.len.toNat) : 1 ≤ x.words k :=
  (Nat.one_le_div_iff k.bytes_pos).mpr whole

/-- The length is that of the whole words and a rest. -/
theorem len_eq {k : DataType} (whole : k.bytes ≤ x.len.toNat) :
    x.len.toNat = k.bytes * (x.words k - 1 + 1) + x.len.toNat % k.bytes := by
  rw [Nat.sub_add_cancel (one_le_words whole), Transfer.words, Nat.div_add_mod]

theorem carries_pioOut {p : Pio} (completed : Bool) (selected : Selected p.channel) :
    Carries p.channel (pioOut x p completed).channel [] [] := by
  unfold pioOut
  dsimp only
  split
  · have off := carries_setEnable selected false
    exact off.trans (carries_setEnable off.selected true)
  · exact carries_setEnable selected true

/-- Every word in time: the words of one buffer pass in their order, those that come are stored in
their order, and nothing else is written. The turbo mode makes no difference. -/
theorem pio_exchanges (selected : Selected c) (fits : ModeFits x c) (bits : c.wordLen ≤ 32)
    (whole : (dataType c.wordLen).bytes ≤ x.len.toNat)
    (inTime : ∀ i < x.words (dataType c.wordLen), WordPasses x r i) :
    (txrxPio x r c).count.toNat = (dataType c.wordLen).bytes * x.words (dataType c.wordLen) ∧
    (txrxPio x r c).sent = (if x.txBuf.isSome then x.words (dataType c.wordLen) else 0) ∧
    (txrxPio x r c).received = (if x.rxBuf.isSome then x.words (dataType c.wordLen) else 0) ∧
    (txrxPio x r c).rxBuf = x.rxBuf.map (fun rx => storeAll (dataType c.wordLen).bytes rx 0
      (wordsReceived r 0 (x.words (dataType c.wordLen)))) ∧
    Carries c (txrxPio x r c).channel
      (wordsToSend x (dataType c.wordLen) 0 (x.words (dataType c.wordLen)))
      (wordsReceived r 0 (if x.rxBuf.isSome then x.words (dataType c.wordLen) else 0)) := by
  have length := len_eq whole
  have some := one_le_words whole
  have long : ¬ x.len.toNat < c.wordLen / 8 :=
    Nat.not_lt.mpr ((wordLen_div_le bits).trans whole)
  obtain ⟨-, rest, moved⟩ := pioLoop_completes (r := r) (l := c.chconf0)
    (before_pioStart x c) length (Nat.mod_lt _ (dataType c.wordLen).bytes_pos) (fun j hj =>
      (Nat.zero_add j).symm ▸ inTime j (by omega))
  obtain ⟨n, m, advances⟩ := pioLoop_advances (r := r) (l := c.chconf0)
    (k := dataType c.wordLen) (p := pioStart x c) selected fits
  rw [Nat.zero_add, Nat.sub_add_cancel some] at moved
  have sent : wordsToSend x (dataType c.wordLen) 0 n =
      wordsToSend x (dataType c.wordLen) 0 (x.words (dataType c.wordLen)) := by
    cases tx : x.txBuf with
    | none => simp only [wordsToSend, tx]
    | some m =>
        rw [← moved.sent (by rw [tx]; rfl), advances.sent]
        exact congrArg (wordsToSend x _ 0) (Nat.zero_add n).symm
  have count : n = if x.txBuf.isSome then x.words (dataType c.wordLen) else 0 := by
    split
    · rename_i sends
      rw [← moved.sent sends, advances.sent]
      exact (Nat.zero_add n).symm
    · rename_i none
      exact advances.noTx (Option.isSome_eq_false_iff.mp (Bool.not_eq_true _ ▸ none))
  have received : m = if x.rxBuf.isSome then x.words (dataType c.wordLen) else 0 := by
    split
    · rename_i receives
      rw [← moved.received receives, advances.received]
      exact (Nat.zero_add m).symm
    · rename_i none
      exact advances.noRx (Option.isSome_eq_false_iff.mp (Bool.not_eq_true _ ▸ none))
  rw [txrxPio_eq bits long]
  refine ⟨?_, advances.sent.trans ((Nat.zero_add n).trans count),
    advances.received.trans ((Nat.zero_add m).trans received), ?_, ?_⟩
  · have less : (startedLoop x r c).1.c ≤ x.len := by
      rw [BitVec.le_def, rest]
      exact Nat.mod_le _ _
    rw [pioOut, BitVec.toNat_sub_of_le less, rest, ← Nat.div_add_mod x.len.toNat
      (dataType c.wordLen).bytes, Transfer.words]
    simp
  · have stored : (startedLoop x r c).1.rxBuf = x.rxBuf.map fun rx =>
      storeAll (dataType c.wordLen).bytes rx 0 (wordsReceived r 0 m) := advances.rxBuf
    refine stored.trans (Option.map_congr fun rx isRx => ?_)
    rw [received, if_pos (Option.isSome_of_mem isRx)]
  · have both := advances.carries.trans (carries_pioOut (x := x) (startedLoop x r c).2
      advances.carries.selected)
    rw [List.append_nil, List.append_nil] at both
    rw [← sent, ← received]
    exact both

/-- The first word that is not in time. -/
theorem exists_first_late {n : Nat} (late : ∃ i < n, ¬ WordPasses x r i) :
    ∃ f < n, ¬ WordPasses x r f ∧ ∀ j < f, WordPasses x r j := by
  refine ⟨Nat.find late, (Nat.find_spec late).1, (Nat.find_spec late).2, fun j earlier => ?_⟩
  by_contra fails
  exact Nat.find_min late earlier ⟨earlier.trans (Nat.find_spec late).1, fails⟩

theorem count_eq_len_iff (bits : c.wordLen ≤ 32) (long : ¬ x.len.toNat < c.wordLen / 8) :
    (txrxPio x r c).count = x.len ↔ (startedLoop x r c).1.c.toNat = 0 := by
  rw [txrxPio_eq bits long, pioOut]
  dsimp only
  rw [sub_eq_self, ← BitVec.toNat_inj]
  rfl

/-- What is left when a word is late. -/
theorem rest_of_late (whole : (dataType c.wordLen).bytes ≤ x.len.toNat) {f : Nat}
    (within : f < x.words (dataType c.wordLen)) (fails : ¬ WordPasses x r f)
    (earlier : ∀ j < f, WordPasses x r j) :
    (startedLoop x r c).1.c.toNat =
      (dataType c.wordLen).bytes * (x.words (dataType c.wordLen) - 1 - f) +
        x.len.toNat % (dataType c.wordLen).bytes +
          if TurboTail x c.chconf0 ∧ f = x.words (dataType c.wordLen) - 1 ∧ 0 < f ∧
            x.len.toNat % (dataType c.wordLen).bytes = 0 then (dataType c.wordLen).bytes else 0 :=
  (pioLoop_fails (before_pioStart x c) (len_eq whole)
    (Nat.mod_lt _ (dataType c.wordLen).bytes_pos) (Nat.le_sub_one_of_lt within)
    (fun j hj => (Nat.zero_add j).symm ▸ earlier j hj) ((Nat.zero_add f).symm ▸ fails)).2

theorem received_of_late (whole : (dataType c.wordLen).bytes ≤ x.len.toNat) {f : Nat}
    (within : f < x.words (dataType c.wordLen)) (fails : ¬ WordPasses x r f)
    (earlier : ∀ j < f, WordPasses x r j) (plain : ¬ TurboTail x c.chconf0)
    (receives : x.rxBuf.isSome = true) : (startedLoop x r c).1.received = f :=
  (pioLoop_late (before_pioStart x c) (len_eq whole) (Nat.le_sub_one_of_lt within)
    (fun j hj => (Nat.zero_add j).symm ▸ earlier j hj) ((Nat.zero_add f).symm ▸ fails) plain
    receives).trans (Nat.zero_add f)

/-- A transfer is reported as complete with a word missing exactly if it is the last one that is
late, no other, and the last two words are not read together. -/
theorem pio_unnoticed_iff (bits : c.wordLen ≤ 32)
    (whole : (dataType c.wordLen).bytes ≤ x.len.toNat) :
    (txrxPio x r c).count = x.len ∧ (∃ i < x.words (dataType c.wordLen), ¬ WordPasses x r i) ↔
      (dataType c.wordLen).bytes ∣ x.len.toNat ∧
        ¬ WordPasses x r (x.words (dataType c.wordLen) - 1) ∧
          (∀ i < x.words (dataType c.wordLen) - 1, WordPasses x r i) ∧
            ¬ (TurboTail x c.chconf0 ∧ 1 < x.words (dataType c.wordLen)) := by
  have positive := (dataType c.wordLen).bytes_pos
  have some := one_le_words whole
  have long : ¬ x.len.toNat < c.wordLen / 8 :=
    Nat.not_lt.mpr ((wordLen_div_le bits).trans whole)
  rw [count_eq_len_iff bits long, Nat.dvd_iff_mod_eq_zero]
  constructor
  · rintro ⟨none, late⟩
    obtain ⟨f, within, fails, earlier⟩ := exists_first_late late
    rw [rest_of_late whole within fails earlier] at none
    have last : f = x.words (dataType c.wordLen) - 1 := by
      have words : (dataType c.wordLen).bytes * (x.words (dataType c.wordLen) - 1 - f) = 0 := by
        omega
      rcases Nat.mul_eq_zero.mp words with zero | zero
      · omega
      · omega
    have remainder : x.len.toNat % (dataType c.wordLen).bytes = 0 := by omega
    subst last
    refine ⟨remainder, fails, earlier, fun tail => ?_⟩
    rw [if_pos ⟨tail.1, rfl, by omega, remainder⟩] at none
    omega
  · rintro ⟨remainder, fails, earlier, plain⟩
    have within : x.words (dataType c.wordLen) - 1 < x.words (dataType c.wordLen) :=
      Nat.sub_one_lt_of_lt some
    refine ⟨?_, _, within, fails⟩
    rw [rest_of_late whole within fails earlier, Nat.sub_self, remainder,
      if_neg fun tail => plain ⟨tail.1, by omega⟩]
    omega

/-- Words of 16 bits, both ways, in a transfer of three of them. -/
def threeWords : Transfer := ⟨some fun i => BitVec.ofNat 8 i, some fun _ => 0, 6, 0, 0, false⟩

/-- The third word does not come, and the driver reports all six bytes. -/
theorem pio_unnoticed_iff_lastLate :
    (txrxPio threeWords ⟨fun _ => true, fun i => i < 2, fun _ => 7⟩
      (.begun 16 chconfForce)).count = 6 :=
  ((pio_unnoticed_iff (x := threeWords) (r := ⟨fun _ => true, fun i => i < 2, fun _ => 7⟩)
    (c := .begun 16 chconfForce) (by decide) (by decide)).mpr (by decide)).1

theorem wordPasses_prompt (x : Transfer) (rx : Nat → Word) (i : Nat) :
    WordPasses x (.prompt rx) i := ⟨fun _ => rfl, fun _ => rfl⟩

/-- With prompt answers the first turn moves a word. -/
theorem startedLoop_moves (x : Transfer) (c : Channel) (rx : Nat → Word) :
    (x.txBuf.isSome = true → 1 ≤ (startedLoop x (.prompt rx) c).1.sent) ∧
      (x.rxBuf.isSome = true → 1 ≤ (startedLoop x (.prompt rx) c).1.received) := by
  have first : ∃ i, 1 ≤ i ∧
      Before x (pioTurn x (.prompt rx) c.chconf0 (dataType c.wordLen) (pioStart x c)).1 i := by
    by_cases two : TurboTail x c.chconf0 ∧
        (restAfter (dataType c.wordLen) (pioStart x c)).toNat = (dataType c.wordLen).bytes
    · exact ⟨2, by decide, ((pioTurn_turbo (before_pioStart x c) (wordPasses_prompt x rx 0) two.1
        two.2).1 (wordPasses_prompt x rx 1)).2.2⟩
    · exact ⟨1, Nat.le_refl 1, (pioTurn_passes (before_pioStart x c) (wordPasses_prompt x rx 0)
        two).2.2⟩
  obtain ⟨i, some, moved⟩ := first
  have grows : ∀ p, (pioTurn x (.prompt rx) c.chconf0 (dataType c.wordLen) p).1.sent ≤
      (pioLoop x (.prompt rx) c.chconf0 (dataType c.wordLen) p).1.sent ∧
        (pioTurn x (.prompt rx) c.chconf0 (dataType c.wordLen) p).1.received ≤
          (pioLoop x (.prompt rx) c.chconf0 (dataType c.wordLen) p).1.received := by
    intro p
    rw [pioLoop]
    split
    · exact pioLoop_mono
    · exact ⟨Nat.le_refl _, Nat.le_refl _⟩
  exact ⟨fun sends => (some.trans_eq (moved.sent sends).symm).trans (grows _).1,
    fun receives => (some.trans_eq (moved.received receives).symm).trans (grows _).2⟩

/-- The loop keeps inside the buffers, whatever the line answers, exactly if the length is refused
or a word fits. A word of 9 to 15 bits takes two bytes but passes for one, and so on. -/
theorem pio_in_bounds_iff (bits : c.wordLen ≤ 32) (buffer : x.txBuf.isSome ∨ x.rxBuf.isSome) :
    (∀ r, InBounds x (dataType c.wordLen) (txrxPio x r c)) ↔
      x.len.toNat < c.wordLen / 8 ∨ (dataType c.wordLen).bytes ≤ x.len.toNat := by
  constructor
  · intro inBounds
    by_contra short
    rw [not_or, Nat.not_le] at short
    have inside := inBounds (.prompt fun _ => 0)
    rw [txrxPio_eq bits short.1] at inside
    have moves := startedLoop_moves x c fun _ => 0
    rcases buffer with sends | receives
    · exact absurd ((Nat.le_mul_of_pos_right _ (moves.1 sends)).trans inside.1)
        (Nat.not_le.mpr short.2)
    · exact absurd ((Nat.le_mul_of_pos_right _ (moves.2 receives)).trans inside.2)
        (Nat.not_le.mpr short.2)
  · intro enough r
    by_cases short : x.len.toNat < c.wordLen / 8
    · rw [txrxPio, if_pos short]
      exact ⟨Nat.zero_le _, Nat.zero_le _⟩
    · have whole := enough.resolve_left short
      have room := pioLoop_room (x := x) (r := r) (l := c.chconf0) (p := pioStart x c) whole
      rw [txrxPio_eq bits short]
      exact ⟨room.1.trans (by simp [pioStart]), room.2.trans (by simp [pioStart])⟩

/-- One byte for a word of 12 bits. -/
theorem pio_in_bounds_iff_twelveBits :
    ¬ ∀ r, InBounds { threeWords with len := 1 } .s16
      (txrxPio { threeWords with len := 1 } r (.begun 12 chconfForce)) := fun inside =>
  absurd ((pio_in_bounds_iff (x := { threeWords with len := 1 }) (c := .begun 12 chconfForce)
    (by decide) (.inl rfl)).mp inside) (by decide)

end results

end Gumstix.Mcspi
