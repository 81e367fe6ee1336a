import Gumstix.Mcspi.LineSpecs

/-!
# Programmed I/O

What the loop of a short transfer moves, in which order and between which places of the two buffers;
how often it turns, and what it counts when a word does not come in time.
-/
namespace Gumstix.Mcspi
open Gumstix.Synchronization (Word)
open WordMemory (Memory load store storeAll)

/-- `n` words of the transmit buffer from number `i` on. -/
def wordsToSend (x : Transfer) (k : DataType) (i n : Nat) : List Word :=
  match x.txBuf with
  | none => []
  | some tx => (List.range' i n).map (load 32 k.bytes tx)

/-- `n` words as they are received, from number `i` on. -/
def wordsReceived (r : LineReplies) (i n : Nat) : List Word := (List.range' i n).map r.rx

/-- The channel sends what is written if there is something to send. -/
def ModeFits (x : Transfer) (c : Channel) : Prop :=
  x.txBuf.isSome = true → c.chconf0 &&& chconfTrmMask ≠ chconfTrmRxOnly

/-- From `p` to `p'` the next `n` words have been sent and the next `m` received and stored. -/
structure Advances (x : Transfer) (r : LineReplies) (k : DataType) (p p' : Pio) (n m : Nat) :
    Prop where
  carries : Carries p.channel p'.channel (wordsToSend x k p.sent n) (wordsReceived r p.received m)
  sent : p'.sent = p.sent + n
  received : p'.received = p.received + m
  rxBuf : p'.rxBuf = p.rxBuf.map fun rx =>
    storeAll k.bytes rx p.received (wordsReceived r p.received m)
  noTx : x.txBuf.isNone = true → n = 0
  noRx : p.rxBuf.isNone = true → m = 0

theorem wordsToSend_zero (x : Transfer) (k : DataType) (i : Nat) : wordsToSend x k i 0 = [] := by
  unfold wordsToSend
  cases x.txBuf <;> rfl

theorem wordsToSend_add (x : Transfer) (k : DataType) (i n m : Nat) :
    wordsToSend x k i n ++ wordsToSend x k (i + n) m = wordsToSend x k i (n + m) := by
  unfold wordsToSend
  cases x.txBuf with
  | none => rfl
  | some tx => rw [← List.map_append, List.range'_append_1]

theorem wordsReceived_add (r : LineReplies) (i n m : Nat) :
    wordsReceived r i n ++ wordsReceived r (i + n) m = wordsReceived r i (n + m) := by
  rw [wordsReceived, wordsReceived, ← List.map_append, List.range'_append_1, wordsReceived]

@[simp] theorem length_wordsReceived (r : LineReplies) (i n : Nat) :
    (wordsReceived r i n).length = n := by
  rw [wordsReceived, List.length_map, List.length_range']

section steps
variable {x : Transfer} {r : LineReplies} {l : Word} {k : DataType} {p p' p'' : Pio}
  {n m n' m' : Nat}

theorem advances_of_carries (sent : p'.sent = p.sent) (received : p'.received = p.received)
    (rxBuf : p'.rxBuf = p.rxBuf) (carries : Carries p.channel p'.channel [] []) :
    Advances x r k p p' 0 0 where
  carries := by
    rw [wordsToSend_zero]
    exact carries
  sent := sent
  received := received
  rxBuf := by
    rw [rxBuf]
    exact Option.map_id.symm ▸ rfl
  noTx _ := rfl
  noRx _ := rfl

theorem Advances.trans (h : Advances x r k p p' n m) (h' : Advances x r k p' p'' n' m') :
    Advances x r k p p'' (n + n') (m + m') where
  carries := by
    have both := h.carries.trans h'.carries
    rwa [h.sent, h.received, wordsToSend_add, wordsReceived_add] at both
  sent := by rw [h'.sent, h.sent, Nat.add_assoc]
  received := by rw [h'.received, h.received, Nat.add_assoc]
  rxBuf := by
    rw [h'.rxBuf, h.rxBuf, Option.map_map, ← wordsReceived_add]
    refine congrArg (Option.map · p.rxBuf) (funext fun rx => ?_)
    rw [Function.comp_apply, WordMemory.storeAll_append, length_wordsReceived, h.received]
  noTx none := by rw [h.noTx none, h'.noTx none]
  noRx none := by
    have later : p'.rxBuf.isNone = true := by
      rw [h.rxBuf, Option.isNone_map]
      exact none
    rw [h.noRx none, h'.noRx later]

theorem ModeFits.of_carries {c c' : Channel} {sent received : List Word} (fits : ModeFits x c)
    (h : Carries c c' sent received) : ModeFits x c' := by
  intro sends
  rw [and_of_and h.bits (by decide)]
  exact fits sends

theorem pioSend_advances (selected : Selected p.channel) (fits : ModeFits x p.channel) :
    ∃ n, Advances x r k p (pioSend x r k p).1 n 0 := by
  unfold pioSend
  cases sends : x.txBuf with
  | none => exact ⟨0, advances_of_carries rfl rfl rfl (.refl selected)⟩
  | some tx =>
      dsimp only
      split
      · refine ⟨1, ?_, rfl, rfl, ?_, fun none => ?_, fun _ => rfl⟩
        · have word : wordsToSend x k p.sent 1 = [load 32 k.bytes tx p.sent] := by
            rw [wordsToSend, sends]
            rfl
          rw [word]
          exact carries_writeTx selected (fits (by rw [sends]; rfl)) _
        · exact Option.map_id.symm ▸ rfl
        · rw [sends] at none
          cases none
      · exact ⟨0, advances_of_carries rfl rfl rfl (.refl selected)⟩

theorem not_isNone {α : Type*} {o : Option α} (some : o.isSome = true) : ¬ o.isNone = true :=
  ne_true_of_eq_false (Option.isNone_eq_false_iff.mpr some)

theorem pioStore_advances (selected : Selected p.channel) (some : p.rxBuf.isSome = true) :
    Advances x r k p (pioStore r k p) 0 1 where
  carries := by
    rw [wordsToSend_zero]
    exact carries_readRx selected _
  sent := rfl
  received := rfl
  rxBuf := rfl
  noTx _ := rfl
  noRx none := absurd none (not_isNone some)

theorem pioDisable_advances (selected : Selected p.channel) :
    Advances x r k p (pioDisable p) 0 0 :=
  advances_of_carries rfl rfl rfl (carries_setEnable selected false)

theorem pioReceive_advances (selected : Selected p.channel) :
    ∃ m, Advances x r k p (pioReceive x r l k p).1 0 m := by
  have stays : Advances x r k p p 0 0 := advances_of_carries rfl rfl rfl (.refl selected)
  by_cases none : p.rxBuf.isNone = true
  · rw [pioReceive, if_pos none]
    exact ⟨0, stays⟩
  have some : p.rxBuf.isSome = true :=
    Option.isNone_eq_false_iff.mp (Bool.not_eq_true _ ▸ none)
  have disabled : Advances x r k p (pioDisable p) 0 0 := pioDisable_advances selected
  have stored := disabled.trans (pioStore_advances disabled.carries.selected some)
  unfold pioReceive
  dsimp only
  split_ifs
  · have zeroed : Advances x r k p { pioStore r k (pioDisable p) with c := 0 } 0 1 :=
      ⟨stored.carries, stored.sent, stored.received, stored.rxBuf, stored.noTx, stored.noRx⟩
    exact ⟨2, zeroed.trans (pioStore_advances zeroed.carries.selected
      (Option.isSome_map.trans some))⟩
  · exact ⟨1, stored⟩
  · exact ⟨1, stored⟩
  · exact ⟨1, pioStore_advances selected some⟩
  · exact ⟨0, stays⟩

theorem pioTurn_advances (selected : Selected p.channel) (fits : ModeFits x p.channel) :
    ∃ n m, Advances x r k p (pioTurn x r l k p).1 n m := by
  unfold pioTurn
  dsimp only
  obtain ⟨n, sent⟩ := pioSend_advances (r := r) (k := k)
    (p := { p with c := p.c - BitVec.ofNat 32 k.bytes }) selected fits
  have sent : Advances x r k p _ n 0 :=
    ⟨sent.carries, sent.sent, sent.received, sent.rxBuf, sent.noTx, sent.noRx⟩
  split
  · obtain ⟨m, received⟩ := pioReceive_advances (x := x) (r := r) (l := l) (k := k)
      sent.carries.selected
    exact ⟨n + 0, 0 + m, sent.trans received⟩
  · exact ⟨n, 0, sent⟩

/-- Whatever the answers are, the words pass in their order and one after the other. -/
theorem pioLoop_advances (selected : Selected p.channel) (fits : ModeFits x p.channel) :
    ∃ n m, Advances x r k p (pioLoop x r l k p).1 n m := by
  induction p using pioLoop.induct x r l k with
  | case1 p goesOn ih =>
      obtain ⟨n, m, turn⟩ := pioTurn_advances (r := r) (l := l) (k := k) selected fits
      obtain ⟨n', m', rest⟩ := ih turn.carries.selected (fits.of_carries turn.carries)
      rw [pioLoop, if_pos goesOn]
      exact ⟨n + n', m + m', turn.trans rest⟩
  | case2 p stops =>
      rw [pioLoop, if_neg stops]
      exact pioTurn_advances selected fits

end steps

/-- Word `i` is sent and received in time, as far as there are buffers for it. -/
def WordPasses (x : Transfer) (r : LineReplies) (i : Nat) : Prop :=
  (x.txBuf.isSome = true → r.txs i = true) ∧ (x.rxBuf.isSome = true → r.rxs i = true)

instance (x : Transfer) (r : LineReplies) (i : Nat) : Decidable (WordPasses x r i) :=
  inferInstanceAs (Decidable (_ ∧ _))

/-- The loop is before word `i`. -/
structure Before (x : Transfer) (p : Pio) (i : Nat) : Prop where
  sent : x.txBuf.isSome = true → p.sent = i
  received : x.rxBuf.isSome = true → p.received = i
  rxBuf : p.rxBuf.isSome = x.rxBuf.isSome

/-- The last two words of a reception are read in one turn. -/
def TurboTail (x : Transfer) (l : Word) : Prop :=
  x.txBuf.isNone = true ∧ x.rxBuf.isSome = true ∧ isOn l chconfTurbo = true

instance (x : Transfer) (l : Word) : Decidable (TurboTail x l) :=
  inferInstanceAs (Decidable (_ ∧ _ ∧ _))

section counting
variable {x : Transfer} {r : LineReplies} {l : Word} {k : DataType} {p : Pio} {i : Nat}

/-- The rest after the decrement of a turn. -/
def restAfter (k : DataType) (p : Pio) : Word := p.c - BitVec.ofNat 32 k.bytes

/-- A word that is sent in time, or nothing to send. -/
theorem pioSend_passes (here : Before x p i) (passes : WordPasses x r i) :
    (pioSend x r k p).2 = true ∧ (pioSend x r k p).1.rxBuf = p.rxBuf ∧
      (pioSend x r k p).1.received = p.received ∧
        (x.txBuf.isSome = true → (pioSend x r k p).1.sent = i + 1) := by
  unfold pioSend
  cases tx : x.txBuf with
  | none => exact ⟨rfl, rfl, rfl, nofun⟩
  | some m =>
      have position := here.sent (by rw [tx]; rfl)
      have ready := passes.1 (by rw [tx]; rfl)
      dsimp only
      rw [position, if_pos ready]
      exact ⟨rfl, rfl, rfl, fun _ => rfl⟩

theorem pioTurn_fails (here : Before x p i) (fails : ¬ WordPasses x r i) :
    (pioTurn x r l k p).2 = false ∧ (pioTurn x r l k p).1.c = restAfter k p := by
  unfold pioTurn pioSend pioReceive
  have rxBuf := here.rxBuf
  cases tx : x.txBuf with
  | none =>
      have none : r.rxs i = false ∧ x.rxBuf.isSome = true := by
        simpa [WordPasses, tx, and_comm] using fails
      simp [← Option.not_isSome, rxBuf, none.2, here.received none.2, none.1, restAfter]
  | some m =>
      have position := here.sent (by rw [tx]; rfl)
      cases ready : r.txs i with
      | false => simp [position, ready, restAfter]
      | true =>
          have none : r.rxs i = false ∧ x.rxBuf.isSome = true := by
            simpa [WordPasses, tx, ready, and_comm] using fails
          simp [position, ready, ← Option.not_isSome, rxBuf, none.2, here.received none.2, none.1,
            restAfter]

/-- Without the two words of a turbo turn, a word that is received in time is stored. -/
theorem pioReceive_plain (inTime : p.rxBuf.isSome = true → r.rxs p.received = true)
    (plain : ¬ (p.rxBuf.isSome = true ∧ p.c.toNat = k.bytes ∧ x.txBuf.isNone = true ∧
      isOn l chconfTurbo = true)) :
    (pioReceive x r l k p).2 = true ∧ (pioReceive x r l k p).1.c = p.c ∧
      (pioReceive x r l k p).1.sent = p.sent ∧
        (pioReceive x r l k p).1.rxBuf.isSome = p.rxBuf.isSome ∧
          (p.rxBuf.isSome = true → (pioReceive x r l k p).1.received = p.received + 1) := by
  unfold pioReceive
  by_cases receives : p.rxBuf.isSome = true
  · have stored : (pioStore r k p).rxBuf.isSome = p.rxBuf.isSome := Option.isSome_map
    rw [if_neg (not_isNone receives), if_pos (inTime receives),
      if_neg fun two => plain ⟨receives, two⟩]
    split
    · exact ⟨rfl, rfl, rfl, stored, fun _ => rfl⟩
    · exact ⟨rfl, rfl, rfl, stored, fun _ => rfl⟩
  · rw [if_pos (by simpa using receives)]
    exact ⟨rfl, rfl, rfl, rfl, fun some => absurd some receives⟩

/-- The two words of a turbo turn. -/
theorem pioReceive_turbo (receives : p.rxBuf.isSome = true) (two : p.c.toNat = k.bytes)
    (noTx : x.txBuf.isNone = true) (turbo : isOn l chconfTurbo = true)
    (first : r.rxs p.received = true) :
    (r.rxs (p.received + 1) = true → (pioReceive x r l k p).2 = true ∧
      (pioReceive x r l k p).1.c = 0 ∧ (pioReceive x r l k p).1.received = p.received + 2 ∧
        (pioReceive x r l k p).1.rxBuf.isSome = true) ∧
    (r.rxs (p.received + 1) = false →
      (pioReceive x r l k p).2 = false ∧ (pioReceive x r l k p).1.c = p.c) := by
  unfold pioReceive
  rw [if_neg (not_isNone receives), if_pos first, if_pos ⟨two, noTx, turbo⟩]
  have next : (pioStore r k (pioDisable p)).received = p.received + 1 := rfl
  constructor
  · intro last
    dsimp only
    rw [next, if_pos last]
    exact ⟨rfl, rfl, rfl, Option.isSome_map.trans (Option.isSome_map.trans receives)⟩
  · intro missing
    dsimp only
    rw [next, if_neg (by simp [missing])]
    exact ⟨rfl, rfl⟩

theorem pioTurn_of_sent (sent : (pioSend x r k { p with c := restAfter k p }).2 = true) :
    pioTurn x r l k p =
      pioReceive x r l k (pioSend x r k { p with c := restAfter k p }).1 := if_pos sent

theorem pioTurn_passes (here : Before x p i) (passes : WordPasses x r i)
    (plain : ¬ (TurboTail x l ∧ (restAfter k p).toNat = k.bytes)) :
    (pioTurn x r l k p).2 = true ∧ (pioTurn x r l k p).1.c = restAfter k p ∧
      Before x (pioTurn x r l k p).1 (i + 1) := by
  obtain ⟨goesOn, rxBuf, position, sent⟩ := pioSend_passes (k := k)
    (p := { p with c := restAfter k p }) ⟨here.sent, here.received, here.rxBuf⟩ passes
  have rest := pioSend_c x r k { p with c := restAfter k p }
  rw [pioTurn_of_sent goesOn]
  generalize (pioSend x r k { p with c := restAfter k p }).1 = q at *
  have some : q.rxBuf.isSome = x.rxBuf.isSome := (congrArg Option.isSome rxBuf).trans here.rxBuf
  have inTime : q.rxBuf.isSome = true → r.rxs q.received = true := by
    rw [some, position]
    intro receives
    rw [here.received receives]
    exact passes.2 receives
  obtain ⟨on, c, sentSame, rxSame, next⟩ := pioReceive_plain (x := x) (l := l) (k := k) inTime
    (by rw [rest, some]; exact fun two => plain ⟨⟨two.2.2.1, two.1, two.2.2.2⟩, two.2.1⟩)
  refine ⟨on, c.trans rest, fun sends => sentSame.trans (sent sends), fun receives => ?_,
    rxSame.trans some⟩
  rw [next (some.trans receives), position]
  exact congrArg (· + 1) (here.received receives)

/-- The turn that reads the last two words. -/
theorem pioTurn_turbo (here : Before x p i) (passes : WordPasses x r i) (tail : TurboTail x l)
    (two : (restAfter k p).toNat = k.bytes) :
    (WordPasses x r (i + 1) → (pioTurn x r l k p).2 = true ∧ (pioTurn x r l k p).1.c = 0 ∧
      Before x (pioTurn x r l k p).1 (i + 2)) ∧
    (¬ WordPasses x r (i + 1) →
      (pioTurn x r l k p).2 = false ∧ (pioTurn x r l k p).1.c = restAfter k p) := by
  obtain ⟨noTx, someRx, turbo⟩ := tail
  have none : x.txBuf = none := Option.isNone_iff_eq_none.mp noTx
  have position := here.received someRx
  have sent :
      pioSend x r k { p with c := restAfter k p } = ({ p with c := restAfter k p }, true) := by
    rw [pioSend, none]
  have turn := pioReceive_turbo (r := r) (l := l) (k := k) (p := { p with c := restAfter k p })
    (here.rxBuf.trans someRx) two noTx turbo (position.symm ▸ passes.2 someRx)
  rw [pioTurn_of_sent (by rw [sent]), sent]
  constructor
  · intro last
    obtain ⟨on, c, received, some⟩ := turn.1 (position.symm ▸ last.2 someRx)
    refine ⟨on, c, fun sends => ?_, fun _ => ?_, some.trans someRx.symm⟩
    · rw [none] at sends
      cases sends
    · exact received.trans (congrArg (· + 2) position)
  · intro missing
    have late : r.rxs (i + 1) = false := by
      by_contra inTime
      refine missing ⟨fun sends => ?_, fun _ => by simpa using inTime⟩
      rw [none] at sends
      cases sends
    exact turn.2 (position.symm ▸ late)

theorem restAfter_toNat {q rest : Nat} (left : p.c.toNat = k.bytes * (q + 1) + rest) :
    (restAfter k p).toNat = k.bytes * q + rest := by
  have fits : k.bytes ≤ p.c.toNat := by
    rw [left, Nat.mul_succ]
    omega
  have decrement : BitVec.ofNat 32 k.bytes ≤ p.c := by
    rw [BitVec.le_def, toNat_bytes]
    exact fits
  rw [restAfter, BitVec.toNat_sub_of_le decrement, toNat_bytes, left, Nat.mul_succ]
  omega

/-- One word is left for the second half of a turbo turn. -/
theorem two_words {q rest : Nat} (one : k.bytes = k.bytes * (q + 1) + rest) :
    q = 0 ∧ rest = 0 := by
  have positive := k.bytes_pos
  rw [Nat.mul_succ] at one
  rcases Nat.mul_eq_zero.mp (show k.bytes * q = 0 by omega) with zero | zero
  · omega
  · exact ⟨zero, by omega⟩

theorem pioLoop_of_stop (stop : ¬ ((pioTurn x r l k p).2 = true ∧
    k.bytes ≤ (pioTurn x r l k p).1.c.toNat)) : pioLoop x r l k p = pioTurn x r l k p := by
  rw [pioLoop, if_neg stop]

theorem pioLoop_of_next (on : (pioTurn x r l k p).2 = true)
    (left : k.bytes ≤ (pioTurn x r l k p).1.c.toNat) :
    pioLoop x r l k p = pioLoop x r l k (pioTurn x r l k p).1 := by
  rw [pioLoop, if_pos ⟨on, left⟩]

/-- Every word in time: the loop turns until less than a word is left. -/
theorem pioLoop_completes {q rest : Nat} (here : Before x p i)
    (left : p.c.toNat = k.bytes * (q + 1) + rest) (short : rest < k.bytes)
    (passes : ∀ j < q + 1, WordPasses x r (i + j)) :
    (pioLoop x r l k p).2 = true ∧ (pioLoop x r l k p).1.c.toNat = rest ∧
      Before x (pioLoop x r l k p).1 (i + (q + 1)) := by
  have positive := k.bytes_pos
  have after := restAfter_toNat left
  have first : WordPasses x r i := passes 0 (Nat.succ_pos q)
  induction q generalizing p i with
  | zero =>
      rw [Nat.mul_zero, Nat.zero_add] at after
      have plain : ¬ (TurboTail x l ∧ (restAfter k p).toNat = k.bytes) := by
        rw [after]
        exact fun two => short.ne two.2
      obtain ⟨on, c, next⟩ := pioTurn_passes here first plain
      rw [pioLoop_of_stop (by rw [c, after]; omega)]
      exact ⟨on, by rw [c, after], next⟩
  | succ q ih =>
      by_cases two : TurboTail x l ∧ (restAfter k p).toNat = k.bytes
      · obtain ⟨rfl, rfl⟩ := two_words (two.2.symm.trans after)
        obtain ⟨on, c, next⟩ := (pioTurn_turbo here first two.1 two.2).1 (passes 1 (by omega))
        have none : (pioTurn x r l k p).1.c.toNat = 0 := by rw [c]; rfl
        rw [pioLoop_of_stop (by omega)]
        exact ⟨on, none, next⟩
      · obtain ⟨on, c, next⟩ := pioTurn_passes here first two
        have more : (pioTurn x r l k p).1.c.toNat = k.bytes * (q + 1) + rest := by rw [c, after]
        have later : ∀ j < q + 1, WordPasses x r (i + 1 + j) := by
          intro j hj
          rw [Nat.add_assoc, Nat.add_comm 1]
          exact passes (j + 1) (Nat.succ_lt_succ hj)
        rw [pioLoop_of_next on (by rw [more, Nat.mul_succ]; omega),
          show i + (q + 1 + 1) = i + 1 + (q + 1) by omega]
        exact ih next more later (restAfter_toNat more) (later 0 (Nat.succ_pos q))

/-- The first word that is not in time ends the loop. The word of the turn is counted, but for the
second one of a turbo turn. -/
theorem pioLoop_fails {f q rest : Nat} (here : Before x p i)
    (left : p.c.toNat = k.bytes * (q + 1) + rest) (short : rest < k.bytes) (within : f ≤ q)
    (passes : ∀ j < f, WordPasses x r (i + j)) (fails : ¬ WordPasses x r (i + f)) :
    (pioLoop x r l k p).2 = false ∧ (pioLoop x r l k p).1.c.toNat =
      k.bytes * (q - f) + rest +
        if TurboTail x l ∧ f = q ∧ 0 < f ∧ rest = 0 then k.bytes else 0 := by
  have positive := k.bytes_pos
  have after := restAfter_toNat left
  induction f generalizing p i q with
  | zero =>
      obtain ⟨out, c⟩ := pioTurn_fails (l := l) (k := k) here fails
      rw [pioLoop_of_stop (by rw [out]; simp), if_neg (by omega), c, after]
      exact ⟨out, rfl⟩
  | succ f ih =>
      obtain ⟨q, rfl⟩ := Nat.exists_eq_add_of_le' (Nat.lt_of_lt_of_le (Nat.succ_pos f) within)
      have first : WordPasses x r i := passes 0 (Nat.succ_pos f)
      by_cases two : TurboTail x l ∧ (restAfter k p).toNat = k.bytes
      · obtain ⟨rfl, rfl⟩ := two_words (two.2.symm.trans after)
        obtain rfl : f = 0 := by omega
        obtain ⟨out, c⟩ := (pioTurn_turbo here first two.1 two.2).2 fails
        rw [pioLoop_of_stop (by rw [out]; simp), if_pos ⟨two.1, rfl, Nat.one_pos, rfl⟩, c, two.2]
        exact ⟨out, by simp⟩
      · obtain ⟨on, c, next⟩ := pioTurn_passes here first two
        have more : (pioTurn x r l k p).1.c.toNat = k.bytes * (q + 1) + rest := by rw [c, after]
        have later : ∀ j < f, WordPasses x r (i + 1 + j) := by
          intro j hj
          rw [Nat.add_assoc, Nat.add_comm 1]
          exact passes (j + 1) (Nat.succ_lt_succ hj)
        obtain ⟨out, counted⟩ := ih next more (Nat.le_of_succ_le_succ within) later
          (by rwa [Nat.add_assoc, Nat.add_comm 1]) (restAfter_toNat more)
        rw [pioLoop_of_next on (by rw [more, Nat.mul_succ]; omega), counted,
          Nat.add_sub_add_right]
        refine ⟨out, congrArg (k.bytes * (q - f) + rest + ·) (if_congr ?_ rfl rfl)⟩
        constructor
        · rintro ⟨tail, same, some, none⟩
          exact ⟨tail, by omega, by omega, none⟩
        · rintro ⟨tail, same, -, none⟩
          refine ⟨tail, by omega, Nat.pos_of_ne_zero fun zero => two ⟨tail, ?_⟩, none⟩
          rw [after, none, show q = 0 by omega]
          omega

/-- The turn of a word that is late reads nothing. -/
theorem pioTurn_late (here : Before x p i) (fails : ¬ WordPasses x r i)
    (receives : x.rxBuf.isSome = true) : (pioTurn x r l k p).1.received = i := by
  unfold pioTurn pioSend pioReceive
  have rxBuf := here.rxBuf
  have position := here.received receives
  cases tx : x.txBuf with
  | none =>
      have none : r.rxs i = false := by
        simpa [WordPasses, tx, receives] using fails
      simp [← Option.not_isSome, rxBuf, receives, position, none]
  | some m =>
      have sent := here.sent (by rw [tx]; rfl)
      cases ready : r.txs i with
      | false => simp [sent, ready, position]
      | true =>
          have none : r.rxs i = false := by
            simpa [WordPasses, tx, ready, receives] using fails
          simp [sent, ready, ← Option.not_isSome, rxBuf, receives, position, none]

/-- The words before the first one that is late have been read, and no others. -/
theorem pioLoop_late {f q rest : Nat} (here : Before x p i)
    (left : p.c.toNat = k.bytes * (q + 1) + rest) (within : f ≤ q)
    (passes : ∀ j < f, WordPasses x r (i + j)) (fails : ¬ WordPasses x r (i + f))
    (plain : ¬ TurboTail x l) (receives : x.rxBuf.isSome = true) :
    (pioLoop x r l k p).1.received = i + f := by
  have positive := k.bytes_pos
  have after := restAfter_toNat left
  induction f generalizing p i q with
  | zero =>
      have out := (pioTurn_fails (l := l) (k := k) here fails).1
      rw [pioLoop_of_stop (by rw [out]; simp)]
      exact pioTurn_late here fails receives
  | succ f ih =>
      obtain ⟨q, rfl⟩ := Nat.exists_eq_add_of_le' (Nat.lt_of_lt_of_le (Nat.succ_pos f) within)
      have first : WordPasses x r i := passes 0 (Nat.succ_pos f)
      obtain ⟨on, c, next⟩ := pioTurn_passes (l := l) (k := k) here first fun two => plain two.1
      have more : (pioTurn x r l k p).1.c.toNat = k.bytes * (q + 1) + rest := by rw [c, after]
      have later : ∀ j < f, WordPasses x r (i + 1 + j) := by
        intro j hj
        rw [Nat.add_assoc, Nat.add_comm 1]
        exact passes (j + 1) (Nat.succ_lt_succ hj)
      rw [pioLoop_of_next on (by rw [more, Nat.mul_succ]; omega), Nat.add_comm f, ← Nat.add_assoc]
      exact ih next more (Nat.le_of_succ_le_succ within) later
        (by rwa [Nat.add_assoc, Nat.add_comm 1]) (restAfter_toNat more)

theorem pioSend_room : (pioSend x r k p).1.received = p.received ∧
    p.sent ≤ (pioSend x r k p).1.sent ∧ (pioSend x r k p).1.sent ≤ p.sent + 1 := by
  unfold pioSend
  split
  · exact ⟨rfl, Nat.le_refl _, Nat.le_succ _⟩
  · split
    · exact ⟨rfl, Nat.le_succ _, Nat.le_refl _⟩
    · exact ⟨rfl, Nat.le_refl _, Nat.le_succ _⟩

/-- A turbo turn reads one word for the decrement and one for what it takes off itself. -/
theorem pioReceive_room : (pioReceive x r l k p).1.sent = p.sent ∧
    p.received ≤ (pioReceive x r l k p).1.received ∧
      k.bytes * (pioReceive x r l k p).1.received + (pioReceive x r l k p).1.c.toNat ≤
        k.bytes * (p.received + 1) + p.c.toNat := by
  have next : k.bytes * (p.received + 1) = k.bytes * p.received + k.bytes := Nat.mul_succ _ _
  have second : k.bytes * (p.received + 1 + 1) = k.bytes * (p.received + 1) + k.bytes :=
    Nat.mul_succ _ _
  unfold pioReceive
  dsimp only
  split_ifs with none first two last
  · exact ⟨rfl, Nat.le_refl _, by dsimp only; omega⟩
  · refine ⟨rfl, Nat.le_add_right _ 2, ?_⟩
    change k.bytes * (p.received + 1 + 1) + 0 ≤ _
    omega
  · exact ⟨rfl, Nat.le_succ _, Nat.le_refl _⟩
  · exact ⟨rfl, Nat.le_succ _, Nat.le_refl _⟩
  · exact ⟨rfl, Nat.le_succ _, Nat.le_refl _⟩
  · exact ⟨rfl, Nat.le_refl _, by dsimp only; omega⟩

theorem pioTurn_eq : pioTurn x r l k p =
    if (pioSend x r k { p with c := restAfter k p }).2 then
      pioReceive x r l k (pioSend x r k { p with c := restAfter k p }).1
    else pioSend x r k { p with c := restAfter k p } := rfl

theorem pioTurn_mono : p.sent ≤ (pioTurn x r l k p).1.sent ∧
    p.received ≤ (pioTurn x r l k p).1.received := by
  obtain ⟨same, sent, -⟩ := pioSend_room (x := x) (r := r) (k := k)
    (p := { p with c := restAfter k p })
  rw [pioTurn_eq]
  generalize pioSend x r k { p with c := restAfter k p } = q at *
  obtain ⟨same', received, -⟩ := pioReceive_room (x := x) (r := r) (l := l) (k := k) (p := q.1)
  split
  · exact ⟨sent.trans same'.ge, same.ge.trans received⟩
  · exact ⟨sent, same.ge⟩

theorem pioLoop_mono : p.sent ≤ (pioLoop x r l k p).1.sent ∧
    p.received ≤ (pioLoop x r l k p).1.received := by
  induction p using pioLoop.induct x r l k with
  | case1 p goesOn ih =>
      rw [pioLoop, if_pos goesOn]
      have turn := pioTurn_mono (x := x) (r := r) (l := l) (k := k) (p := p)
      exact ⟨turn.1.trans ih.1, turn.2.trans ih.2⟩
  | case2 p stops =>
      rw [pioLoop_of_stop stops]
      exact pioTurn_mono

/-- What has been moved and what is left make no more than at the beginning. -/
theorem pioTurn_room (fits : k.bytes ≤ p.c.toNat) :
    k.bytes * (pioTurn x r l k p).1.sent + (pioTurn x r l k p).1.c.toNat ≤
        k.bytes * p.sent + p.c.toNat ∧
      k.bytes * (pioTurn x r l k p).1.received + (pioTurn x r l k p).1.c.toNat ≤
        k.bytes * p.received + p.c.toNat := by
  have decrement : (restAfter k p).toNat + k.bytes = p.c.toNat := by
    have less : BitVec.ofNat 32 k.bytes ≤ p.c := by
      rw [BitVec.le_def, toNat_bytes]
      exact fits
    rw [restAfter, BitVec.toNat_sub_of_le less, toNat_bytes]
    exact Nat.sub_add_cancel fits
  obtain ⟨same, -, sent⟩ := pioSend_room (x := x) (r := r) (k := k)
    (p := { p with c := restAfter k p })
  have rest : (pioSend x r k { p with c := restAfter k p }).1.c = restAfter k p :=
    pioSend_c x r k _
  rw [pioTurn_eq]
  generalize pioSend x r k { p with c := restAfter k p } = q at *
  obtain ⟨same', -, received⟩ := pioReceive_room (x := x) (r := r) (l := l) (k := k) (p := q.1)
  have less : (pioReceive x r l k q.1).1.c.toNat ≤ q.1.c.toNat := by
    rcases pioReceive_c x r l k q.1 with same | zero
    · rw [same]
    · rw [zero]
      exact Nat.zero_le _
  have sentBytes : k.bytes * q.1.sent ≤ k.bytes * p.sent + k.bytes :=
    Nat.mul_le_mul_left k.bytes sent
  dsimp only at same
  rw [Nat.mul_succ, same, rest] at received
  rw [rest] at less
  split
  · rw [same']
    exact ⟨by omega, by omega⟩
  · rw [same, rest]
    exact ⟨by omega, by omega⟩

theorem pioLoop_room (fits : k.bytes ≤ p.c.toNat) :
    k.bytes * (pioLoop x r l k p).1.sent ≤ k.bytes * p.sent + p.c.toNat ∧
      k.bytes * (pioLoop x r l k p).1.received ≤ k.bytes * p.received + p.c.toNat := by
  induction p using pioLoop.induct x r l k with
  | case1 p goesOn ih =>
      rw [pioLoop, if_pos goesOn]
      have turn := pioTurn_room (x := x) (r := r) (l := l) fits
      have rest := ih goesOn.2
      exact ⟨rest.1.trans turn.1, rest.2.trans turn.2⟩
  | case2 p stops =>
      rw [pioLoop_of_stop stops]
      have turn := pioTurn_room (x := x) (r := r) (l := l) fits
      exact ⟨Nat.le_of_add_right_le turn.1, Nat.le_of_add_right_le turn.2⟩

end counting

end Gumstix.Mcspi
