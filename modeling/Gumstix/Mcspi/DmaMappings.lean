import Gumstix.Mcspi.MessageRuns

/-!
# Mappings for the DMA

The validation maps the buffers of the long transfers, and the DMA undoes the mappings of each
transfer that it makes. What is mapped beyond the end of the work stays mapped; a message that its
sender has mapped loses the mappings of the sender.
-/
namespace Gumstix.Mcspi
open Gumstix.Synchronization (Word)

/-- The mappings that are made for a transfer. -/
def mappedBy (isDmaMapped : Bool) (x : Transfer) (i : Nat) : List Mapping :=
  if isDmaMapped ∨ x.len < dmaMinBytes then [] else mappingsOf x i

/-- The mappings that are made for the transfers from number `i` on. -/
def made (isDmaMapped : Bool) (transfers : List (Transfer × Nat)) : List Mapping :=
  transfers.flatMap fun p => mappedBy isDmaMapped p.1 p.2

/-- A transfer that is not refused, with its number. -/
def acceptable (isDmaMapped : Bool) (maps : Mapping → Bool) (p : Transfer × Nat) : Bool :=
  !p.1.invalid && (mappedBy isDmaMapped p.1 p.2).all maps

section validation
variable {isDmaMapped : Bool} {maps : Mapping → Bool} {x : Transfer} {i : Nat} {a : Mappings}

/-- Either all buffers of a transfer are mapped, or the mappings made for it are undone. -/
theorem mapTransfer_spec (maps : Mapping → Bool) (x : Transfer) (i : Nat) (a : Mappings) :
    ((mappingsOf x i).all maps = true ∧
      mapTransfer maps x i a = (⟨a.mapped ++ mappingsOf x i, a.unmapped⟩, true)) ∨
    ((mappingsOf x i).all maps = false ∧ ∃ tail,
      mapTransfer maps x i a = (⟨a.mapped ++ tail, a.unmapped ++ tail⟩, false)) := by
  have nothing : ∃ tail, a = ⟨a.mapped ++ tail, a.unmapped ++ tail⟩ := ⟨[], by simp⟩
  unfold mapTransfer mappingsOf
  cases tx : maps (i, .toDevice) <;> cases rx : maps (i, .fromDevice) <;>
    cases x.txBuf.isSome <;> cases x.rxBuf.isSome <;> simp [tx, rx, nothing]

theorem validate_accepted {transfers : List Transfer}
    (all : (validate isDmaMapped maps transfers i a).2 = true) :
    (validate isDmaMapped maps transfers i a).1 =
      ⟨a.mapped ++ made isDmaMapped (transfers.zipIdx i), a.unmapped⟩ := by
  induction transfers generalizing i a with
  | nil => simp [validate, made]
  | cons x transfers ih =>
      rw [validate] at all ⊢
      split at all
      · cases all
      · rename_i valid
        rw [if_neg valid]
        split at all
        · rename_i short
          rw [if_pos short, ih all]
          simp [made, mappedBy, short]
        · rename_i long
          rw [if_neg long]
          dsimp only at all ⊢
          rcases mapTransfer_spec maps x i a with ⟨-, mapped⟩ | ⟨-, tail, refused⟩
          · rw [mapped] at all ⊢
            rw [if_pos rfl] at all ⊢
            rw [ih all]
            simp only [made, mappedBy, List.zipIdx_cons, List.flatMap_cons, if_neg long,
              List.append_assoc]
          · rw [refused] at all
            cases all

theorem validate_refused {transfers : List Transfer}
    (refused : (validate isDmaMapped maps transfers i a).2 = false) :
    ∃ tail, (validate isDmaMapped maps transfers i a).1 =
      ⟨a.mapped ++ made isDmaMapped
        ((transfers.zipIdx i).takeWhile (acceptable isDmaMapped maps)) ++ tail,
        a.unmapped ++ tail⟩ := by
  induction transfers generalizing i a with
  | nil => cases refused
  | cons x transfers ih =>
      rw [validate] at refused ⊢
      split at refused
      · rename_i invalid
        refine ⟨[], ?_⟩
        rw [if_pos invalid]
        simp [made, acceptable, invalid]
      · rename_i valid
        rw [if_neg valid]
        split at refused
        · rename_i short
          obtain ⟨tail, rest⟩ := ih refused
          refine ⟨tail, ?_⟩
          rw [if_pos short, rest]
          simp [made, mappedBy, acceptable, valid, short]
        · rename_i long
          rw [if_neg long]
          dsimp only at refused ⊢
          rcases mapTransfer_spec maps x i a with ⟨all, mapped⟩ | ⟨all, tail, mapped⟩
          · rw [mapped] at refused ⊢
            rw [if_pos rfl] at refused ⊢
            obtain ⟨tail, rest⟩ := ih refused
            refine ⟨tail, ?_⟩
            rw [rest]
            have accepted : acceptable isDmaMapped maps (x, i) = true := by
              simp [acceptable, valid, mappedBy, long, all]
            simp only [made, mappedBy, List.zipIdx_cons, List.takeWhile_cons_of_pos accepted,
              List.flatMap_cons, if_neg long, List.append_assoc]
          · refine ⟨tail, ?_⟩
            have not : ¬ acceptable isDmaMapped maps (x, i) = true := by
              simp [acceptable, valid, mappedBy, long, all]
            rw [mapped, List.zipIdx_cons, List.takeWhile_cons_of_neg not]
            simp [made]

end validation

/-- Exactly what has been mapped has been undone. -/
def Mappings.Balanced (a : Mappings) : Prop := a.mapped.Perm a.unmapped

section balance
variable {d : SpiDevice} {c : Channel} {isDmaMapped : Bool} {x : Transfer}

theorem perm_append_iff {α : Type*} {l tail : List α} : (l ++ tail).Perm tail ↔ l = [] := by
  constructor
  · intro perm
    have length := perm.length_eq
    rw [List.length_append] at length
    exact List.eq_nil_of_length_eq_zero (by omega)
  · rintro rfl
    exact .refl _

theorem append_perm_iff {α : Type*} {l tail : List α} : (l ++ tail).Perm l ↔ tail = [] :=
  ⟨fun perm => perm_append_iff.mp (List.perm_append_comm.trans perm),
    fun none => by rw [none, List.append_nil]⟩

/-- A transfer of some length that is not refused has a buffer. -/
theorem mappingsOf_ne_nil (valid : x.invalid = false) (some : x.len ≠ 0) (i : Nat) :
    mappingsOf x i ≠ [] := by
  simp only [Transfer.invalid, decide_eq_false_iff_not, not_or, not_and, not_not] at valid
  have buffers := valid.2.1 some
  unfold mappingsOf
  cases tx : x.txBuf.isSome <;> cases rx : x.rxBuf.isSome <;> simp_all

theorem len_ne_zero_of_long (long : ¬ x.len < dmaMinBytes) : x.len ≠ 0 := by
  intro zero
  rw [zero] at long
  exact long (by decide)

theorem made_eq_nil_iff {transfers : List (Transfer × Nat)}
    (valid : ∀ p ∈ transfers, p.1.invalid = false) :
    made isDmaMapped transfers = [] ↔
      isDmaMapped = true ∨ ∀ p ∈ transfers, p.1.len < dmaMinBytes := by
  rw [made, List.flatMap_eq_nil_iff]
  constructor
  · intro none
    refine or_iff_not_imp_left.mpr fun unmapped p member => ?_
    by_contra long
    have mappings := none p member
    rw [mappedBy, if_neg (not_or.mpr ⟨unmapped, long⟩)] at mappings
    exact mappingsOf_ne_nil (valid p member) (len_ne_zero_of_long long) p.2 mappings
  · rintro (mapped | short) p member
    · exact if_pos (.inl mapped)
    · exact if_pos (.inr (short p member))

/-- Without mappings of the sender, the DMA undoes what the validation maps. -/
theorem unmappedBy_false (x : Transfer) (i : Nat) : unmappedBy false x i = mappedBy false x i := by
  unfold unmappedBy mappedBy
  by_cases short : x.len < dmaMinBytes
  · have none : ¬ (x.len ≠ 0 ∧ (false = true ∨ dmaMinBytes ≤ x.len)) := by
      rintro ⟨-, mapped | long⟩
      · cases mapped
      · exact BitVec.not_lt.mpr long short
    rw [if_neg none, if_pos (.inr short)]
  · rw [if_neg (not_or.mpr ⟨Bool.false_ne_true, short⟩),
      if_pos ⟨len_ne_zero_of_long short, .inr (BitVec.not_lt.mp short)⟩]

theorem undone_false (transfers : List Transfer) (i : Nat) :
    undone false transfers i = made false (transfers.zipIdx i) := by
  simp only [undone, made, unmappedBy_false]

theorem forall_zipIdx {α : Type*} {P : α → Prop} {l : List α} (i : Nat) :
    (∀ p ∈ l.zipIdx i, P p.1) ↔ ∀ x ∈ l, P x := by
  conv_rhs => rw [← List.zipIdx_map_fst i l]
  exact List.forall_mem_map.symm

/-- For the transfers that its sender has mapped, the DMA undoes the mappings of the sender. -/
theorem undone_true_eq_nil_iff {transfers : List Transfer} {i : Nat}
    (valid : ∀ x ∈ transfers, x.invalid = false) :
    undone true transfers i = [] ↔ ∀ x ∈ transfers, x.len = 0 := by
  rw [undone, List.flatMap_eq_nil_iff]
  refine Iff.trans (forall₂_congr fun p member => ?_)
    (forall_zipIdx (P := fun x : Transfer => x.len = 0) i)
  rw [unmappedBy]
  constructor
  · intro none
    by_contra some
    rw [if_pos ⟨some, .inl rfl⟩] at none
    exact mappingsOf_ne_nil ((forall_zipIdx i).mpr valid p member) some p.2 none
  · exact fun empty => if_neg fun both => both.1 empty

/-- The condition on a message under which its mappings are balanced. If it is refused, no long
transfer stands before the one that is refused. If it is accepted, none stands behind the last one
that has been made; and if its sender has mapped it, no transfer with words has been made at all. -/
def Request.KeepsMappings (d : SpiDevice) (q : Request) : Prop :=
  if q.accepted then
    if q.message.isDmaMapped then
      ∀ x ∈ q.message.transfers.take (q.meaning d).rxBufs.length, x.len = 0
    else ∀ x ∈ q.message.transfers.drop (q.meaning d).rxBufs.length, x.len < dmaMinBytes
  else q.message.isDmaMapped = true ∨ ∀ p ∈ q.message.transfers.zipIdx.takeWhile
    (acceptable q.message.isDmaMapped q.maps), p.1.len < dmaMinBytes

theorem mappings_of_accepted (device : ValidWordLen (wordLenOf d none)) (h : Idle d c)
    {q : Request} (accepted : q.accepted = true) :
    (transferRequest d q c).mappings = ⟨made q.message.isDmaMapped q.message.transfers.zipIdx,
      undone q.message.isDmaMapped (q.message.transfers.take (q.meaning d).rxBufs.length) 0⟩ := by
  obtain ⟨-, -, -, -, -, -, unmapped⟩ :=
    omap2McspiWork_spec device h (validTransfer_of_accepted device accepted) q.replies
  rw [transferRequest_accepted accepted]
  dsimp only
  rw [validate_accepted (of_decide_eq_true accepted).2, unmapped]
  rfl

theorem mappings_of_refused {q : Request} (refused : q.accepted = false) :
    ∃ tail, (transferRequest d q c).mappings =
      ⟨made q.message.isDmaMapped (q.message.transfers.zipIdx.takeWhile
        (acceptable q.message.isDmaMapped q.maps)) ++ tail, tail⟩ := by
  have not := of_decide_eq_false refused
  rw [transferRequest, transferOneMessage]
  split
  · rename_i none
    rw [none]
    exact ⟨[], rfl⟩
  · rename_i some
    have invalid := eq_false_of_ne_true fun valid => not ⟨some, valid⟩
    dsimp only
    rw [if_neg (ne_true_of_eq_false invalid)]
    exact validate_refused invalid

/-- The mappings of a single message. -/
theorem balanced_iff (device : ValidWordLen (wordLenOf d none)) (h : Idle d c) (q : Request) :
    (transferRequest d q c).mappings.Balanced ↔ q.KeepsMappings d := by
  unfold Request.KeepsMappings Mappings.Balanced
  cases accepted : q.accepted with
  | false =>
      obtain ⟨tail, mappings⟩ := mappings_of_refused (d := d) (c := c) accepted
      rw [mappings, if_neg Bool.false_ne_true, perm_append_iff, made_eq_nil_iff]
      intro p member
      have valid := List.all_eq_true.mp List.all_takeWhile p member
      rw [acceptable, Bool.and_eq_true, Bool.not_eq_true'] at valid
      exact valid.1
  | true =>
      have valid := valid_of_validate (of_decide_eq_true accepted).2
      rw [mappings_of_accepted device h accepted, if_pos rfl]
      dsimp only
      generalize (q.meaning d).rxBufs.length = n
      cases mapped : q.message.isDmaMapped with
      | false =>
          rw [if_neg Bool.false_ne_true, undone_false]
          have parts : made false q.message.transfers.zipIdx =
              made false ((q.message.transfers.take n).zipIdx 0) ++
                made false ((q.message.transfers.drop n).zipIdx
                  (0 + (q.message.transfers.take n).length)) := by
            rw [made, made, made, ← List.flatMap_append, ← List.zipIdx_append,
              List.take_append_drop]
          have rest : ∀ x ∈ q.message.transfers.drop n, x.invalid = false := fun x member =>
            valid x (List.mem_of_mem_drop member)
          rw [parts, append_perm_iff, made_eq_nil_iff ((forall_zipIdx _).mpr rest)]
          exact (or_iff_right Bool.false_ne_true).trans
            (forall_zipIdx (P := fun x : Transfer => x.len < dmaMinBytes) _)
      | true =>
          have none : made true q.message.transfers.zipIdx = [] :=
            List.flatMap_eq_nil_iff.mpr fun p _ => if_pos (.inl rfl)
          rw [if_pos rfl, none, List.nil_perm]
          exact undone_true_eq_nil_iff fun x member => valid x (List.mem_of_mem_take member)

/-- In any run of messages, each message has exactly its mappings undone if and only if each meets
the condition. -/
theorem mappings_balanced_iff (device : ValidWordLen (wordLenOf d none)) (h : Idle d c)
    (requests : List Request) :
    (∀ result ∈ (transferRequests d requests c).1, result.mappings.Balanced) ↔
      ∀ q ∈ requests, q.KeepsMappings d := by
  induction requests generalizing c with
  | nil => exact ⟨nofun, nofun⟩
  | cons q requests ih =>
      have idle := (transferRequest_spec device h q).1
      rw [transferRequests, List.forall_mem_cons, List.forall_mem_cons, ih idle,
        balanced_iff device h q]

/-- A message that its sender has mapped loses these mappings. -/
theorem mappings_balanced_iff_senderMapped :
    ¬ ∀ result ∈ (transferRequests sixteenBits
      [⟨⟨[threeWords], true⟩, fun _ => true, fun _ => .prompt fun _ => 7⟩]
      (newChannel sixteenBits)).1, result.mappings.Balanced := by
  intro balanced
  have keeps := (mappings_balanced_iff (d := sixteenBits) (by decide)
    (idle_newChannel (by decide)) _).mp balanced _ List.mem_cons_self
  have empty : ∀ x ∈ [threeWords], x.len = 0 := keeps
  exact absurd (empty threeWords List.mem_cons_self) (by decide)

end balance

end Gumstix.Mcspi
