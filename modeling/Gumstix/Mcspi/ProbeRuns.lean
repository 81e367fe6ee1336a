import Gumstix.Mcspi.Probe

/-!
# Runs of probes and removals

A failed probe has released what it has allocated, but for one that fails at the registration, which
releases the master twice. A probe that finds no memory for its table or cannot enable the clocks
reports success all the same, and the next removal has no master to remove. Each removal takes from
the count of the power management what nobody has added to it.
-/
namespace Gumstix.Mcspi
open Gumstix.Synchronization (Word)

section cases
variable {s : PlatformDevice} {d : Description} {r : ProbeReplies}

/-- The heap of a probe with the master, and with its table. -/
def masterHeap (s : PlatformDevice) : BlockHeap Unit := s.heap.alloc ()

def tableHeap (s : PlatformDevice) : BlockHeap Unit := (masterHeap s).alloc ()

/-- What the ways out of a probe leave behind. -/
structure ProbeLeaves (s : PlatformDevice) (d : Description) (r : ProbeReplies)
    (left : PlatformDevice × Int) : Prop where
  start : left.1.start = s.start + if r.masterAllocated ∧ r.memory then d.regsOffset else 0
  usage : left.1.usage = s.usage + if r.case d.numCs = .noClocks then 1 else 0
  way : match r.case d.numCs with
    | .noMaster => left.1.heap = s.heap ∧ left.1.drvdata = s.drvdata ∧ left.2 < 0
    | .failed => (left.1.heap = (masterHeap s).free s.heap.fresh ∨
          left.1.heap = ((tableHeap s).free (masterHeap s).fresh).free s.heap.fresh) ∧
        left.1.drvdata = none ∧ left.2 < 0
    | .silent => left.1.heap = (masterHeap s).free s.heap.fresh ∧ left.1.drvdata = none ∧
        left.2 = 0
    | .noClocks => left.1.heap = ((tableHeap s).free (masterHeap s).fresh).free s.heap.fresh ∧
        left.1.drvdata = none ∧ left.2 = 0
    | .notRegistered => left.1.heap =
          (((tableHeap s).free s.heap.fresh).free (masterHeap s).fresh).free s.heap.fresh ∧
        left.1.drvdata = none ∧ left.2 = r.registers ∧ left.2 < 0
    | .succeeded => left.1.heap = tableHeap s ∧ left.2 = r.registers ∧ 0 ≤ left.2 ∧
        ∃ m, left.1.drvdata = some m ∧ m.master = s.heap.fresh ∧
          m.dmaChannels = some (masterHeap s).fresh ∧ m.phys = left.1.start ∧
            m.numChipselect = d.numCs

theorem allocMaster_eq (s : PlatformDevice) (d : Description) : ∃ busNum busNum',
    allocMaster s d = ({ s with heap := masterHeap s, busNum := busNum },
      ⟨s.heap.fresh, d.numCs, busNum', 0, none⟩) := by
  cases d <;> exact ⟨_, _, rfl⟩

/-- The end of a probe that has its table. -/
theorem probeDma_leaves {s' : PlatformDevice} {m : Master}
    (granted : r.masterAllocated = true ∧ r.memory = true ∧ r.ioremap = true ∧
      r.dmaAllocated = true)
    (start : s'.start = s.start + d.regsOffset) (usage : s'.usage = s.usage)
    (heap : s'.heap = tableHeap s) (master : m.master = s.heap.fresh)
    (numCs : m.numChipselect = d.numCs) (table : m.dmaChannels = some (masterHeap s).fresh)
    (phys : m.phys = s'.start) : ProbeLeaves s d r (probeDma s' m r) := by
  obtain ⟨masterAllocated, memory, ioremap, dmaAllocated⟩ := granted
  have place : s'.start = s.start + if r.masterAllocated ∧ r.memory then d.regsOffset else 0 := by
    rw [if_pos ⟨masterAllocated, memory⟩]
    exact start
  have count : ∀ {way : ProbeCase}, r.case d.numCs = way → way ≠ .noClocks →
      s'.usage = s.usage + if r.case d.numCs = .noClocks then 1 else 0 := by
    intro way same other
    rw [if_neg (same ▸ other), usage, Int.add_zero]
  unfold probeDma
  rw [numCs]
  by_cases resources : r.dmaResources d.numCs = true
  · rw [if_neg (not_not.mpr resources)]
    dsimp only
    by_cases clocks : r.clocks < 0
    · have way : r.case d.numCs = .noClocks := by
        simp [ProbeReplies.case, *]
      rw [if_pos clocks]
      refine ⟨place, ?_, ?_⟩
      · rw [way]
        exact congrArg (· + 1) usage
      · rw [way]
        refine ⟨?_, rfl, rfl⟩
        dsimp only [disablePm, dmaChnlFree, freeMaster]
        rw [heap, master, table]
        rfl
    · rw [if_neg clocks]
      by_cases registers : r.registers < 0
      · have way : r.case d.numCs = .notRegistered := by
          simp [ProbeReplies.case, *]
        rw [if_pos registers]
        refine ⟨place, (Int.add_sub_cancel _ _).trans (count way (by decide)), ?_⟩
        rw [way]
        refine ⟨?_, rfl, rfl, registers⟩
        dsimp only [errSpiRegister, disablePm, dmaChnlFree, freeMaster]
        rw [heap, master, table]
        rfl
      · have way : r.case d.numCs = .succeeded := by
          simp [ProbeReplies.case, *]
        rw [if_neg registers]
        refine ⟨place, (Int.add_sub_cancel _ _).trans (count way (by decide)), ?_⟩
        rw [way]
        exact ⟨heap, rfl, Int.not_lt.mp registers, m, rfl, master, table, phys, numCs⟩
  · have way : r.case d.numCs = .failed := by
      simp [ProbeReplies.case, *]
    rw [if_pos resources]
    refine ⟨place, count way (by decide), ?_⟩
    rw [way]
    refine ⟨.inr ?_, rfl, (by decide : -enodev < 0)⟩
    dsimp only [dmaChnlFree, freeMaster]
    rw [heap, master, table]
    rfl

theorem probe_leaves (s : PlatformDevice) (d : Description) (r : ProbeReplies) :
    ProbeLeaves s d r (omap2McspiProbe s d r) := by
  obtain ⟨busNum, busNum', allocated⟩ := allocMaster_eq s d
  have least : ∀ n : Int, 0 < n → -n < 0 := fun n positive => by omega
  unfold omap2McspiProbe probeMaster
  dsimp only
  rw [allocated]
  by_cases masterAllocated : r.masterAllocated = true
  swap
  · have way : r.case d.numCs = .noMaster := by
      simp [ProbeReplies.case, *]
    rw [if_pos masterAllocated]
    refine ⟨by simp [masterAllocated], by simp [way], ?_⟩
    rw [way]
    exact ⟨rfl, rfl, least 12 (by decide)⟩
  rw [if_neg (not_not.mpr masterAllocated)]
  by_cases memory : r.memory = true
  swap
  · have way : r.case d.numCs = .failed := by
      simp [ProbeReplies.case, *]
    rw [if_pos memory]
    refine ⟨by simp [memory, freeMaster], by simp [way, freeMaster], ?_⟩
    rw [way]
    exact ⟨.inl rfl, rfl, least 19 (by decide)⟩
  rw [if_neg (not_not.mpr memory)]
  dsimp only
  by_cases ioremap : r.ioremap = true
  swap
  · have way : r.case d.numCs = .failed := by
      simp [ProbeReplies.case, *]
    rw [if_pos ioremap]
    refine ⟨by simp [masterAllocated, memory, freeMaster], by simp [way, freeMaster], ?_⟩
    rw [way]
    exact ⟨.inl rfl, rfl, least 12 (by decide)⟩
  rw [if_neg (not_not.mpr ioremap)]
  by_cases dmaAllocated : r.dmaAllocated = true
  swap
  · have way : r.case d.numCs = .silent := by
      simp [ProbeReplies.case, *]
    rw [if_pos dmaAllocated]
    refine ⟨by simp [masterAllocated, memory, freeMaster], by simp [way, freeMaster], ?_⟩
    rw [way]
    exact ⟨rfl, rfl, rfl⟩
  rw [if_neg (not_not.mpr dmaAllocated)]
  exact probeDma_leaves ⟨masterAllocated, memory, ioremap, dmaAllocated⟩ rfl rfl rfl rfl rfl rfl rfl

end cases

section runs
variable {s : PlatformDevice} {d : Description} {e : DeviceEvent} {es : List DeviceEvent}
  {start : Word}

/-- A probe that reports success without a controller. -/
def Silent (d : Description) : DeviceEvent → Prop
  | .probe r => r.case d.numCs = .silent ∨ r.case d.numCs = .noClocks
  | .remove => False

/-- A bound device has a master. -/
def Removable (s : PlatformDevice) : Prop := s.bound = true → s.drvdata.isSome = true

/-- A device is bound exactly while it has a master. -/
def Mastered (s : PlatformDevice) : Prop := s.bound = s.drvdata.isSome

theorem drvdata_of_unbound (h : Mastered s) (unbound : s.bound = false) : s.drvdata = none :=
  Option.not_isSome_iff_eq_none.mp (by rw [← h, unbound]; exact Bool.false_ne_true)

theorem mastered_next (h : Mastered s) (enabled : deviceEnabled s e) (loud : ¬ Silent d e) :
    Mastered (deviceNext d s e) := by
  unfold Mastered at *
  cases e with
  | probe r =>
      obtain ⟨-, -, way⟩ := probe_leaves s d r
      have none := drvdata_of_unbound h enabled.1
      dsimp only [deviceNext]
      generalize omap2McspiProbe s d r = left at way ⊢
      cases case : r.case d.numCs <;> rw [case] at way
      case noMaster => simp [way.2.1, none, Int.ne_of_lt way.2.2]
      case failed => simp [way.2.1, Int.ne_of_lt way.2.2]
      case silent => exact absurd (.inl case) loud
      case noClocks => exact absurd (.inr case) loud
      case notRegistered => simp [way.2.1, Int.ne_of_lt way.2.2.2]
      case succeeded =>
        obtain ⟨-, status, ok, m, master, -⟩ := way
        have zero : left.2 = 0 := Int.le_antisymm (status ▸ enabled.2) ok
        simp [zero, master]
  | remove =>
      have some : s.drvdata.isSome = true := h ▸ enabled
      obtain ⟨m, isM⟩ := Option.isSome_iff_exists.mp some
      dsimp only [deviceNext]
      rw [isM]
      rfl

theorem not_removable_of_silent (silent : Silent d e) : ¬ Removable (deviceNext d s e) := by
  cases e with
  | probe r =>
      obtain ⟨-, -, way⟩ := probe_leaves s d r
      unfold Removable
      dsimp only [deviceNext]
      generalize omap2McspiProbe s d r = left at way ⊢
      rcases silent with case | case <;> rw [case] at way <;> simp [way.2.1, way.2.2]
  | remove => exact silent.elim

/-- A removal always finds a master if and only if no probe has failed on its table or on the
clocks: these report success. -/
theorem removals_find_master_iff
    (admits : (deviceMachine d).Admits (unprobed start) es) :
    (deviceMachine d).Always Removable (unprobed start) es ↔
      (deviceMachine d).EveryStep (fun _ e => ¬ Silent d e) (unprobed start) es :=
  EventMachine.always_iff_everyStep (I := Mastered) (P := Removable) (C := fun _ e => ¬ Silent d e)
    (fun _ h bound => h.symm.trans bound) (fun _ _ => mastered_next)
    (fun _ _ _ _ removable silent => not_removable_of_silent silent removable)
    (rfl : Mastered (unprobed start)) admits

/-- Nothing fails. -/
def allGranted : ProbeReplies := ⟨true, true, true, true, fun _ _ => true, 0, 0⟩

/-- A probe without a table. -/
theorem removals_find_master_iff_noTable : ¬ (deviceMachine (.node none 0)).Always Removable
    (unprobed 0) [.probe { allGranted with dmaAllocated := false }] := by
  intro always
  have admits : (deviceMachine (.node none 0)).Admits (unprobed 0)
      [.probe { allGranted with dmaAllocated := false }] := ⟨⟨rfl, Int.le_refl 0⟩, trivial⟩
  exact ((removals_find_master_iff admits).mp always).1 (.inl rfl)

/-- The blocks that a device still needs. -/
def PlatformDevice.blocks (s : PlatformDevice) : List Nat :=
  match s.drvdata with
  | none => []
  | some m => m.dmaChannels.toList ++ [m.master]

/-- The blocks of a bound device are allocated and all others have been freed once. -/
def Tidy (s : PlatformDevice) : Prop := s.heap.Accounts s.blocks

/-- A probe that comes to the registration and fails there. -/
def Unregistered (d : Description) : DeviceEvent → Prop
  | .probe r => r.case d.numCs = .notRegistered
  | .remove => False

structure TidyInv (s : PlatformDevice) : Prop where
  tidy : Tidy s
  unbound : s.bound = false → s.drvdata = none

theorem accounts_masterHeap (h : s.heap.Accounts []) :
    ((masterHeap s).free s.heap.fresh).Accounts [] := by
  have freed := (h.alloc ()).free List.mem_cons_self
  rwa [List.erase_cons_head] at freed

theorem accounts_tableHeap (h : s.heap.Accounts []) :
    (tableHeap s).Accounts [(masterHeap s).fresh, s.heap.fresh] := (h.alloc ()).alloc ()

theorem accounts_tableHeap_free (h : s.heap.Accounts []) :
    (((tableHeap s).free (masterHeap s).fresh).free s.heap.fresh).Accounts [] := by
  have freed := (accounts_tableHeap h).free List.mem_cons_self
  rw [List.erase_cons_head] at freed
  have both := freed.free List.mem_cons_self
  rwa [List.erase_cons_head] at both

/-- The label `err_spi_register` frees the master a second time. -/
theorem frees_notRegistered (h : s.heap.Accounts []) :
    ((((tableHeap s).free s.heap.fresh).free (masterHeap s).fresh).free s.heap.fresh).frees
      s.heap.fresh = some 2 := by
  have table := accounts_tableHeap h
  have other : (masterHeap s).fresh ≠ s.heap.fresh := by
    rw [masterHeap, BlockHeap.fresh_alloc]
    exact Nat.succ_ne_self _
  have live : (tableHeap s).frees s.heap.fresh = some 0 :=
    table.live _ (List.mem_cons_of_mem _ List.mem_cons_self)
  rw [BlockHeap.frees_free_self, BlockHeap.frees_free_of_ne other, BlockHeap.frees_free_self, live]
  rfl

theorem tidy_of_none {s' : PlatformDevice} (none : s'.drvdata = none)
    (h : s'.heap.Accounts []) : TidyInv s' := by
  refine ⟨?_, fun _ => none⟩
  unfold Tidy PlatformDevice.blocks
  rw [none]
  exact h

theorem accounts_of_unbound (h : TidyInv s) (unbound : s.bound = false) : s.heap.Accounts [] := by
  have tidy := h.tidy
  unfold Tidy PlatformDevice.blocks at tidy
  rw [h.unbound unbound] at tidy
  exact tidy

theorem tidy_remove (h : TidyInv s) {m : Master} (master : s.drvdata = some m) :
    TidyInv (omap2McspiRemove s m) := by
  refine tidy_of_none rfl ?_
  have tidy := h.tidy
  unfold Tidy PlatformDevice.blocks at tidy
  rw [master] at tidy
  dsimp only at tidy
  have freed := tidy.free (i := m.master) (by simp)
  unfold omap2McspiRemove
  cases table : m.dmaChannels with
  | none =>
      have rest : ((none : Option Nat).toList ++ [m.master]).erase m.master = [] := by simp
      rw [table, rest] at freed
      exact freed
  | some j =>
      rw [table] at tidy freed
      have other : j ≠ m.master := by simpa using tidy.nodup
      have rest : ((some j).toList ++ [m.master]).erase m.master = [j] := by
        simp [other]
      rw [rest] at freed
      have both := freed.free List.mem_cons_self
      rwa [List.erase_cons_head] at both

theorem tidy_next (h : TidyInv s) (enabled : deviceEnabled s e) (registers : ¬ Unregistered d e) :
    TidyInv (deviceNext d s e) := by
  cases e with
  | probe r =>
      have before := accounts_of_unbound h enabled.1
      obtain ⟨-, -, way⟩ := probe_leaves s d r
      dsimp only [deviceNext]
      generalize omap2McspiProbe s d r = left at way ⊢
      cases case : r.case d.numCs <;> rw [case] at way
      case noMaster =>
        exact tidy_of_none (way.2.1.trans (h.unbound enabled.1)) (way.1 ▸ before)
      case failed =>
        obtain ⟨heap | heap, none, -⟩ := way
        · exact tidy_of_none none (heap ▸ accounts_masterHeap before)
        · exact tidy_of_none none (heap ▸ accounts_tableHeap_free before)
      case silent => exact tidy_of_none way.2.1 (way.1 ▸ accounts_masterHeap before)
      case noClocks => exact tidy_of_none way.2.1 (way.1 ▸ accounts_tableHeap_free before)
      case notRegistered => exact absurd case registers
      case succeeded =>
        obtain ⟨heap, status, ok, m, master, isMaster, isTable, -⟩ := way
        have zero : left.2 = 0 := Int.le_antisymm (status ▸ enabled.2) ok
        refine ⟨?_, fun unbound => absurd zero (of_decide_eq_false unbound)⟩
        unfold Tidy PlatformDevice.blocks
        dsimp only
        rw [master, heap]
        dsimp only
        rw [isMaster, isTable]
        exact accounts_tableHeap before
  | remove =>
      dsimp only [deviceNext]
      cases master : s.drvdata with
      | none => exact h
      | some m => exact tidy_remove h master

theorem not_tidy_of_unregistered (h : TidyInv s) (enabled : deviceEnabled s e)
    (unregistered : Unregistered d e) : ¬ Tidy (deviceNext d s e) := by
  cases e with
  | probe r =>
      have before := accounts_of_unbound h enabled.1
      obtain ⟨-, -, way⟩ := probe_leaves s d r
      rw [show r.case d.numCs = .notRegistered from unregistered] at way
      dsimp only [deviceNext]
      generalize omap2McspiProbe s d r = left at way ⊢
      refine BlockHeap.Accounts.not_of_frees (i := s.heap.fresh) (n := 0) ?_
      dsimp only
      rw [way.1]
      exact frees_notRegistered before
  | remove => exact unregistered.elim

/-- Over any run of probes and removals, whatever fails: what a bound device needs is allocated
and everything else has been freed exactly once, if and only if no probe has failed at the
registration of its master. -/
theorem probes_free_once_iff (admits : (deviceMachine d).Admits (unprobed start) es) :
    (deviceMachine d).Always Tidy (unprobed start) es ↔
      (deviceMachine d).EveryStep (fun _ e => ¬ Unregistered d e) (unprobed start) es :=
  EventMachine.always_iff_everyStep (I := TidyInv) (P := Tidy) (C := fun _ e => ¬ Unregistered d e)
    (fun _ h => h.tidy) (fun _ _ => tidy_next)
    (fun _ _ h enabled tidy unregistered =>
      not_tidy_of_unregistered h enabled unregistered tidy)
    (tidy_of_none rfl BlockHeap.accounts_nil) admits

/-- A probe that fails at the registration. -/
theorem probes_free_once_iff_unregistered : ¬ (deviceMachine (.node none 0)).Always Tidy
    (unprobed 0) [.probe { allGranted with registers := -einval }] := by
  intro always
  have negative : -einval ≤ 0 := by decide
  have admits : (deviceMachine (.node none 0)).Admits (unprobed 0)
      [.probe { allGranted with registers := -einval }] := ⟨⟨rfl, negative⟩, trivial⟩
  exact ((probes_free_once_iff admits).mp always).1 rfl

def DeviceEvent.isRemove : DeviceEvent → Bool
  | .probe _ => false
  | .remove => true

/-- A probe that comes to the registers of the device. -/
def DeviceEvent.findsMemory : DeviceEvent → Bool
  | .probe r => r.masterAllocated && r.memory
  | .remove => false

/-- Each removal takes one from the count of the power management. -/
theorem usage_deviceNext (h : Mastered s) (enabled : deviceEnabled s e) (loud : ¬ Silent d e) :
    (deviceNext d s e).usage = s.usage - if e.isRemove then 1 else 0 := by
  cases e with
  | probe r =>
      have usage := (probe_leaves s d r).usage
      rw [if_neg fun noClocks => loud (.inr noClocks)] at usage
      exact usage.trans (Int.sub_zero _ ▸ Int.add_zero _)
  | remove =>
      obtain ⟨m, isM⟩ := Option.isSome_iff_exists.mp (h ▸ enabled : s.drvdata.isSome = true)
      dsimp only [deviceNext]
      rw [isM]
      rfl

theorem usage_deviceRun (h : Mastered s) (admits : (deviceMachine d).Admits s es)
    (loud : (deviceMachine d).EveryStep (fun _ e => ¬ Silent d e) s es) :
    ((deviceMachine d).run s es).usage = s.usage - es.countP DeviceEvent.isRemove := by
  induction es generalizing s with
  | nil => exact (Int.sub_zero _).symm
  | cons e es ih =>
      have kept : Mastered ((deviceMachine d).next s e) := mastered_next h admits.1 loud.1
      have rest := ih kept admits.2 loud.2
      have first : ((deviceMachine d).next s e).usage = _ := usage_deviceNext h admits.1 loud.1
      rw [EventMachine.run_cons, rest, first, List.countP_cons]
      cases e.isRemove <;> simp
      omega

/-- A message during which the controller may be suspended. -/
def Exposed (s : Controller) : Prop := s.prepared = true ∧ mcspiEnabled s (.suspend none)

/-- A controller may be suspended during a message if and only if the power management has counted
less than nothing before its probe. -/
theorem exposed_iff (usage : Int) (n : Nat) :
    (∃ calls, mcspiMachine.Admits (probedWith usage n) calls ∧
      Exposed (mcspiMachine.run (probedWith usage n) calls)) ↔ usage < 0 := by
  have excess_probed : excess (probedWith usage n) = usage := by
    change usage + 1 - 1 - 0 = usage
    omega
  constructor
  · rintro ⟨calls, admits, prepared, suspends⟩
    have least := excess_le_run admits
    rw [excess_probed] at least
    unfold excess at least
    rw [prepared, if_pos rfl] at least
    exact Int.lt_of_le_of_lt (least.trans (Int.sub_le_sub_right suspends.1 1)) (by decide)
  · intro negative
    have count := usage_next (probedWith usage n) (.prepare true)
    have before : (probedWith usage n).usage = usage := Int.add_sub_cancel usage 1
    refine ⟨[.prepare true], ⟨rfl, trivial⟩, rfl, ?_, nofun⟩
    change (mcspiNext (probedWith usage n) (.prepare true)).usage ≤ 0
    rw [count, before]
    exact negative

/-- After probes and removals that have told of their failures: the controller may be suspended in
the middle of a message if and only if the device has been removed before. -/
theorem exposed_iff_removed (admits : (deviceMachine d).Admits (unprobed start) es)
    (loud : (deviceMachine d).EveryStep (fun _ e => ¬ Silent d e) (unprobed start) es) :
    (∃ calls, mcspiMachine.Admits
        (probedWith ((deviceMachine d).run (unprobed start) es).usage d.numCs) calls ∧
      Exposed (mcspiMachine.run
        (probedWith ((deviceMachine d).run (unprobed start) es).usage d.numCs) calls)) ↔
      ∃ e ∈ es, e.isRemove = true := by
  rw [exposed_iff, usage_deviceRun (rfl : Mastered (unprobed start)) admits loud,
    ← List.countP_pos_iff]
  change 0 - ((es.countP DeviceEvent.isRemove : Nat) : Int) < 0 ↔ _
  omega

theorem not_silent_allGranted (d : Description) (numCs : d.numCs = 1) :
    ¬ Silent d (.probe allGranted) := by
  unfold Silent
  rw [numCs]
  decide

/-- A second probe. -/
theorem exposed_iff_removed_again : ∃ calls,
    Exposed (mcspiMachine.run (probedWith ((deviceMachine (.node none 0)).run (unprobed 0)
      [.probe allGranted, .remove, .probe allGranted]).usage 1) calls) := by
  have loud := not_silent_allGranted (.node none 0) rfl
  have admits : (deviceMachine (.node none 0)).Admits (unprobed 0)
      [.probe allGranted, .remove, .probe allGranted] :=
    ⟨⟨rfl, Int.le_refl 0⟩, rfl, ⟨rfl, Int.le_refl 0⟩, trivial⟩
  obtain ⟨calls, -, exposed⟩ := (exposed_iff_removed admits ⟨loud, id, loud, trivial⟩).mpr
    ⟨.remove, by simp, rfl⟩
  exact ⟨calls, exposed⟩

/-- The resource is where `probes` of them have moved it, and a master has the registers of the last
one. -/
structure Placed (start : Word) (d : Description) (probes : Nat) (s : PlatformDevice) : Prop where
  start : s.start = start + d.regsOffset * BitVec.ofNat 32 probes
  phys : ∀ m ∈ s.drvdata, m.phys = s.start
  unbound : s.bound = false → s.drvdata = none

theorem regsOffset_mul_add (offset : Word) (probes : Nat) (finds : Bool) :
    offset * BitVec.ofNat 32 (probes + if finds then 1 else 0) =
      offset * BitVec.ofNat 32 probes + if finds then offset else 0 := by
  rw [BitVec.ofNat_add, BitVec.mul_add]
  cases finds with
  | true => exact congrArg _ (BitVec.mul_one offset)
  | false => exact congrArg _ BitVec.mul_zero

theorem placed_next {probes : Nat} (h : Placed start d probes s) (enabled : deviceEnabled s e) :
    Placed start d (probes + if e.findsMemory then 1 else 0) (deviceNext d s e) := by
  cases e with
  | probe r =>
      have none := h.unbound enabled.1
      obtain ⟨place, -, way⟩ := probe_leaves s d r
      have place' : (omap2McspiProbe s d r).1.start = start +
          d.regsOffset * BitVec.ofNat 32
            (probes + if (DeviceEvent.probe r).findsMemory then 1 else 0) := by
        rw [place, h.start, regsOffset_mul_add, ← BitVec.add_assoc]
        simp only [DeviceEvent.findsMemory, Bool.and_eq_true]
      dsimp only [deviceNext]
      generalize omap2McspiProbe s d r = left at place' way ⊢
      have gone : left.1.drvdata = Option.none →
          Placed start d (probes + if (DeviceEvent.probe r).findsMemory then 1 else 0)
            { left.1 with bound := left.2 = 0 } := fun isNone =>
        ⟨place', fun m some => absurd (isNone.symm.trans some) nofun, fun _ => isNone⟩
      cases case : r.case d.numCs <;> rw [case] at way
      case noMaster => exact gone (way.2.1.trans none)
      case failed => exact gone way.2.1
      case silent => exact gone way.2.1
      case noClocks => exact gone way.2.1
      case notRegistered => exact gone way.2.1
      case succeeded =>
        obtain ⟨-, status, ok, m, master, -, -, phys, -⟩ := way
        have zero : left.2 = 0 := Int.le_antisymm (status ▸ enabled.2) ok
        refine ⟨place', fun m' some => ?_, fun unbound =>
          absurd zero (of_decide_eq_false unbound)⟩
        obtain rfl := Option.some.inj (master.symm.trans some)
        exact phys
  | remove =>
      dsimp only [deviceNext]
      cases master : s.drvdata with
      | none => exact h
      | some m => exact ⟨h.start, nofun, fun _ => rfl⟩

theorem placed_run {probes : Nat} (h : Placed start d probes s)
    (admits : (deviceMachine d).Admits s es) :
    Placed start d (probes + es.countP DeviceEvent.findsMemory) ((deviceMachine d).run s es) := by
  induction es generalizing s probes with
  | nil => exact h
  | cons e es ih =>
      have first : Placed start d _ ((deviceMachine d).next s e) := placed_next h admits.1
      have rest := ih first admits.2
      rw [List.countP_cons, Nat.add_comm (List.countP _ es), ← Nat.add_assoc]
      exact rest

/-- Offsets that have not wrapped add up to the first one only once. -/
theorem regsOffset_mul_eq_iff {offset : Word} {probes : Nat} (nonzero : offset ≠ 0)
    (unwrapped : offset.toNat * (probes - 1) < 2 ^ 32) :
    offset * BitVec.ofNat 32 probes = offset ↔ probes = 1 := by
  cases probes with
  | zero => exact iff_of_false (fun same => nonzero (same.symm.trans (BitVec.mul_zero))) nofun
  | succ earlier =>
      have value : (offset * BitVec.ofNat 32 earlier).toNat = offset.toNat * earlier := by
        rw [BitVec.toNat_mul, BitVec.toNat_ofNat, Nat.mul_mod_mod]
        exact Nat.mod_eq_of_lt unwrapped
      have last : offset * BitVec.ofNat 32 (earlier + 1) =
          offset * BitVec.ofNat 32 earlier + offset := regsOffset_mul_add offset earlier true
      have positive : offset.toNat ≠ 0 := fun zero => nonzero (BitVec.eq_of_toNat_eq zero)
      calc offset * BitVec.ofNat 32 (earlier + 1) = offset
          ↔ offset * BitVec.ofNat 32 earlier + offset = 0 + offset := by
            rw [last, zero_add]
        _ ↔ offset * BitVec.ofNat 32 earlier = 0 := BitVec.add_left_inj ..
        _ ↔ offset.toNat * earlier = 0 := by
            rw [← BitVec.toNat_inj, value]
            exact Iff.rfl
        _ ↔ earlier + 1 = 1 := by
            rw [Nat.mul_eq_zero, or_iff_right positive]
            omega

/-- Each probe that finds the registers moves them by the offset of the description. Where that is
not 0, and as long as the addresses have not wrapped, only the first such probe gives its
controller the right ones. -/
theorem phys_moves (admits : (deviceMachine d).Admits (unprobed start) es) {m : Master}
    (master : ((deviceMachine d).run (unprobed start) es).drvdata = some m) :
    m.phys = start + d.regsOffset * BitVec.ofNat 32 (es.countP DeviceEvent.findsMemory) ∧
      (d.regsOffset ≠ 0 →
        d.regsOffset.toNat * (es.countP DeviceEvent.findsMemory - 1) < 2 ^ 32 →
          (m.phys = start + d.regsOffset ↔ es.countP DeviceEvent.findsMemory = 1)) := by
  have unmoved : Placed start d 0 (unprobed start) := by
    refine ⟨?_, fun _ master => absurd master nofun, fun _ => rfl⟩
    rw [BitVec.mul_zero, BitVec.add_zero]
    rfl
  have placed := placed_run unmoved admits
  rw [Nat.zero_add] at placed
  have phys := (placed.phys m master).trans placed.start
  refine ⟨phys, fun nonzero unwrapped => ?_⟩
  rw [phys, BitVec.add_right_inj]
  exact regsOffset_mul_eq_iff nonzero unwrapped

/-- The second controller of a device whose registers are 256 bytes further on. -/
theorem phys_moves_again : ∃ m, ((deviceMachine (.node none 256)).run (unprobed 0)
    [.probe allGranted, .remove, .probe allGranted]).drvdata = some m ∧ m.phys = 512 ∧
      m.phys ≠ 256 := by
  have admits : (deviceMachine (.node none 256)).Admits (unprobed 0)
      [.probe allGranted, .remove, .probe allGranted] :=
    ⟨⟨rfl, Int.le_refl 0⟩, rfl, ⟨rfl, Int.le_refl 0⟩, trivial⟩
  obtain ⟨phys, right⟩ := phys_moves admits rfl
  exact ⟨_, rfl, phys, fun same => absurd ((right (by decide) (by decide)).mp same) (by decide)⟩

end runs

end Gumstix.Mcspi
