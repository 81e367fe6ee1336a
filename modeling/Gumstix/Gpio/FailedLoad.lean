import Gumstix.Gpio.Unloading

/-!
# Failing loads

`Gpio_initialize` statement by statement: the region of device numbers, the cdev, the class, one
device for each GPIO, the table, and the labels that a failure jumps to. The counter `iCpt` is
shared by the creation of the devices and by their removal.
-/
namespace Gumstix.Gpio
open Gumstix.Synchronization (Word)

def errInitAllocChrdevRegion : Int := 1381
def errInitCdevAdd : Int := 1382
def errInitClassCreate : Int := 1383
def errInitDeviceCreate : Int := 1381

/-- What the kernel answers during a load, and the mux registers that it finds. -/
structure LoadReplies where
  allocChrdevRegion : Int
  cdevAdd : Int
  classCreated : Bool
  deviceCreated : Nat → Bool
  mux : Word → BitVec 16
  ioremap : Minor → Nat → Bool

/-- Before which statement the load is. -/
inductive LoadPlace where
  | allocating
  | adding
  | classing
  /-- The test of the loop that creates the devices. -/
  | creating (iCpt : Word)
  /-- `SaveRegisterAddr` and `SaveDefaultMode`. -/
  | saving
  | outAllDel
  | outDevDel (iCpt : Word)
  /-- The test of the loop that destroys them. -/
  | destroying (iCpt iNbToDestroy : Word)
  | outCdevDel
  | outUnregister
  | done
  deriving DecidableEq

inductive LoadRelease where
  | device (minor : Word)
  | cdev
  | chrdevRegion
  deriving DecidableEq

/-- `created` has the minors of the devices created, `releases` what has been released. -/
structure LoadState where
  place : LoadPlace
  iRet : Int
  created : List Word
  releases : List LoadRelease

def loadStart : LoadState := ⟨.allocating, 0, [], []⟩

section load
variable (k : LoadReplies) (s : LoadState)

def LoadState.goto (place : LoadPlace) : LoadState := { s with place }

def LoadState.fail (iRet : Int) (place : LoadPlace) : LoadState := { s with iRet, place }

def LoadState.release (r : LoadRelease) : LoadState := { s with releases := s.releases ++ [r] }

/-- One statement of `Gpio_initialize`; comparisons of counters are signed. -/
def loadStep : LoadState :=
  match s.place with
  | .allocating =>
      if k.allocChrdevRegion < 0 then s.fail (-errInitAllocChrdevRegion) .done else s.goto .adding
  | .adding =>
      if k.cdevAdd ≠ 0 then s.fail (-errInitCdevAdd) .outUnregister else s.goto .classing
  | .classing =>
      if k.classCreated then s.goto (.creating 0) else s.fail (-errInitClassCreate) .outCdevDel
  | .creating iCpt =>
      if iCpt.toInt < driverDevRegisterNb then
        if k.deviceCreated iCpt.toNat then
          { s with place := .creating (iCpt + 1), created := s.created ++ [iCpt] }
        else s.fail (-errInitDeviceCreate) (.outDevDel iCpt)
      else s.goto .saving
  | .saving =>
      let iRet := (gpioInitializeMux k.mux k.ioremap).1
      if iRet < 0 then s.fail iRet .outAllDel else s.fail iRet .done
  | .outAllDel => s.goto (.outDevDel driverDevRegisterNb)
  | .outDevDel iCpt => s.goto (.destroying 0 iCpt)
  | .destroying iCpt iNbToDestroy =>
      if 0 ≤ iNbToDestroy.toInt then
        (s.release (.device iCpt)).goto (.destroying (iCpt + 1) iNbToDestroy)
      else s.goto .outCdevDel
  | .outCdevDel => (s.release .cdev).goto .outUnregister
  | .outUnregister => (s.release .chrdevRegion).goto .done
  | .done => s

/-- The load after `n` statements. -/
def loadRun (n : Nat) : LoadState := (loadStep k)^[n] loadStart

/-- The load fails after the class has been created: at some device or at the table. -/
structure FailingLoad : Prop where
  allocated : 0 ≤ k.allocChrdevRegion
  added : k.cdevAdd = 0
  classCreated : k.classCreated = true
  fails : (∃ minor < driverDevRegisterNb, k.deviceCreated minor = false) ∨
    (gpioInitializeMux k.mux k.ioremap).1 < 0

/-- The load comes to an end, and has destroyed each device that it has created and then
released the cdev and the region. -/
def CleansUp : Prop :=
  ∃ (n : Nat) (destroyed : List Word), (loadRun k n).place = .done ∧
    destroyed.Perm (loadRun k n).created ∧
    (loadRun k n).releases = destroyed.map .device ++ [.cdev, .chrdevRegion]

end load

section places
variable {k : LoadReplies}

theorem loadRun_succ (k : LoadReplies) (n : Nat) :
    loadRun k (n + 1) = loadStep k (loadRun k n) := Function.iterate_succ_apply' _ _ _

theorem loadRun_step {n : Nat} {place next : LoadPlace} (here : (loadRun k n).place = place)
    (goes : ∀ s : LoadState, s.place = place → (loadStep k s).place = next) :
    (loadRun k (n + 1)).place = next := by
  rw [loadRun_succ]
  exact goes _ here

theorem loadRun_classing (load : FailingLoad k) : (loadRun k 2).place = .classing := by
  have adding : (loadRun k 1).place = .adding := by
    rw [loadRun_succ, loadStep]
    exact congrArg LoadState.place (if_neg (not_lt.mpr load.allocated))
  refine loadRun_step adding fun s here => ?_
  rw [loadStep, here]
  dsimp only
  rw [if_neg (not_not.mpr load.added)]
  rfl

theorem toNat_counter {i : Nat} (small : i ≤ driverDevRegisterNb) :
    (BitVec.ofNat 32 i).toNat = i :=
  (BitVec.toNat_ofNat i 32).trans (Nat.mod_eq_of_lt (small.trans_lt (by decide)))

theorem toInt_counter {i : Nat} (small : i ≤ driverDevRegisterNb) :
    (BitVec.ofNat 32 i).toInt = i := by
  have half : 2 * (BitVec.ofNat 32 i).toNat < 2 ^ 32 := by
    rw [toNat_counter small]
    exact (Nat.mul_le_mul_left 2 small).trans_lt (by decide)
  rw [BitVec.toInt_eq_toNat_of_lt half, toNat_counter small]

theorem loadRun_creating (load : FailingLoad k) {i : Nat} (small : i ≤ driverDevRegisterNb)
    (created : ∀ minor < i, k.deviceCreated minor = true) :
    (loadRun k (i + 3)).place = .creating (BitVec.ofNat 32 i) := by
  induction i with
  | zero =>
      refine loadRun_step (loadRun_classing load) fun s here => ?_
      rw [loadStep, here]
      dsimp only
      rw [if_pos load.classCreated]
      rfl
  | succ i ih =>
      have before := ih (Nat.le_of_succ_le small) fun minor h => created minor (Nat.lt_succ_of_lt h)
      refine loadRun_step (n := i + 3) before fun s here => ?_
      rw [loadStep, here]
      dsimp only
      rw [toInt_counter (Nat.le_of_succ_le small), if_pos (Int.ofNat_lt.mpr small),
        toNat_counter (Nat.le_of_succ_le small), if_pos (created i (Nat.lt_succ_self i)),
        BitVec.ofNat_add]
      rfl

/-- Wherever the load fails, it comes to the loop with a counter that is not negative. -/
theorem loadRun_destroying (load : FailingLoad k) :
    ∃ n iNbToDestroy, 0 ≤ iNbToDestroy.toInt ∧
      (loadRun k n).place = .destroying 0 iNbToDestroy := by
  have fromDevDel : ∀ {n i : Nat}, i ≤ driverDevRegisterNb →
      (loadRun k n).place = .outDevDel (BitVec.ofNat 32 i) →
        ∃ n iNbToDestroy, 0 ≤ iNbToDestroy.toInt ∧
          (loadRun k n).place = .destroying 0 iNbToDestroy := by
    intro n i small here
    refine ⟨n + 1, BitVec.ofNat 32 i, ?_, loadRun_step here fun s here => ?_⟩
    · rw [toInt_counter small]
      exact Int.natCast_nonneg i
    · rw [loadStep, here]
      rfl
  by_cases refused : ∃ minor, minor < driverDevRegisterNb ∧ k.deviceCreated minor = false
  · -- the first device that is not created
    obtain ⟨small, missing⟩ := Nat.find_spec refused
    have created : ∀ minor < Nat.find refused, k.deviceCreated minor = true := by
      intro minor before
      have := Nat.find_min refused before
      rw [not_and] at this
      exact Bool.eq_true_of_not_eq_false (this (before.trans small))
    refine fromDevDel small.le (loadRun_step (loadRun_creating load small.le created)
      fun s here => ?_)
    rw [loadStep, here]
    dsimp only
    rw [toInt_counter small.le, if_pos (Int.ofNat_lt.mpr small), toNat_counter small.le, missing]
    rfl
  · have created : ∀ minor < driverDevRegisterNb, k.deviceCreated minor = true := by
      intro minor small
      by_contra missing
      exact refused ⟨minor, small, Bool.eq_false_of_not_eq_true missing⟩
    have failed := load.fails.resolve_left refused
    have saving : (loadRun k _).place = .saving :=
      loadRun_step (loadRun_creating load le_rfl created) fun s here => by
        rw [loadStep, here]
        rfl
    have outAllDel : (loadRun k _).place = .outAllDel := loadRun_step saving fun s here => by
      rw [loadStep, here]
      exact congrArg LoadState.place (if_pos failed)
    refine fromDevDel (i := driverDevRegisterNb) le_rfl
      (loadRun_step outAllDel fun s here => ?_)
    rw [loadStep, here]
    rfl

end places

section loop
variable {k : LoadReplies} {iNbToDestroy : Word}

/-- Nothing in the loop changes what its test reads. -/
theorem loadRun_destroying_add {n : Nat} (nonnegative : 0 ≤ iNbToDestroy.toInt)
    (here : (loadRun k n).place = .destroying 0 iNbToDestroy) (d : Nat) :
    (loadRun k (n + d)).place = .destroying (BitVec.ofNat 32 d) iNbToDestroy := by
  induction d with
  | zero => exact here
  | succ d ih =>
      refine loadRun_step ih fun s here => ?_
      rw [loadStep, here]
      dsimp only
      rw [if_pos nonnegative, BitVec.ofNat_add]
      rfl

theorem loadRun_done_add {n : Nat} (ended : (loadRun k n).place = .done) (d : Nat) :
    (loadRun k (n + d)).place = .done := by
  induction d with
  | zero => exact ended
  | succ d ih =>
      refine loadRun_step ih fun s here => ?_
      rw [loadStep, here]
      exact here

/-- The loop destroys every device number, created or not. -/
theorem load_destroys_every_minor (load : FailingLoad k) (minor : Word) :
    ∃ n, .device minor ∈ (loadRun k n).releases := by
  obtain ⟨n, iNbToDestroy, nonnegative, here⟩ := loadRun_destroying load
  have there := loadRun_destroying_add nonnegative here minor.toNat
  rw [BitVec.ofNat_toNat, BitVec.setWidth_eq] at there
  refine ⟨n + minor.toNat + 1, ?_⟩
  rw [loadRun_succ, loadStep, there]
  dsimp only
  rw [if_pos nonnegative]
  exact List.mem_append_right _ List.mem_cons_self

end loop

theorem failingLoad_not_done {k : LoadReplies} (load : FailingLoad k) (m : Nat) :
    (loadRun k m).place ≠ .done := by
  intro ended
  obtain ⟨n, iNbToDestroy, nonnegative, here⟩ := loadRun_destroying load
  have still := loadRun_destroying_add nonnegative here m
  have stopped := loadRun_done_add ended n
  rw [Nat.add_comm m n, still] at stopped
  cases stopped

/-- A load that fails after the class has been created never ends. -/
theorem failed_load_never_cleans_up {k : LoadReplies} (load : FailingLoad k) : ¬ CleansUp k :=
  fun ⟨n, _, ended, _⟩ => failingLoad_not_done load n ended

/-- The device of GPIO 5 is not created. -/
def fifthRefused : LoadReplies where
  allocChrdevRegion := 0
  cdevAdd := 0
  classCreated := true
  deviceCreated minor := minor ≠ 5
  mux _ := 0
  ioremap _ _ := true

theorem failingLoad_fifthRefused : FailingLoad fifthRefused :=
  ⟨le_rfl, rfl, rfl, .inl ⟨5, by decide, rfl⟩⟩

theorem failed_load_never_cleans_up_fifthRefused : ¬ CleansUp fifthRefused :=
  failed_load_never_cleans_up failingLoad_fifthRefused

theorem failed_load_cleans_up_refuted : ¬ ∀ k : LoadReplies, FailingLoad k → CleansUp k := by
  intro every
  obtain ⟨n, -, ended, -⟩ := every fifthRefused failingLoad_fifthRefused
  exact failingLoad_not_done failingLoad_fifthRefused n ended

end Gumstix.Gpio
