import Gumstix.Gpio.Multiplexing

/-!
# Loading and unloading

`SaveDefaultMode` reads every mux register when the driver is loaded, and
`RestoreAllChangedMux` writes them back when it is unloaded. Both visit the registers of
all GPIOs and stop at the first one that `ioremap` refuses.
-/
namespace Gumstix.Gpio
open Gumstix.Synchronization (Word)

def errSaveDefaultModeMuxRequest : Int := 1201
def errRestoreAllChangedMuxMuxRequest : Int := 1261

section loops
variable (err : Int) (ioremap : Minor → Nat → Bool) (body : GpioDriver → Minor → Nat → GpioDriver)

/-- The inner loop: the registers of one GPIO. -/
def overRegistersOf (iCpt1 : Minor) : GpioDriver → List Nat → Int × GpioDriver
  | s, [] => (0, s)
  | s, iCpt2 :: rest =>
      if ioremap iCpt1 iCpt2 then overRegistersOf iCpt1 (body s iCpt1 iCpt2) rest else (-err, s)

/-- The outer loop. -/
def overRegisters : GpioDriver → List Minor → Int × GpioDriver
  | s, [] => (0, s)
  | s, iCpt1 :: rest =>
      let (iRet, s) := overRegistersOf err ioremap body iCpt1 s
        (List.range (s.attributes iCpt1).nbMuxed)
      if iRet < 0 then (iRet, s) else overRegisters s rest

/-- What a loop that is not left early does. -/
def visitRegistersOf (iCpt1 : Minor) (s : GpioDriver) (l : List Nat) : GpioDriver :=
  l.foldl (fun s iCpt2 => body s iCpt1 iCpt2) s

def visitRegisters (s : GpioDriver) (l : List Minor) : GpioDriver :=
  l.foldl (fun s iCpt1 =>
    visitRegistersOf body iCpt1 s (List.range (s.attributes iCpt1).nbMuxed)) s

end loops

/-- The body of `SaveDefaultMode`. -/
def saveDefaultRegister (s : GpioDriver) (iCpt1 : Minor) (iCpt2 : Nat) : GpioDriver :=
  s.attribute iCpt1 fun a => { a with
    defaultMode := Function.update a.defaultMode iCpt2
      ((s.mux (a.registerAdress iCpt2)).setWidth 32) }

/-- The body of `RestoreAllChangedMux`; the mode to restore is a `u16`. -/
def restoreDefaultRegister (s : GpioDriver) (iCpt1 : Minor) (iCpt2 : Nat) : GpioDriver :=
  let a := s.attributes iCpt1
  let addr := a.registerAdress iCpt2
  let toRestoreMode : BitVec 16 := (a.defaultMode iCpt2).setWidth 16
  let current : Word := (s.mux addr).setWidth 32
  { s.setAttributes iCpt1 { a with
      previousMode := Function.update a.previousMode iCpt2 current } with
    mux := if current ≠ toRestoreMode.setWidth 32 then Function.update s.mux addr toRestoreMode
      else s.mux }

def saveDefaultModes (s : GpioDriver) (ioremap : Minor → Nat → Bool) : Int × GpioDriver :=
  overRegisters errSaveDefaultModeMuxRequest ioremap saveDefaultRegister s
    (List.finRange driverDevRegisterNb)

def restoreAllChangedMux (s : GpioDriver) (ioremap : Minor → Nat → Bool) : Int × GpioDriver :=
  overRegisters errRestoreAllChangedMuxMuxRequest ioremap restoreDefaultRegister s
    (List.finRange driverDevRegisterNb)

/-- The driver after `SaveRegisterAddr`. -/
def registeredDriver (mux : Word → BitVec 16) : GpioDriver where
  attributes minor := saveRegisterAddr minor initialAttributes
  pins _ := freePin
  mux := mux

/-- `Gpio_initialize` once the devices are created. -/
def gpioInitializeMux (mux : Word → BitVec 16) (ioremap : Minor → Nat → Bool) :
    Int × GpioDriver :=
  saveDefaultModes (registeredDriver mux) ioremap

/-- The result of `RestoreAllChangedMux` is not looked at. -/
def gpioCleanup (s : GpioDriver) (ioremap : Minor → Nat → Bool) : GpioDriver :=
  (restoreAllChangedMux s ioremap).2

section loops
variable {err : Int} {ioremap : Minor → Nat → Bool} {body : GpioDriver → Minor → Nat → GpioDriver}

theorem overRegistersOf_completed (positive : 0 < err) {iCpt1 : Minor} {s : GpioDriver}
    {l : List Nat} (completed : ¬ (overRegistersOf err ioremap body iCpt1 s l).1 < 0) :
    overRegistersOf err ioremap body iCpt1 s l = (0, visitRegistersOf body iCpt1 s l) := by
  induction l generalizing s with
  | nil => rfl
  | cons iCpt2 rest ih =>
      by_cases maps : ioremap iCpt1 iCpt2 = true
      · rw [overRegistersOf, if_pos maps] at completed ⊢
        exact ih completed
      · rw [overRegistersOf, if_neg maps] at completed
        exact absurd (neg_lt_zero.mpr positive) completed

theorem overRegisters_completed (positive : 0 < err) {s : GpioDriver} {l : List Minor}
    (completed : (overRegisters err ioremap body s l).1 = 0) :
    (overRegisters err ioremap body s l).2 = visitRegisters body s l := by
  induction l generalizing s with
  | nil => rfl
  | cons iCpt1 rest ih =>
      rw [overRegisters] at completed ⊢
      dsimp only at completed ⊢
      split_ifs at completed ⊢ with failed
      · exact absurd completed failed.ne
      · rw [overRegistersOf_completed positive failed] at completed ⊢
        exact ih completed

theorem overRegistersOf_mapped (mapped : ∀ g i, ioremap g i = true) (iCpt1 : Minor)
    (s : GpioDriver) (l : List Nat) : (overRegistersOf err ioremap body iCpt1 s l).1 = 0 := by
  induction l generalizing s with
  | nil => rfl
  | cons iCpt2 rest ih =>
      rw [overRegistersOf, if_pos (mapped iCpt1 iCpt2)]
      exact ih _

theorem overRegisters_mapped (mapped : ∀ g i, ioremap g i = true) (s : GpioDriver)
    (l : List Minor) : (overRegisters err ioremap body s l).1 = 0 := by
  induction l generalizing s with
  | nil => rfl
  | cons iCpt1 rest ih =>
      rw [overRegisters]
      dsimp only
      rw [overRegistersOf_mapped mapped, if_neg (lt_irrefl 0)]
      exact ih _

end loops

/-- What the load has saved after the given indices of one GPIO. -/
theorem visitRegistersOf_saves (g : Minor) (s : GpioDriver) (l : List Nat) :
    visitRegistersOf saveDefaultRegister g s l = s.attribute g fun a => { a with
      defaultMode := fun i =>
        if i ∈ l then (s.mux (a.registerAdress i)).setWidth 32 else a.defaultMode i } := by
  induction l generalizing s with
  | nil =>
      simp [visitRegistersOf, GpioDriver.attribute, GpioDriver.setAttributes,
        Function.update_eq_self]
  | cons j l ih =>
      change visitRegistersOf saveDefaultRegister g (saveDefaultRegister s g j) l = _
      rw [ih]
      unfold saveDefaultRegister GpioDriver.attribute GpioDriver.setAttributes
      simp only [Function.update_self, Function.update_idem]
      congr 3
      funext i
      by_cases later : i ∈ l
      · rw [if_pos later, if_pos (List.mem_cons_of_mem j later)]
      · by_cases same : i = j
        · rw [if_neg later, same, Function.update_self, if_pos List.mem_cons_self]
        · rw [if_neg later, Function.update_of_ne same,
            if_neg (mt List.mem_cons.mp (not_or.mpr ⟨same, later⟩))]

theorem visitRegisters_saves (s : GpioDriver) {l : List Minor} (nodup : l.Nodup) :
    visitRegisters saveDefaultRegister s l = { s with
      attributes := fun g =>
        if g ∈ l then saveDefaultMode s.mux (s.attributes g) else s.attributes g } := by
  induction l generalizing s with
  | nil => simp [visitRegisters]
  | cons h l ih =>
      rw [List.nodup_cons] at nodup
      change visitRegisters saveDefaultRegister
        (visitRegistersOf saveDefaultRegister h s (List.range (s.attributes h).nbMuxed)) l = _
      rw [ih _ nodup.2, visitRegistersOf_saves]
      simp only [attribute_attributes, attribute_mux, attribute_pins]
      congr 1
      funext g
      by_cases same : g = h
      · subst same
        rw [if_neg nodup.1, if_pos List.mem_cons_self, Function.update_self]
        simp only [saveDefaultMode, List.mem_range]
      · simp only [Function.update_of_ne same, List.mem_cons, same, false_or]

/-- A load that returns 0 has saved all registers. -/
theorem gpioInitializeMux_loaded {mux : Word → BitVec 16} {ioremap : Minor → Nat → Bool}
    (loaded : (gpioInitializeMux mux ioremap).1 = 0) :
    (gpioInitializeMux mux ioremap).2 = gpioInitialize mux := by
  apply (overRegisters_completed (by decide) loaded).trans
  rw [visitRegisters_saves _ (List.nodup_finRange _)]
  simp only [List.mem_finRange, if_true]
  rfl

/-- What the load has set up of an entry. -/
def loadRecord (a : GpioAttributes) : Nat × (Nat → Word) × (Nat → Word) :=
  (a.nbMuxed, a.registerAdress, a.defaultMode)

/-- No entry has lost its load record. -/
def RecordsKept (s s' : GpioDriver) : Prop :=
  ∀ g, loadRecord (s'.attributes g) = loadRecord (s.attributes g)

section operations
variable {s s' : GpioDriver} {minor : Minor}

theorem RecordsKept.attribute (h : RecordsKept s s') {f : GpioAttributes → GpioAttributes}
    (keeps : ∀ a, loadRecord (f a) = loadRecord a) : RecordsKept s (s'.attribute minor f) :=
  fun g => (attribute_field s' minor g loadRecord keeps).trans (h g)

theorem RecordsKept.withBank (h : RecordsKept s s')
    (b : RegisterBank Nat Word (BitVec 16) Word) : RecordsKept s (s'.withBank minor b) :=
  h.attribute (f := fun a => { a with previousMode := b.saved }) fun _ => rfl

theorem gpioNext_recordsKept (s : GpioDriver) (e : GpioEvent) : RecordsKept s (gpioNext s e) := by
  apply gpioNext_kept (P := RecordsKept s)
  · intro s' f update h
    refine h.attribute fun a => ?_
    unfold loadRecord
    rw [(update a).nbMuxed, (update a).registerAdress, (update a).defaultMode]
  · exact fun h => h
  · exact fun b h => h.withBank b
  · exact fun _ => rfl

end operations

/-- The table and the saved defaults are those of the load, and so are the registers that
belong to no GPIO. -/
structure DefaultsKept (load : Word → BitVec 16) (s : GpioDriver) : Prop where
  records : ∀ g, loadRecord (s.attributes g) = loadRecord ((gpioInitialize load).attributes g)
  elsewhere : ∀ x, (∀ g, ∀ i < nbMuxed g, x ≠ registerAdress g i) → s.mux x = load x

section defaults
variable {load : Word → BitVec 16} {s : GpioDriver}

theorem DefaultsKept.nbMuxed (kept : DefaultsKept load s) (g : Minor) :
    (s.attributes g).nbMuxed = Gpio.nbMuxed g := congrArg Prod.fst (kept.records g)

theorem DefaultsKept.registerAdress (kept : DefaultsKept load s) (g : Minor) :
    (s.attributes g).registerAdress = Gpio.registerAdress g :=
  congrArg (fun r => r.2.1) (kept.records g)

theorem DefaultsKept.defaultMode (kept : DefaultsKept load s) (g : Minor) {i : Nat}
    (hi : i < Gpio.nbMuxed g) :
    (s.attributes g).defaultMode i = (load (Gpio.registerAdress g i)).setWidth 32 :=
  (congrFun (congrArg (fun r => r.2.2) (kept.records g)) i).trans (if_pos hi)

theorem gpioNext_defaultsKept (kept : DefaultsKept load s) {e : GpioEvent} (mapped : Mapped s e) :
    DefaultsKept load (gpioNext s e) where
  records g := (gpioNext_recordsKept s e g).trans (kept.records g)
  elsewhere x outside := by
    have unwritten := next_cells_of_ne (m := s.multiplexing e.minor) (kept.nbMuxed e.minor)
      (kept.registerAdress e.minor) e (outside e.minor)
    rw [← gpioNext_multiplexing s mapped] at unwritten
    exact unwritten.trans (kept.elsewhere x outside)

end defaults

/-- From `s` to `s'` the registers of `A` have been restored and others at most restored. -/
structure Restores (load : Word → BitVec 16) (A : Set Word) (s s' : GpioDriver) : Prop where
  kept : DefaultsKept load s'
  visited : ∀ x ∈ A, s'.mux x = load x
  others : ∀ x, s'.mux x = s.mux x ∨ s'.mux x = load x

section restore
variable {load : Word → BitVec 16} {s s' s'' : GpioDriver} {A B : Set Word}

theorem Restores.refl (kept : DefaultsKept load s) : Restores load ∅ s s :=
  ⟨kept, fun _ absent => absent.elim, fun _ => .inl rfl⟩

theorem Restores.mono (h : Restores load A s s') (sub : B ⊆ A) : Restores load B s s' :=
  ⟨h.kept, fun x here => h.visited x (sub here), h.others⟩

theorem Restores.trans (h : Restores load A s s') (h' : Restores load B s' s'') :
    Restores load (A ∪ B) s s'' where
  kept := h'.kept
  visited x hx := by
    rcases hx with hA | hB
    · rcases h'.others x with same | restored
      · exact same.trans (h.visited x hA)
      · exact restored
    · exact h'.visited x hB
  others x := by
    rcases h'.others x with same | restored
    · rw [same]
      exact h.others x
    · exact .inr restored

/-- Whether or not the register is written, it holds the default afterwards. -/
theorem restoreDefaultRegister_restores (kept : DefaultsKept load s) {g : Minor} {i : Nat}
    (hi : i < nbMuxed g) :
    Restores load {registerAdress g i} s (restoreDefaultRegister s g i) := by
  have mux : (restoreDefaultRegister s g i).mux =
      Function.update s.mux (registerAdress g i) (load (registerAdress g i)) := by
    have toRestore : ((s.attributes g).defaultMode i).setWidth 16 = load (registerAdress g i) := by
      rw [kept.defaultMode g hi, BitVec.setWidth_setWidth_of_le _ (by decide), BitVec.setWidth_eq]
    unfold restoreDefaultRegister
    dsimp only
    rw [kept.registerAdress, toRestore, update_unless_same]
  have others : ∀ x, (restoreDefaultRegister s g i).mux x = s.mux x ∨
      (restoreDefaultRegister s g i).mux x = load x := by
    intro x
    rw [mux]
    by_cases here : x = registerAdress g i
    · rw [here, Function.update_self]
      exact .inr rfl
    · exact .inl (Function.update_of_ne here _ _)
  refine ⟨⟨fun h => ?_, fun x outside => ?_⟩, fun x here => ?_, others⟩
  · exact (attribute_field s g h loadRecord (f := fun a => { a with
      previousMode := Function.update a.previousMode i
        ((s.mux (a.registerAdress i)).setWidth 32) }) fun _ => rfl).trans (kept.records h)
  · rcases others x with same | restored
    · exact same.trans (kept.elsewhere x outside)
    · exact restored
  · rw [Set.mem_singleton_iff.mp here, mux, Function.update_self]

theorem visitRegistersOf_restores (kept : DefaultsKept load s) {g : Minor} {l : List Nat}
    (inTable : ∀ i ∈ l, i < nbMuxed g) :
    Restores load {x | ∃ i ∈ l, x = registerAdress g i} s
      (visitRegistersOf restoreDefaultRegister g s l) := by
  induction l generalizing s with
  | nil =>
      exact (Restores.refl kept).mono fun _ ⟨_, absent, _⟩ => absurd absent List.not_mem_nil
  | cons i l ih =>
      rw [List.forall_mem_cons] at inTable
      have first := restoreDefaultRegister_restores kept inTable.1
      refine (first.trans (ih first.kept inTable.2)).mono ?_
      rintro x ⟨j, hj, rfl⟩
      rcases List.mem_cons.mp hj with rfl | later
      · exact .inl rfl
      · exact .inr ⟨j, later, rfl⟩

theorem visitRegisters_restores (kept : DefaultsKept load s) (l : List Minor) :
    Restores load {x | ∃ g ∈ l, ∃ i < nbMuxed g, x = registerAdress g i} s
      (visitRegisters restoreDefaultRegister s l) := by
  induction l generalizing s with
  | nil =>
      exact (Restores.refl kept).mono fun _ ⟨_, absent, _⟩ => absurd absent List.not_mem_nil
  | cons g l ih =>
      have first := visitRegistersOf_restores kept (g := g)
        (l := List.range (s.attributes g).nbMuxed) fun i hi => by
          rwa [kept.nbMuxed, List.mem_range] at hi
      refine (first.trans (ih first.kept)).mono ?_
      rintro x ⟨h, hh, i, hi, rfl⟩
      rcases List.mem_cons.mp hh with rfl | later
      · exact .inl ⟨i, by rwa [kept.nbMuxed, List.mem_range], rfl⟩
      · exact .inr ⟨h, later, i, hi, rfl⟩

theorem gpioCleanup_mux (kept : DefaultsKept load s) {ioremap : Minor → Nat → Bool}
    (mapped : ∀ g i, ioremap g i = true) : (gpioCleanup s ioremap).mux = load := by
  have restores := visitRegisters_restores kept (List.finRange driverDevRegisterNb)
  rw [gpioCleanup, restoreAllChangedMux,
    overRegisters_completed (by decide) (overRegisters_mapped mapped s _)]
  funext x
  by_cases inTable : ∃ g, ∃ i < nbMuxed g, x = registerAdress g i
  · obtain ⟨g, i, hi, rfl⟩ := inTable
    exact restores.visited _ ⟨g, List.mem_finRange g, i, hi, rfl⟩
  · exact restores.kept.elsewhere x fun g i hi same => inTable ⟨g, i, hi, same⟩

end restore

/-- Loading the driver, any opens, ioctls and closes, and unloading it leave every mux
register as it was, whatever the calls have returned. -/
theorem unload_restores_mux {mux : Word → BitVec 16} {es : List GpioEvent}
    {atLoad atUnload : Minor → Nat → Bool} (loaded : (gpioInitializeMux mux atLoad).1 = 0)
    (admitted : mappedMachine.Admits (gpioInitializeMux mux atLoad).2 es)
    (mapped : ∀ g i, atUnload g i = true) :
    (gpioCleanup (mappedMachine.run (gpioInitializeMux mux atLoad).2 es) atUnload).mux = mux := by
  rw [gpioInitializeMux_loaded loaded] at admitted ⊢
  have start : DefaultsKept mux (gpioInitialize mux) := ⟨fun _ => rfl, fun _ _ => rfl⟩
  refine gpioCleanup_mux (EventMachine.kept_by_run (M := mappedMachine) ?_ start admitted) mapped
  exact fun _ _ kept enabled => gpioNext_defaultsKept kept enabled.2

/-- The open that `busyOpenRun` makes fail leaves its register forced until the unload. -/
theorem unload_restores_mux_busyOpenRun :
    (gpioCleanup (mappedMachine.run (gpioInitializeMux (fun _ => 0) fun _ _ => true).2 busyOpenRun)
      fun _ _ => true).mux = fun _ => 0 := by
  have loaded : (gpioInitializeMux (fun _ => 0) fun _ _ => true).1 = 0 :=
    overRegisters_mapped (fun _ _ => rfl) _ _
  have admitted : mappedMachine.Admits (gpioInitializeMux (fun _ => 0) fun _ _ => true).2
      busyOpenRun := ⟨⟨trivial, fun _ => rfl⟩, trivial⟩
  exact unload_restores_mux loaded admitted fun _ _ => rfl

end Gumstix.Gpio
