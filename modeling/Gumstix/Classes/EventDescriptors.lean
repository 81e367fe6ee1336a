import Gumstix.Classes.CEvent
import Gumstix.Library.EventMachine
import Mathlib.Logic.Function.Basic

/-!
# Descriptors of event objects

`CEvent ()` keeps the descriptor of the synchronization driver in `m_iSynchronizationFd` and the
destructor closes what it finds there. `CEvent (GeoDatationData *)` opens nothing and leaves the
field as the memory of the object was.
-/
namespace Gumstix.Classes
open Gumstix.Synchronization (Word GeoDatationData)
open EventMachine

/-- Which constructor is called, with what it gets. -/
inductive EventSource where
  | driver (k : EventReplies)
  | record (gdData : GeoDatationData)

/-- An object on the heap, and the memory that it was built in. No method changes it. -/
structure BuiltEvent where
  memory : CEvent
  source : EventSource

def BuiltEvent.event : BuiltEvent → CEvent
  | ⟨memory, .driver k⟩ => ceventFromDriver memory k
  | ⟨memory, .record gdData⟩ => ceventFromData memory gdData

/-- What the constructor has got from `open`. -/
def BuiltEvent.obtained (b : BuiltEvent) : Option Word :=
  match b.source with
  | .driver k => if 0 ≤ k.opened.toInt then some k.opened else none
  | .record _ => none

/-- `~CEvent`: what it passes to `close`. -/
def ceventClosed (o : CEvent) : Option Word :=
  if 0 ≤ o.synchronizationFd.toInt then some o.synchronizationFd else none

/-- `OnGpioEvent` looks at the result of `GPIO_IOCTL_GET_LAST_IT_GD_DATA`. -/
def onGpioEventSource (iRet : Int) (gdData : GeoDatationData) (k : EventReplies) : EventSource :=
  if iRet < 0 then .driver k else .record gdData

/-- Who has opened a descriptor: the object at an address, or anything else in the process, as a
`CGPIO` its `m_fd`. -/
inductive DescriptorOwner where
  | event (address : Nat)
  | other
  deriving DecidableEq

/-- `owner` is `none` for a number that is no open descriptor. -/
structure EventProcess where
  owner : Word → Option DescriptorOwner
  objects : Nat → Option BuiltEvent

/-- Event threads build and delete objects, and all that is in the process opens and closes its
own descriptors in between. -/
inductive DescriptorEvent where
  | build (address : Nat) (memory : CEvent) (iRet : Int) (gdData : GeoDatationData)
      (k : EventReplies)
  | delete (address : Nat)
  | openOther (fd : Word)
  | closeOther (fd : Word)

section process
variable (s : EventProcess)

/-- A `close` of a number that is no open descriptor fails and changes nothing. -/
def closeDescriptor (owner : Word → Option DescriptorOwner) :
    Option Word → Word → Option DescriptorOwner
  | none => owner
  | some fd => Function.update owner fd none

def buildEvent (address : Nat) (b : BuiltEvent) : EventProcess where
  owner := match b.obtained with
    | none => s.owner
    | some fd => Function.update s.owner fd (some (.event address))
  objects := Function.update s.objects address (some b)

def deleteEvent (address : Nat) : EventProcess :=
  match s.objects address with
  | none => s
  | some b =>
      { owner := closeDescriptor s.owner (ceventClosed b.event)
        objects := Function.update s.objects address none }

def processNext : DescriptorEvent → EventProcess
  | .build address memory iRet gdData k =>
      buildEvent s address ⟨memory, onGpioEventSource iRet gdData k⟩
  | .delete address => deleteEvent s address
  | .openOther fd => { s with owner := Function.update s.owner fd (some .other) }
  | .closeOther fd => { s with owner := Function.update s.owner fd none }

/-- `open` returns a number that is no open descriptor yet, or an error. -/
def ObtainsUnused (b : BuiltEvent) : Prop := ∀ fd ∈ b.obtained, s.owner fd = none

instance (b : BuiltEvent) : Decidable (ObtainsUnused s b) :=
  -- The option is looked at, not every word.
  Option.decidableForallMem b.obtained

def processEnabled : DescriptorEvent → Prop
  | .build address memory iRet gdData k =>
      (s.objects address).isNone ∧ ObtainsUnused s ⟨memory, onGpioEventSource iRet gdData k⟩
  | .delete address => (s.objects address).isSome
  | .openOther fd => 0 ≤ fd.toInt ∧ s.owner fd = none
  | .closeOther fd => s.owner fd = some .other

instance : (e : DescriptorEvent) → Decidable (processEnabled s e)
  | .build _ _ _ _ _ => inferInstanceAs (Decidable (_ ∧ _))
  | .delete _ => inferInstanceAs (Decidable (_ = true))
  | .openOther _ => inferInstanceAs (Decidable (_ ∧ _))
  | .closeOther _ => inferInstanceAs (Decidable (_ = _))

end process

abbrev processMachine : EventMachine EventProcess DescriptorEvent where
  enabled := processEnabled
  next := processNext

/-- No object has been built, and the numbers given are open descriptors. -/
def eventFree (opened : Word → Bool) : EventProcess where
  owner fd := if opened fd then some .other else none
  objects _ := none

/-- A delete closes the descriptor that the constructor of the object has obtained, if any, and
leaves all others open. -/
def ClosesOwn (s : EventProcess) (e : DescriptorEvent) : Prop :=
  ∀ address, e = .delete address → ∀ fd, (processNext s e).owner fd =
    if s.owner fd = some (.event address) then none else s.owner fd

/-- What an object of `CEvent (GeoDatationData *)` has in the place of `m_iSynchronizationFd` is no
open descriptor. -/
def LeftoverNotOpen (owner : Word → Option DescriptorOwner) : BuiltEvent → Prop
  | ⟨_, .driver _⟩ => True
  | ⟨memory, .record _⟩ =>
      memory.synchronizationFd.toInt < 0 ∨ owner memory.synchronizationFd = none

instance (owner : Word → Option DescriptorOwner) : (b : BuiltEvent) →
    Decidable (LeftoverNotOpen owner b)
  | ⟨_, .driver _⟩ => .isTrue trivial
  | ⟨_, .record _⟩ => inferInstanceAs (Decidable (_ ∨ _))

/-- The object that is deleted has no open descriptor left from its memory. -/
def LeftoverHarmless (s : EventProcess) : DescriptorEvent → Prop
  | .delete address => ∀ b ∈ s.objects address, LeftoverNotOpen s.owner b
  | .build _ _ _ _ _ | .openOther _ | .closeOther _ => True

instance (s : EventProcess) : (e : DescriptorEvent) → Decidable (LeftoverHarmless s e)
  | .delete address => inferInstanceAs (Decidable (∀ b ∈ s.objects address, _))
  | .build _ _ _ _ _ | .openOther _ | .closeOther _ => .isTrue trivial

theorem ceventFromDriver_synchronizationFd (memory : CEvent) (k : EventReplies) :
    (ceventFromDriver memory k).synchronizationFd = k.opened := by
  unfold ceventFromDriver
  dsimp only
  split_ifs <;> rfl

/-- An object that `CEvent ()` has built closes what it has obtained. -/
theorem closed_of_driver (memory : CEvent) (k : EventReplies) :
    ceventClosed (BuiltEvent.event ⟨memory, .driver k⟩) =
      BuiltEvent.obtained ⟨memory, .driver k⟩ := by
  rw [ceventClosed, BuiltEvent.event, ceventFromDriver_synchronizationFd]
  rfl

/-- An object that `CEvent (GeoDatationData *)` has built closes what was in its memory. -/
theorem closed_of_record (memory : CEvent) (gdData : GeoDatationData) :
    ceventClosed (BuiltEvent.event ⟨memory, .record gdData⟩) = ceventClosed memory := rfl

/-- The descriptors that belong to an object are those that its constructor has obtained. -/
def OwnersObtained (s : EventProcess) : Prop :=
  ∀ address fd, s.owner fd = some (.event address) ↔
    (s.objects address).bind BuiltEvent.obtained = some fd

section runs
variable {s : EventProcess}

theorem eventFree_ownersObtained (opened : Word → Bool) : OwnersObtained (eventFree opened) := by
  intro address fd
  refine iff_of_false ?_ nofun
  change (if opened fd then some DescriptorOwner.other else none) ≠ _
  split <;> nofun

theorem closeDescriptor_eq (owner : Word → Option DescriptorOwner) (closed : Option Word)
    (fd : Word) :
    closeDescriptor owner closed fd = if closed = some fd then none else owner fd := by
  cases closed with
  | none => rfl
  | some c =>
      by_cases same : fd = c
      · rw [same, if_pos rfl]
        exact Function.update_self c none owner
      · rw [if_neg fun h => same (Option.some.inj h).symm]
        exact Function.update_of_ne same none owner

/-- What a deletion does to the descriptors. -/
theorem deleteEvent_closesOwn_iff (h : OwnersObtained s) {address : Nat} {b : BuiltEvent}
    (built : s.objects address = some b) :
    (∀ fd, closeDescriptor s.owner (ceventClosed b.event) fd =
      if s.owner fd = some (.event address) then none else s.owner fd) ↔
        LeftoverNotOpen s.owner b := by
  have owned : ∀ fd, s.owner fd = some (.event address) ↔ b.obtained = some fd := by
    intro fd
    rw [h address fd, built]
    rfl
  simp only [closeDescriptor_eq, owned]
  obtain ⟨memory, k | gdData⟩ := b
  · refine iff_of_true (fun fd => ?_) trivial
    rw [closed_of_driver]
  · rw [closed_of_record, ceventClosed]
    change (∀ fd, _ = if none = some fd then none else s.owner fd) ↔ (_ ∨ _)
    by_cases negative : memory.synchronizationFd.toInt < 0
    · refine iff_of_true (fun fd => ?_) (.inl negative)
      rw [if_neg (not_le.mpr negative)]
    · rw [if_pos (not_lt.mp negative), or_iff_right negative]
      constructor
      · intro kept
        have here := kept memory.synchronizationFd
        rw [if_pos rfl, if_neg nofun] at here
        exact here.symm
      · intro unused fd
        rw [if_neg (show ¬ none = some fd from nofun)]
        split_ifs with same
        · rw [← Option.some.inj same, unused]
        · rfl

theorem closesOwn_iff (h : OwnersObtained s) (e : DescriptorEvent) (he : processEnabled s e) :
    ClosesOwn s e ↔ LeftoverHarmless s e := by
  cases e with
  | build | openOther | closeOther => exact iff_of_true nofun trivial
  | delete address =>
      obtain ⟨b, built⟩ := Option.isSome_iff_exists.mp he
      have next : (processNext s (.delete address)).owner =
          closeDescriptor s.owner (ceventClosed b.event) := by
        rw [processNext, deleteEvent, built]
      have harmless : LeftoverHarmless s (.delete address) ↔ LeftoverNotOpen s.owner b := by
        rw [LeftoverHarmless, built]
        exact ⟨fun every => every b rfl, fun harmless _ same => Option.some.inj same ▸ harmless⟩
      rw [harmless, ← deleteEvent_closesOwn_iff h built, ← next]
      constructor
      · exact fun own => own address rfl
      · rintro own _ ⟨⟩
        exact own

theorem buildEvent_owner (s : EventProcess) (address : Nat) (b : BuiltEvent) (fd : Word) :
    (buildEvent s address b).owner fd =
      if b.obtained = some fd then some (.event address) else s.owner fd := by
  rw [buildEvent]
  cases b.obtained with
  | none => rfl
  | some c =>
      by_cases same : fd = c
      · rw [same, if_pos rfl]
        exact Function.update_self c _ s.owner
      · rw [if_neg fun h => same (Option.some.inj h).symm]
        exact Function.update_of_ne same _ s.owner

theorem buildEvent_ownersObtained (h : OwnersObtained s) {address : Nat} {b : BuiltEvent}
    (free : s.objects address = none) (unused : ObtainsUnused s b) :
    OwnersObtained (buildEvent s address b) := by
  intro a fd
  have before := h a fd
  rw [buildEvent_owner]
  by_cases same : a = address
  · subst same
    have now : (buildEvent s a b).objects a = some b := Function.update_self a _ s.objects
    rw [free] at before
    rw [now]
    split_ifs with obtained
    · exact iff_of_true rfl obtained
    · exact iff_of_false (mt before.mp nofun) obtained
  · have now : (buildEvent s address b).objects a = s.objects a :=
      Function.update_of_ne same _ s.objects
    rw [now, ← before]
    split_ifs with obtained
    · rw [unused fd obtained]
      refine iff_of_false (fun owner => same ?_) nofun
      exact (DescriptorOwner.event.inj (Option.some.inj owner)).symm
    · exact Iff.rfl

theorem deleteEvent_ownersObtained (h : OwnersObtained s) {address : Nat}
    (own : ∀ fd, (deleteEvent s address).owner fd =
      if s.owner fd = some (.event address) then none else s.owner fd)
    (built : (s.objects address).isSome) : OwnersObtained (deleteEvent s address) := by
  have objects : (deleteEvent s address).objects = Function.update s.objects address none := by
    obtain ⟨b, some⟩ := Option.isSome_iff_exists.mp built
    rw [deleteEvent, some]
  intro a fd
  rw [own, objects]
  by_cases same : a = address
  · subst same
    rw [Function.update_self]
    refine iff_of_false ?_ nofun
    split_ifs with owner
    · nofun
    · exact owner
  · rw [Function.update_of_ne same, ← h a fd]
    split_ifs with owner
    · rw [owner]
      refine iff_of_false nofun fun other => same ?_
      exact (DescriptorOwner.event.inj (Option.some.inj other)).symm
    · exact Iff.rfl

/-- Descriptors that belong to no object. -/
theorem otherDescriptor_ownersObtained (h : OwnersObtained s) {fd : Word}
    {who : Option DescriptorOwner} (before : ∀ address, s.owner fd ≠ some (.event address))
    (after : ∀ address, who ≠ some (.event address)) :
    OwnersObtained { s with owner := Function.update s.owner fd who } := by
  intro a fd'
  change Function.update s.owner fd who fd' = _ ↔ _
  by_cases same : fd' = fd
  · subst same
    rw [Function.update_self]
    exact iff_of_false (after a) (mt (h a fd').mpr (before a))
  · rw [Function.update_of_ne same]
    exact h a fd'

theorem processNext_ownersObtained (h : OwnersObtained s) (e : DescriptorEvent)
    (he : processEnabled s e) (harmless : LeftoverHarmless s e) :
    OwnersObtained (processNext s e) := by
  cases e with
  | build address memory iRet gdData k =>
      exact buildEvent_ownersObtained h (Option.isNone_iff_eq_none.mp he.1) he.2
  | delete address =>
      have own := (closesOwn_iff h _ he).mpr harmless
      exact deleteEvent_ownersObtained h (own address rfl) he
  | openOther fd =>
      refine otherDescriptor_ownersObtained h (fun address => ?_) nofun
      rw [he.2]
      nofun
  | closeOther fd =>
      refine otherDescriptor_ownersObtained h (fun address => ?_) nofun
      rw [show s.owner fd = some .other from he]
      nofun

end runs

/-- In every run of event threads in a process, each deletion closes what its object has
obtained and nothing else, exactly if no deleted object has an open descriptor left from its
memory. -/
theorem closes_own_iff {opened : Word → Bool} {es : List DescriptorEvent}
    (admitted : processMachine.Admits (eventFree opened) es) :
    processMachine.EveryStep ClosesOwn (eventFree opened) es ↔
      processMachine.EveryStep LeftoverHarmless (eventFree opened) es :=
  everyStep_iff_everyStep (I := OwnersObtained)
    (fun _ e h he harmless => processNext_ownersObtained h e he harmless)
    (fun _ e h he => closesOwn_iff h e he) (eventFree_ownersObtained opened) admitted

/-- Descriptor 3 is the `m_fd` of a `CGPIO`. -/
def gpioOpened : EventProcess := eventFree fun fd => fd = 3

/-- An event whose record the driver of the GPIO does not give, and then one whose record it
gives, in memory that was 0; descriptor 0 is not open. -/
def twoEvents : List DescriptorEvent :=
  [.build 0 zeroEvent (-1) (halfSecond 0) (givenOut (halfSecond 0)), .delete 0,
    .build 0 zeroEvent 0 (halfSecond 0) (givenOut (halfSecond 0)), .delete 0]

theorem closes_own_iff_twoEvents : processMachine.EveryStep ClosesOwn gpioOpened twoEvents :=
  (closes_own_iff (by decide +kernel)).mpr (by decide +kernel)

/-- The second object is built in the memory of the first, which has obtained descriptor 5. A
callback has opened a file in between and got the number 5 too. -/
def reusedMemory : List DescriptorEvent :=
  [.build 0 zeroEvent (-1) (halfSecond 0) (givenOut (halfSecond 0)), .delete 0, .openOther 5,
    .build 0 (ceventFromDriver zeroEvent (givenOut (halfSecond 0))) 0 (halfSecond 0)
      (givenOut (halfSecond 0)), .delete 0]

theorem closes_own_refuted :
    ¬ ∀ (opened : Word → Bool) (es : List DescriptorEvent),
      processMachine.Admits (eventFree opened) es →
        processMachine.EveryStep ClosesOwn (eventFree opened) es := by
  intro every
  have own := every (fun fd => fd = 3) reusedMemory (by decide +kernel)
  have fifth := own.2.2.2.2.1 0 rfl 5
  exact absurd fifth (by decide +kernel)

end Gumstix.Classes
