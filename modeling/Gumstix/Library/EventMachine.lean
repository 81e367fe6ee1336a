import Mathlib.Data.List.Infix

/-!
# Event machines

A machine takes one event at a time; an event may be disabled in a state. A run is a
list of events, judged step by step. The rules below turn facts about one step into
facts about every state of a run, including the exact form: a property holds along a
run if and only if every step of the run meets a condition.
-/

/-- A deterministic machine whose events may be disabled. -/
structure EventMachine (σ ε : Type*) where
  enabled : σ → ε → Prop
  next : σ → ε → σ

namespace EventMachine
variable {σ ε γ : Type*} (M : EventMachine σ ε)

def run : σ → List ε → σ
  | s, [] => s
  | s, e :: es => run (M.next s e) es

/-- Every event of the list is enabled in the state it meets. -/
def Admits : σ → List ε → Prop
  | _, [] => True
  | s, e :: es => M.enabled s e ∧ Admits (M.next s e) es

def Reachable (s t : σ) : Prop := ∃ es, M.Admits s es ∧ M.run s es = t

/-- `P` holds in the first state and in every state the run passes through. -/
def Always (P : σ → Prop) : σ → List ε → Prop
  | s, [] => P s
  | s, e :: es => P s ∧ Always P (M.next s e) es

/-- Every step of the run satisfies `C`, judged in the state before the step. -/
def EveryStep (C : σ → ε → Prop) : σ → List ε → Prop
  | _, [] => True
  | s, e :: es => C s e ∧ EveryStep C (M.next s e) es

@[simp] theorem run_nil (s : σ) : M.run s [] = s := rfl

@[simp] theorem run_cons (s : σ) (e : ε) (es : List ε) :
    M.run s (e :: es) = M.run (M.next s e) es := rfl

theorem run_append (s : σ) (es fs : List ε) : M.run s (es ++ fs) = M.run (M.run s es) fs := by
  induction es generalizing s with
  | nil => rfl
  | cons e es ih => exact ih (M.next s e)

theorem admits_append (s : σ) (es fs : List ε) :
    M.Admits s (es ++ fs) ↔ M.Admits s es ∧ M.Admits (M.run s es) fs := by
  induction es generalizing s with
  | nil => simp only [List.nil_append, Admits, run_nil, true_and]
  | cons e es ih => simp only [List.cons_append, Admits, run_cons, ih, and_assoc]

instance decidableAdmits [∀ s e, Decidable (M.enabled s e)] :
    (s : σ) → (es : List ε) → Decidable (M.Admits s es)
  | _, [] => inferInstanceAs (Decidable True)
  | s, e :: es =>
      have := decidableAdmits (M.next s e) es
      inferInstanceAs (Decidable (M.enabled s e ∧ M.Admits (M.next s e) es))

instance decidableEveryStep {C : σ → ε → Prop} [∀ s e, Decidable (C s e)] :
    (s : σ) → (es : List ε) → Decidable (M.EveryStep C s es)
  | _, [] => inferInstanceAs (Decidable True)
  | s, e :: es =>
      have := decidableEveryStep (C := C) (M.next s e) es
      inferInstanceAs (Decidable (C s e ∧ M.EveryStep C (M.next s e) es))

variable {M}

theorem everyStep_append {C : σ → ε → Prop} {s : σ} {es fs : List ε} :
    M.EveryStep C s (es ++ fs) ↔ M.EveryStep C s es ∧ M.EveryStep C (M.run s es) fs := by
  induction es generalizing s with
  | nil => simp only [List.nil_append, EveryStep, run_nil, true_and]
  | cons e es ih => simp only [List.cons_append, EveryStep, run_cons, ih, and_assoc]

theorem Reachable.run {s : σ} {es : List ε} (h : M.Admits s es) : M.Reachable s (M.run s es) :=
  ⟨es, h, rfl⟩

theorem Reachable.trans {s t u : σ} (hst : M.Reachable s t) (htu : M.Reachable t u) :
    M.Reachable s u := by
  obtain ⟨es, hes, rfl⟩ := hst
  obtain ⟨fs, hfs, rfl⟩ := htu
  exact ⟨es ++ fs, (M.admits_append s es fs).mpr ⟨hes, hfs⟩, M.run_append s es fs⟩

theorem Reachable.step {s t : σ} {e : ε} (h : M.Reachable s t) (he : M.enabled t e) :
    M.Reachable s (M.next t e) := h.trans ⟨[e], ⟨he, trivial⟩, rfl⟩

/-- A predicate that every enabled step keeps holds after any admitted run. -/
theorem kept_by_run {I : σ → Prop} (hstep : ∀ s e, I s → M.enabled s e → I (M.next s e))
    {s : σ} {es : List ε} (hs : I s) (h : M.Admits s es) : I (M.run s es) := by
  induction es generalizing s with
  | nil => exact hs
  | cons e es ih => exact ih (hstep s e hs h.1) h.2

theorem Reachable.invariant {I : σ → Prop} {s t : σ} (h : M.Reachable s t) (hs : I s)
    (hstep : ∀ s e, I s → M.enabled s e → I (M.next s e)) : I t := by
  obtain ⟨es, hes, rfl⟩ := h
  exact kept_by_run hstep hs hes

/-- The states of a run are the states after its prefixes. -/
theorem always_iff_every_front {P : σ → Prop} {s : σ} {es : List ε} :
    M.Always P s es ↔ ∀ front, front <+: es → P (M.run s front) := by
  induction es generalizing s with
  | nil => simp only [Always, List.prefix_nil, forall_eq, run_nil]
  | cons e es ih =>
      simp only [Always, ih, List.prefix_cons_iff]
      constructor
      · rintro ⟨hs, h⟩ front (rfl | ⟨front, rfl, hf⟩)
        · exact hs
        · exact h front hf
      · intro h
        exact ⟨h [] (.inl rfl), fun front hf => h (e :: front) (.inr ⟨front, rfl, hf⟩)⟩

theorem Always.last {P : σ → Prop} {s : σ} {es : List ε} (h : M.Always P s es) :
    P (M.run s es) := always_iff_every_front.mp h es List.prefix_rfl

theorem always_mono {P Q : σ → Prop} (hPQ : ∀ s, P s → Q s) {s : σ} {es : List ε}
    (h : M.Always P s es) : M.Always Q s es :=
  always_iff_every_front.mpr fun front hf => hPQ _ (always_iff_every_front.mp h front hf)

/-- An invariant kept by the steps that meet `C` holds along every run of such steps. -/
theorem always_of_everyStep {I : σ → Prop} {C : σ → ε → Prop}
    (hkeep : ∀ s e, I s → M.enabled s e → C s e → I (M.next s e))
    {s : σ} {es : List ε} (hs : I s) (h : M.Admits s es) (hC : M.EveryStep C s es) :
    M.Always I s es := by
  induction es generalizing s with
  | nil => exact hs
  | cons e es ih => exact ⟨hs, ih (hkeep s e hs h.1 hC.1) h.2 hC.2⟩

/-- The exact form. `I` strengthens `P`; a step from an `I`-state that meets `C` restores
`I`, and one that does not meet `C` destroys `P`. -/
theorem always_iff_everyStep {I P : σ → Prop} {C : σ → ε → Prop} (hIP : ∀ s, I s → P s)
    (hkeep : ∀ s e, I s → M.enabled s e → C s e → I (M.next s e))
    (hbreak : ∀ s e, I s → M.enabled s e → P (M.next s e) → C s e)
    {s : σ} {es : List ε} (hs : I s) (h : M.Admits s es) :
    M.Always P s es ↔ M.EveryStep C s es := by
  refine ⟨fun hP => ?_, fun hC => always_mono hIP (always_of_everyStep hkeep hs h hC)⟩
  induction es generalizing s with
  | nil => trivial
  | cons e es ih =>
      have hnext : P (M.next s e) := by
        cases es with
        | nil => exact hP.2
        | cons f es => exact hP.2.1
      have hC := hbreak s e hs h.1 hnext
      exact ⟨hC, ih (hkeep s e hs h.1 hC) h.2 hP.2⟩

/-- A predicate that every step with `C` keeps holds after any run of such steps. -/
theorem EveryStep.kept {I : σ → Prop} {C : σ → ε → Prop}
    (hkeep : ∀ s e, I s → C s e → I (M.next s e)) {s : σ} {es : List ε} (hs : I s)
    (hC : M.EveryStep C s es) : I (M.run s es) := by
  induction es generalizing s with
  | nil => exact hs
  | cons e es ih => exact ih (hkeep s e hs hC.1) hC.2

theorem everyStep_forall {C : σ → ε → Prop} (h : ∀ s e, C s e) (s : σ) (es : List ε) :
    M.EveryStep C s es := by
  induction es generalizing s with
  | nil => trivial
  | cons e es ih => exact ⟨h s e, ih (M.next s e)⟩

/-- A step property that follows from the invariant and `C` holds at every step. -/
theorem everyStep_of_everyStep {I : σ → Prop} {C Q : σ → ε → Prop}
    (hkeep : ∀ s e, I s → M.enabled s e → C s e → I (M.next s e))
    (hQ : ∀ s e, I s → M.enabled s e → C s e → Q s e)
    {s : σ} {es : List ε} (hs : I s) (h : M.Admits s es) (hC : M.EveryStep C s es) :
    M.EveryStep Q s es := by
  induction es generalizing s with
  | nil => trivial
  | cons e es ih =>
      exact ⟨hQ s e hs h.1 hC.1, ih (hkeep s e hs h.1 hC.1) h.2 hC.2⟩

/-- Two step properties that agree wherever the invariant holds. -/
theorem everyStep_iff_everyStep {I : σ → Prop} {C Q : σ → ε → Prop}
    (hkeep : ∀ s e, I s → M.enabled s e → C s e → I (M.next s e))
    (hiff : ∀ s e, I s → M.enabled s e → (Q s e ↔ C s e))
    {s : σ} {es : List ε} (hs : I s) (h : M.Admits s es) :
    M.EveryStep Q s es ↔ M.EveryStep C s es := by
  constructor
  · refine everyStep_of_everyStep (fun s e hI he hQ => ?_)
      (fun s e hI he => (hiff s e hI he).mp) hs h
    exact hkeep s e hI he ((hiff s e hI he).mp hQ)
  · exact everyStep_of_everyStep hkeep (fun s e hI he => (hiff s e hI he).mpr) hs h

/-- What always holds, holds after every step. -/
theorem Always.everyStep {P : σ → Prop} {s : σ} {es : List ε} (h : M.Always P s es) :
    M.EveryStep (fun s e => P (M.next s e)) s es := by
  induction es generalizing s with
  | nil => trivial
  | cons e es ih => exact ⟨always_iff_every_front.mp h.2 [] List.nil_prefix, ih h.2⟩

theorem EveryStep.and {C Q : σ → ε → Prop} {s : σ} {es : List ε} (hC : M.EveryStep C s es)
    (hQ : M.EveryStep Q s es) : M.EveryStep (fun s e => C s e ∧ Q s e) s es := by
  induction es generalizing s with
  | nil => trivial
  | cons e es ih => exact ⟨⟨hC.1, hQ.1⟩, ih hC.2 hQ.2⟩

/-- A trap `T` is left by no step that satisfies `Q`. If every step that misses `C` leads
into it from the invariant, a run of `Q`-steps that ends outside it has met `C` throughout. -/
theorem everyStep_of_trap_of_kept {I T : σ → Prop} {C Q : σ → ε → Prop}
    (hkeep : ∀ s e, I s → M.enabled s e → Q s e → I (M.next s e))
    (caught : ∀ s e, I s → M.enabled s e → Q s e → ¬ C s e → T (M.next s e))
    (trapped : ∀ s e, I s → T s → M.enabled s e → Q s e → T (M.next s e))
    {s : σ} {es : List ε} (hs : I s) (h : M.Admits s es) (hQ : M.EveryStep Q s es)
    (out : ¬ T (M.run s es)) : M.EveryStep C s es := by
  induction es generalizing s with
  | nil => trivial
  | cons e es ih =>
      have kept := hkeep s e hs h.1 hQ.1
      refine ⟨by_contra fun missed => out ?_, ih kept h.2 hQ.2 out⟩
      have remains : M.Always (fun t => I t ∧ T t) (M.next s e) es := by
        refine always_of_everyStep (fun t f both he hq => ?_)
          ⟨kept, caught s e hs h.1 hQ.1 missed⟩ h.2 hQ.2
        exact ⟨hkeep t f both.1 he hq, trapped t f both.1 both.2 he hq⟩
      exact remains.last.2

/-- The same where no invariant is needed. -/
theorem everyStep_of_trap {T : σ → Prop} {C Q : σ → ε → Prop}
    (caught : ∀ s e, M.enabled s e → ¬ C s e → T (M.next s e))
    (trapped : ∀ s e, T s → M.enabled s e → Q s e → T (M.next s e))
    {s : σ} {es : List ε} (h : M.Admits s es) (hQ : M.EveryStep Q s es)
    (out : ¬ T (M.run s es)) : M.EveryStep C s es :=
  everyStep_of_trap_of_kept (I := fun _ => True) (fun _ _ _ _ _ => trivial)
    (fun s e _ he _ => caught s e he) (fun s e _ => trapped s e) trivial h hQ out

section completion
variable {I D : σ → Prop} {μ : σ → Nat}

/-- A machine whose steps lower a measure makes finitely many of them. -/
theorem length_le_of_measure (hstep : ∀ s e, I s → M.enabled s e → I (M.next s e))
    (lower : ∀ s e, I s → M.enabled s e → μ (M.next s e) < μ s) {s : σ} {es : List ε} (hs : I s)
    (h : M.Admits s es) : es.length + μ (M.run s es) ≤ μ s := by
  induction es generalizing s with
  | nil => exact (Nat.zero_add _).le
  | cons e es ih =>
      have rest := ih (hstep s e hs h.1) h.2
      have first := lower s e hs h.1
      rw [List.length_cons, run_cons]
      omega

/-- If it only stops where `D` holds, every run can be carried on until it does. -/
theorem exists_completion (hstep : ∀ s e, I s → M.enabled s e → I (M.next s e))
    (lower : ∀ s e, I s → M.enabled s e → μ (M.next s e) < μ s)
    (goes : ∀ s, I s → ¬ D s → ∃ e, M.enabled s e) {s : σ} (hs : I s) :
    ∃ es, M.Admits s es ∧ D (M.run s es) := by
  induction bound : μ s using Nat.strong_induction_on generalizing s with
  | _ n ih =>
      subst bound
      by_cases done : D s
      · exact ⟨[], trivial, done⟩
      obtain ⟨e, enabled⟩ := goes s hs done
      obtain ⟨es, admits, ends⟩ := ih _ (lower s e hs enabled) (hstep s e hs enabled) rfl
      exact ⟨e :: es, ⟨enabled, admits⟩, ends⟩

end completion

variable (M) in
/-- The machine whose environment keeps to `G`. -/
def assuming (G : σ → ε → Prop) : EventMachine σ ε where
  enabled s e := M.enabled s e ∧ G s e
  next := M.next

instance (G : σ → ε → Prop) (s : σ) (e : ε) [Decidable (M.enabled s e)] [Decidable (G s e)] :
    Decidable ((M.assuming G).enabled s e) := inferInstanceAs (Decidable (_ ∧ _))

variable (M) in
/-- An observer follows a machine without influencing it; its memory records what the state alone
does not tell. -/
def observe (watch : σ → ε → γ → γ) : EventMachine (σ × γ) ε where
  enabled s e := M.enabled s.1 e
  next s e := (M.next s.1 e, watch s.1 e s.2)

@[simp] theorem observe_enabled (watch : σ → ε → γ → γ) (s : σ × γ) (e : ε) :
    (M.observe watch).enabled s e = M.enabled s.1 e := rfl

@[simp] theorem observe_next (watch : σ → ε → γ → γ) (s : σ × γ) (e : ε) :
    (M.observe watch).next s e = (M.next s.1 e, watch s.1 e s.2) := rfl

theorem observe_admits (watch : σ → ε → γ → γ) (s : σ × γ) (es : List ε) :
    (M.observe watch).Admits s es ↔ M.Admits s.1 es := by
  induction es generalizing s with
  | nil => exact Iff.rfl
  | cons e es ih => simp only [Admits, observe_enabled, observe_next, ih]

/-- An observer changes nothing. -/
theorem observe_run (watch : σ → ε → γ → γ) (s : σ × γ) (es : List ε) :
    ((M.observe watch).run s es).1 = M.run s.1 es := by
  induction es generalizing s with
  | nil => rfl
  | cons e es ih => exact ih ((M.observe watch).next s e)

/-- A condition that does not read the observer's memory. -/
theorem observe_everyStep (watch : σ → ε → γ → γ) {C : σ → ε → Prop} (s : σ × γ) (es : List ε) :
    (M.observe watch).EveryStep (fun s e => C s.1 e) s es ↔ M.EveryStep C s.1 es := by
  induction es generalizing s with
  | nil => exact Iff.rfl
  | cons e es ih => simp only [EveryStep, observe_next, ih]

end EventMachine
