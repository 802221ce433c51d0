import Mathlib.Order.Basic
import Mathlib.Algebra.Group.Prod

set_option autoImplicit false

/-! # Labelled transition systems with an executable step

A `Transition.System` is a state type, an action type, one initial state and a partial step
function: `step s a = none` says that action `a` cannot be taken in `s`. All nondeterminism
(interleaving, clock readings, answers of the environment) sits in the choice of the action, so a
run is a list of actions and can be evaluated.

Three rules carry most proofs over runs:

* `System.Preserves.run`: what one step preserves, a run preserves, where the steps of the run may
  be asked to meet a condition in the state they are taken from (`System.Meets`);
* `System.reachable_of_preserves`: the same for every reachable state, without a condition;
* `System.meets_iff_of_flag`: where one step keeps a flag exactly if it meets the condition, the
  flag of the last state says whether the whole run met it.

`System.run_of_preserves_history` is the run rule for properties of a state and of the actions that
led to it. `System.cost` adds up what the steps of a run cost, and `System.run_of_preserves_cost` is
the run rule for properties of a state and of the cost of getting there; `System.tally` and
`System.run_of_preserves_tally` are the same for what does not simply add up.

`System.instrument` adds a note that is kept along a run and that no step reads, for conditions and
invariants about what happened before. `System.Simulates` relates a system to an abstract step
relation through an abstraction function. -/

namespace Transition

/-- A transition system over states `σ` and actions `α`. -/
structure System (σ α : Type*) where
  /-- The state every run starts from. -/
  init : σ
  /-- The effect of an action, `none` where it is not enabled. -/
  step : σ → α → Option σ

namespace System

variable {σ α τ : Type*} (M : System σ α)

/-- Take the actions in order; `none` as soon as one of them is not enabled. -/
def run : σ → List α → Option σ
  | s, [] => some s
  | s, a :: as => (M.step s a).bind fun s' => run s' as

/-- `s` is the last state of some run from the initial state. -/
def Reachable (s : σ) : Prop := ∃ as, M.run M.init as = some s

/-- Every step of the run meets `P` in the state it is taken from. -/
def Meets (P : σ → α → Prop) : σ → List α → Prop
  | _, [] => True
  | s, a :: as => P s a ∧ ∀ s', M.step s a = some s' → Meets P s' as

/-- The steps of a run, each with the state it is taken from. -/
def trace : σ → List α → List (σ × α)
  | _, [] => []
  | s, a :: as => (s, a) :: match M.step s a with
      | some s' => trace s' as
      | none => []

/-- What the steps of the run cost, each in the state it is taken from. -/
def cost {β : Type*} [AddMonoid β] (c : σ → α → β) : σ → List α → β
  | _, [] => 0
  | s, a :: as => c s a + match M.step s a with
      | some s' => cost c s' as
      | none => 0

/-- What the steps of the run make of `b`, each in the state it is taken from. -/
def tally {β : Type*} (f : σ → α → β → β) : β → σ → List α → β
  | b, _, [] => b
  | b, s, a :: as => match M.step s a with
      | some s' => tally f (f s a b) s' as
      | none => b

instance decidableMeets {P : σ → α → Prop} [∀ s a, Decidable (P s a)] :
    ∀ (s : σ) (as : List α), Decidable (M.Meets P s as)
  | _, [] => isTrue trivial
  | s, a :: as =>
      match h : M.step s a with
      | none => decidable_of_iff (P s a)
          ⟨fun hP => ⟨hP, fun s' hs' => by simp [h] at hs'⟩, fun hm => hm.1⟩
      | some s' =>
          have : Decidable (M.Meets P s' as) := decidableMeets s' as
          decidable_of_iff (P s a ∧ M.Meets P s' as)
            ⟨fun hm => ⟨hm.1, fun t ht => Option.some.inj (h.symm.trans ht) ▸ hm.2⟩,
              fun hm => ⟨hm.1, hm.2 s' h⟩⟩

/-- One step that meets `P` preserves `I`. -/
def Preserves (P : σ → α → Prop) (I : σ → Prop) : Prop :=
  ∀ s a s', I s → P s a → M.step s a = some s' → I s'

variable {M}

theorem run_cons_eq_some {s s'' : σ} {a : α} {as : List α} :
    M.run s (a :: as) = some s'' ↔ ∃ s', M.step s a = some s' ∧ M.run s' as = some s'' := by
  simp [run, Option.bind_eq_some_iff]

theorem run_append {s s' s'' : σ} {as bs : List α} (h : M.run s as = some s')
    (h' : M.run s' bs = some s'') : M.run s (as ++ bs) = some s'' := by
  induction as generalizing s with
  | nil =>
      obtain rfl : s = s' := by simpa [run] using h
      exact h'
  | cons a as ih =>
      obtain ⟨t, ht, hrun⟩ := run_cons_eq_some.1 h
      exact run_cons_eq_some.2 ⟨t, ht, ih hrun⟩

theorem run_append_eq_some {s s'' : σ} {as bs : List α} :
    M.run s (as ++ bs) = some s'' ↔ ∃ s', M.run s as = some s' ∧ M.run s' bs = some s'' := by
  induction as generalizing s with
  | nil => simp [run]
  | cons a as ih =>
      simp only [List.cons_append, run_cons_eq_some, ih]
      constructor
      · rintro ⟨t, ht, s', hs', hrest⟩
        exact ⟨s', ⟨t, ht, hs'⟩, hrest⟩
      · rintro ⟨s', ⟨t, ht, hs'⟩, hrest⟩
        exact ⟨t, ht, s', hs', hrest⟩

theorem Reachable.step {s s' : σ} {a : α} (h : M.Reachable s) (hs : M.step s a = some s') :
    M.Reachable s' := by
  obtain ⟨as, has⟩ := h
  exact ⟨as ++ [a], run_append has (by simp [run, hs])⟩

/-- **The run rule.** A property that every step meeting `P` preserves holds at the end of every
run whose steps all meet `P`. -/
theorem Preserves.run {P : σ → α → Prop} {I : σ → Prop} (h : M.Preserves P I) {as : List α} :
    ∀ {s s' : σ}, I s → M.Meets P s as → M.run s as = some s' → I s' := by
  induction as with
  | nil =>
      intro s s' hI _ hrun
      obtain rfl : s = s' := by simpa [System.run] using hrun
      exact hI
  | cons a as ih =>
      intro s s'' hI hmeets hrun
      obtain ⟨s', hs', hrest⟩ := run_cons_eq_some.1 hrun
      exact ih (h s a s' hI hmeets.1 hs') (hmeets.2 s' hs') hrest

theorem meets_of_forall {P : σ → α → Prop} (h : ∀ s a, P s a) :
    ∀ (as : List α) (s : σ), M.Meets P s as
  | [], _ => trivial
  | _ :: as, s => ⟨h s _, fun s' _ => meets_of_forall h as s'⟩

theorem Meets.imp {P Q : σ → α → Prop} (h : ∀ s a, P s a → Q s a) :
    ∀ {as : List α} {s : σ}, M.Meets P s as → M.Meets Q s as
  | [], _, _ => trivial
  | _ :: _, s, hm => ⟨h s _ hm.1, fun s' hs' => Meets.imp h (hm.2 s' hs')⟩

theorem meets_iff_trace {P : σ → α → Prop} {as : List α} :
    ∀ {s : σ}, M.Meets P s as ↔ ∀ x ∈ M.trace s as, P x.1 x.2 := by
  induction as with
  | nil => simp [Meets, trace]
  | cons a as ih =>
      intro s
      unfold Meets trace
      rw [List.forall_mem_cons]
      refine and_congr_right fun _ => ?_
      cases M.step s a with
      | none => simp
      | some s' => simp [ih]

/-- A run meets `P` if every step does, in the state that the steps before it lead to. -/
theorem meets_iff_prefix {P : σ → α → Prop} {as : List α} :
    ∀ {s : σ}, M.Meets P s as ↔
      ∀ before a s', before ++ [a] <+: as → M.run s before = some s' → P s' a := by
  induction as with
  | nil => simp [Meets]
  | cons a as ih =>
      intro s
      unfold Meets
      constructor
      · rintro ⟨hP, hrest⟩ before b s' hprefix hrun
        cases before with
        | nil =>
            obtain ⟨rfl, -⟩ := List.cons_prefix_cons.1 hprefix
            obtain rfl : s = s' := by simpa [run] using hrun
            exact hP
        | cons a' before =>
            obtain ⟨rfl, htail⟩ := List.cons_prefix_cons.1 hprefix
            obtain ⟨t, ht, hrest'⟩ := run_cons_eq_some.1 hrun
            exact ih.1 (hrest t ht) before b s' htail hrest'
      · intro h
        refine ⟨h [] a s (by simp) rfl, fun t ht => ih.2 fun before b s' hprefix hrun => ?_⟩
        refine h (a :: before) b s' (List.cons_prefix_cons.2 ⟨rfl, hprefix⟩) ?_
        simpa [run, ht] using hrun

/-- **The invariant rule.** An initial property that every step preserves holds of every reachable
state. -/
theorem reachable_of_preserves {I : σ → Prop} (h0 : I M.init)
    (h : ∀ s a s', I s → M.step s a = some s' → I s') {s : σ} (hs : M.Reachable s) : I s := by
  obtain ⟨as, has⟩ := hs
  have hpres : M.Preserves (fun _ _ => True) I := fun s a s' hI _ hstep => h s a s' hI hstep
  exact hpres.run h0 (meets_of_forall (fun _ _ => trivial) as _) has

/-- Invariants may be proved one on top of another: `J` only has to be preserved where `I`, known
to hold of every reachable state, holds. -/
theorem reachable_of_preserves_within {I J : σ → Prop} (hI : ∀ s, M.Reachable s → I s)
    (h0 : J M.init) (h : ∀ s a s', I s → J s → M.step s a = some s' → J s') {s : σ}
    (hs : M.Reachable s) : J s := by
  have hinv : M.Reachable s ∧ J s :=
    reachable_of_preserves (I := fun s => M.Reachable s ∧ J s) ⟨⟨[], rfl⟩, h0⟩
      (fun s a s' hJ hstep => ⟨hJ.1.step hstep, h s a s' (hI s hJ.1) hJ.2 hstep⟩) hs
  exact hinv.2

/-- The run rule on top of an invariant of the reachable states. -/
theorem run_of_preserves_within {P : σ → α → Prop} {I J : σ → Prop}
    (hI : ∀ s, M.Reachable s → I s) (h0 : J M.init)
    (h : ∀ s a s', I s → J s → P s a → M.step s a = some s' → J s') {as : List α} {s : σ}
    (hmeets : M.Meets P M.init as) (hrun : M.run M.init as = some s) : J s := by
  have hpres : M.Preserves P fun s => M.Reachable s ∧ J s :=
    fun s a s' hJ hP hstep => ⟨hJ.1.step hstep, h s a s' (hI s hJ.1) hJ.2 hP hstep⟩
  exact (hpres.run ⟨⟨[], rfl⟩, h0⟩ hmeets hrun).2

/-- **The history rule.** A property of the actions taken and of the state they lead to that every
step preserves holds at the end of every run whose steps all meet `P`. -/
theorem run_of_preserves_history {P : σ → α → Prop} {I : List α → σ → Prop} (h0 : I [] M.init)
    (h : ∀ as s a s', I as s → P s a → M.step s a = some s' → I (as ++ [a]) s') {as : List α}
    {s : σ} (hmeets : M.Meets P M.init as) (hrun : M.run M.init as = some s) : I as s := by
  have hgen : ∀ (as before : List α) (s s' : σ), I before s → M.Meets P s as →
      M.run s as = some s' → I (before ++ as) s' := by
    intro as
    induction as with
    | nil =>
        intro before s s' hI _ hrun
        obtain rfl : s = s' := by simpa [System.run] using hrun
        simpa using hI
    | cons a as ih =>
        intro before s s'' hI hmeets hrun
        obtain ⟨s', hs', hrest⟩ := run_cons_eq_some.1 hrun
        have hI' := h before s a s' hI hmeets.1 hs'
        simpa using ih (before ++ [a]) s' s'' hI' (hmeets.2 s' hs') hrest
  simpa using hgen as [] M.init s h0 hmeets hrun

/-- **The cost rule.** A property of a state and of a cost that every step preserves, the cost
growing by what the step costs, holds at the end of a run of what the run costs. -/
theorem run_of_preserves_cost {β : Type*} [AddMonoid β] {c : σ → α → β} {I : σ → β → Prop}
    (h : ∀ s b a s', I s b → M.step s a = some s' → I s' (b + c s a)) {as : List α} :
    ∀ {s s' : σ} {b : β}, I s b → M.run s as = some s' → I s' (b + M.cost c s as) := by
  induction as with
  | nil =>
      intro s s' b hI hrun
      obtain rfl : s = s' := by simpa [System.run] using hrun
      simpa [cost] using hI
  | cons a as ih =>
      intro s s'' b hI hrun
      obtain ⟨s', hs', hrest⟩ := run_cons_eq_some.1 hrun
      have hcost : M.cost c s (a :: as) = c s a + M.cost c s' as := by simp [cost, hs']
      rw [hcost, ← add_assoc]
      exact ih (h s b a s' hI hs') hrest

/-- **The tally rule.** The same for what the steps of a run make of an initial value. -/
theorem run_of_preserves_tally {β : Type*} {f : σ → α → β → β} {I : σ → β → Prop}
    (h : ∀ s b a s', I s b → M.step s a = some s' → I s' (f s a b)) {as : List α} :
    ∀ {s s' : σ} {b : β}, I s b → M.run s as = some s' → I s' (M.tally f b s as) := by
  induction as with
  | nil =>
      intro s s' b hI hrun
      obtain rfl : s = s' := by simpa [System.run] using hrun
      exact hI
  | cons a as ih =>
      intro s s'' b hI hrun
      obtain ⟨s', hs', hrest⟩ := run_cons_eq_some.1 hrun
      have htally : M.tally f b s (a :: as) = M.tally f (f s a b) s' as := by simp [tally, hs']
      rw [htally]
      exact ih (h s b a s' hI hs') hrest

/-- **The flag rule.** If, where the invariant `I` holds, a step keeps `F` exactly when it meets
`P`, then `F` survives a run exactly when all of its steps meet `P`. -/
theorem meets_iff_of_flag {P : σ → α → Prop} {F I : σ → Prop}
    (hI : ∀ s a s', I s → M.step s a = some s' → I s')
    (hF : ∀ s a s', I s → M.step s a = some s' → (F s' ↔ F s ∧ P s a)) {as : List α} :
    ∀ {s s' : σ}, I s → M.run s as = some s' → (F s' ↔ F s ∧ M.Meets P s as) := by
  induction as with
  | nil =>
      intro s s' _ hrun
      obtain rfl : s = s' := by simpa [System.run] using hrun
      simp [Meets]
  | cons a as ih =>
      intro s s'' hs hrun
      obtain ⟨s', hs', hrest⟩ := run_cons_eq_some.1 hrun
      rw [ih (hI s a s' hs hs') hrest, hF s a s' hs hs', and_assoc]
      refine and_congr_right fun _ => and_congr_right fun _ => ?_
      constructor
      · intro hm t ht
        obtain rfl : s' = t := by simpa [hs'] using ht
        exact hm
      · exact fun hm => hm s' hs'

/-! ## Notes -/

/-- The system with a note about its past: every step that is taken is written down, and none
depends on what the note says. -/
def instrument (M : System σ α) {β : Type*} (empty : β) (write : β → σ → α → β) :
    System (σ × β) α where
  init := (M.init, empty)
  step x a := (M.step x.1 a).map fun s' => (s', write x.2 x.1 a)

/-- Taking notes prevents nothing. -/
theorem exists_run_instrument {β : Type*} (empty : β) (write : β → σ → α → β) {as : List α} :
    ∀ {s s' : σ} (x : β), M.run s as = some s' →
      ∃ x', (M.instrument empty write).run (s, x) as = some (s', x') := by
  induction as with
  | nil =>
      intro s s' x hrun
      obtain rfl : s = s' := by simpa [run] using hrun
      exact ⟨x, rfl⟩
  | cons a as ih =>
      intro s s'' x hrun
      obtain ⟨s', hs', hrest⟩ := run_cons_eq_some.1 hrun
      obtain ⟨x', hx'⟩ := ih (write x s a) hrest
      exact ⟨x', run_cons_eq_some.2 ⟨(s', write x s a), by simp [instrument, hs'], hx'⟩⟩

/-- Every step of the system is, through `abs`, a step of the abstract relation `R` or changes
nothing there. -/
def Simulates (M : System σ α) (abs : σ → τ) (R : τ → τ → Prop) : Prop :=
  ∀ s a s', M.step s a = some s' → abs s' = abs s ∨ R (abs s) (abs s')

/-- What the abstract relation preserves holds of the abstraction of every reachable state. -/
theorem Simulates.reachable {abs : σ → τ} {R : τ → τ → Prop} (h : M.Simulates abs R) {I : τ → Prop}
    (h0 : I (abs M.init)) (hR : ∀ t t', I t → R t t' → I t') {s : σ} (hs : M.Reachable s) :
    I (abs s) := by
  refine reachable_of_preserves (I := fun s => I (abs s)) h0 (fun s a s' hI hstep => ?_) hs
  rcases h s a s' hstep with heq | hstep'
  · rw [heq]; exact hI
  · exact hR _ _ hI hstep'

end System

end Transition
