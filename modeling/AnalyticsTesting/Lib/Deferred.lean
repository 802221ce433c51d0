import AnalyticsTesting.Lib.Transition
import Mathlib.Algebra.BigOperators.Group.List.Basic
import Mathlib.Algebra.GroupWithZero.Nat
import Mathlib.Algebra.Order.Group.Nat
import Mathlib.Data.List.Nodup
import Mathlib.Data.List.Perm.Basic

set_option autoImplicit false

/-! # Effects that follow their step

A thread that changes shared state under a lock and tells a second object about it once the lock is
released does so in several statements, and other threads may move in between. `Deferring` is a
system with the effects that each of its steps leaves behind, and `Deferring.deferred` the system in
which the thread that took the step carries them out one by one, in order, before it takes another
step, while the others go on.

The store that results is described by what is still owed: carrying out the rest gives the store of
the system that applies all effects at once (`Deferring.settled_reachable`), provided that effects
of different threads commute. What is owed is small, because a thread owes the effects of one step
at most (`Deferring.owners_nodup`), and the thread is still where that step left it
(`Deferring.owed_holds`). -/

namespace Transition

/-- A system whose steps leave effects for a thread to carry out on a store. -/
structure Deferring (σ α θ ι ρ : Type*) where
  sys : System σ α
  /-- The thread that takes the action. An action of nobody waits for nobody. -/
  owner : α → Option θ
  /-- What the thread does after the step, in order. -/
  effects : σ → α → List ι
  apply : ρ → ι → ρ
  store : ρ

/-- The state of the system, the store, and the effects that are owed to it, oldest first. -/
structure Deferred (σ θ ι ρ : Type*) where
  base : σ
  store : ρ
  owed : List (θ × ι)

/-- A step of the system, or the next effect that a thread owes. -/
inductive DeferredAction (α θ : Type*)
  | base (a : α)
  | pay (t : θ)

namespace Deferring

variable {σ α θ ι ρ : Type*} (D : Deferring σ α θ ι ρ)

/-- What the step leaves owed. -/
def issued (s : σ) (a : α) : List (θ × ι) :=
  match D.owner a with
  | none => []
  | some t => (D.effects s a).map fun i => (t, i)

/-- A thread that owes an effect cannot take a step. -/
def Blocked (owed : List (θ × ι)) (a : α) : Prop := ∃ e ∈ owed, D.owner a = some e.1

instance [DecidableEq θ] (owed : List (θ × ι)) (a : α) : Decidable (D.Blocked owed a) :=
  inferInstanceAs (Decidable (∃ e ∈ owed, D.owner a = some e.1))

/-- The system with its effects carried out afterwards. -/
def deferred [DecidableEq θ] : System (Deferred σ θ ι ρ) (DeferredAction α θ) where
  init := ⟨D.sys.init, D.store, []⟩
  step x
    | .base a =>
        if D.Blocked x.owed a then none
        else (D.sys.step x.base a).map fun s' =>
          { x with base := s', owed := x.owed ++ D.issued x.base a }
    | .pay t => (x.owed.find? fun e => e.1 = t).map fun e =>
        { x with store := D.apply x.store e.2, owed := x.owed.eraseP fun e => e.1 = t }

/-- The system with its effects carried out at once. -/
def write (r : ρ) (s : σ) (a : α) : ρ := ((D.issued s a).map Prod.snd).foldl D.apply r

def immediate : System (σ × ρ) α := D.sys.instrument D.store D.write

/-- The store once everything that is owed is carried out. -/
def settled (x : Deferred σ θ ι ρ) : ρ := (x.owed.map Prod.snd).foldl D.apply x.store

variable {D}

theorem mem_issued {s : σ} {a : α} {e : θ × ι} (he : e ∈ D.issued s a) :
    D.owner a = some e.1 ∧ e.2 ∈ D.effects s a := by
  unfold issued at he
  cases howner : D.owner a with
  | none => simp [howner] at he
  | some t =>
      obtain ⟨i, hi, rfl⟩ := by simpa [howner] using he
      exact ⟨rfl, hi⟩

theorem length_filter_issued (p : ι → Bool) (s : σ) (a : α) :
    ((D.issued s a).filter fun e => p e.2).length ≤ ((D.effects s a).filter p).length := by
  unfold issued
  cases D.owner a with
  | none => simp
  | some t =>
      rw [List.filter_map, List.length_map]
      exact Nat.le_refl _

section Steps

variable [DecidableEq θ]

/-- **What a step of the deferred system does.** -/
theorem deferred_step_cases {x x' : Deferred σ θ ι ρ} {b : DeferredAction α θ}
    (h : D.deferred.step x b = some x') :
    (∃ a s', b = .base a ∧ ¬ D.Blocked x.owed a ∧ D.sys.step x.base a = some s' ∧
      x' = ⟨s', x.store, x.owed ++ D.issued x.base a⟩) ∨
    (∃ t before i after, b = .pay t ∧ x.owed = before ++ (t, i) :: after ∧
      (∀ e ∈ before, e.1 ≠ t) ∧ x' = ⟨x.base, D.apply x.store i, before ++ after⟩) := by
  cases b with
  | base a =>
      simp only [deferred] at h
      split at h
      · simp at h
      · next hfree =>
          obtain ⟨s', hs', rfl⟩ := Option.map_eq_some_iff.1 h
          exact Or.inl ⟨a, s', rfl, hfree, hs', rfl⟩
  | pay t =>
      obtain ⟨⟨t', i⟩, hfind, rfl⟩ := Option.map_eq_some_iff.1 h
      obtain ⟨hkey, before, after, howed, hbefore⟩ := List.find?_eq_some_iff_append.1 hfind
      obtain rfl : t' = t := by simpa using hkey
      refine Or.inr ⟨t', before, i, after, rfl, howed, fun e he => by simpa using hbefore e he, ?_⟩
      have herase : x.owed.eraseP (fun e => e.1 = t') = before ++ after := by
        rw [howed, List.eraseP_append_right _ fun e he => by simpa using hbefore e he]
        simp
      simp only [herase]

/-- The deferred system takes the steps of the system below it and no others. -/
theorem base_reachable {x : Deferred σ θ ι ρ} (h : D.deferred.Reachable x) :
    D.sys.Reachable x.base := by
  refine System.reachable_of_preserves (I := fun x => D.sys.Reachable x.base) ⟨[], rfl⟩ ?_ h
  intro x b x' hx hstep
  rcases deferred_step_cases hstep with ⟨a, s', -, -, hs', rfl⟩ |
    ⟨t, before, i, after, -, -, -, rfl⟩
  · exact hx.step hs'
  · exact hx

/-- What is owed can be carried out. -/
theorem pay_all {s : σ} {owed : List (θ × ι)} :
    ∀ {r : ρ}, D.deferred.Reachable ⟨s, r, owed⟩ → ∃ r', D.deferred.Reachable ⟨s, r', []⟩ := by
  induction owed with
  | nil => intro r h; exact ⟨r, h⟩
  | cons e owed ih =>
      intro r h
      have hpay : D.deferred.step ⟨s, r, e :: owed⟩ (.pay e.1)
          = some ⟨s, D.apply r e.2, owed⟩ := by
        simp [deferred]
      exact ih (h.step hpay)

/-- **Deferring prevents nothing**: every state of the system is reached with nothing owed. -/
theorem exists_deferred {s : σ} (h : D.sys.Reachable s) :
    ∃ r, D.deferred.Reachable ⟨s, r, []⟩ := by
  refine System.reachable_of_preserves (I := fun s => ∃ r, D.deferred.Reachable ⟨s, r, []⟩)
    ⟨D.store, [], rfl⟩ ?_ h
  rintro s a s' ⟨r, hr⟩ hstep
  have hbase : D.deferred.step ⟨s, r, []⟩ (.base a) = some ⟨s', r, [] ++ D.issued s a⟩ := by
    simp [deferred, Blocked, hstep]
  exact pay_all (hr.step hbase)

/-- **What is owed is up to date.** If the step that leaves an effect makes `Q` hold of it, and no
step of anybody else makes `Q` fail, then `Q` holds of everything that is owed: the thread itself
takes no step meanwhile. -/
theorem owed_holds {Q : σ → θ → ι → Prop}
    (hown : ∀ s a s' t i, D.sys.step s a = some s' → D.owner a = some t → i ∈ D.effects s a →
      Q s' t i)
    (hother : ∀ s a s' t i, D.sys.step s a = some s' → D.owner a ≠ some t → Q s t i → Q s' t i)
    {x : Deferred σ θ ι ρ} (h : D.deferred.Reachable x) : ∀ e ∈ x.owed, Q x.base e.1 e.2 := by
  refine System.reachable_of_preserves (I := fun x => ∀ e ∈ x.owed, Q x.base e.1 e.2) ?_ ?_ h
  · simp [deferred]
  · intro x b x' hx hstep
    rcases deferred_step_cases hstep with ⟨a, s', -, hfree, hs', rfl⟩ |
      ⟨t, before, i, after, -, howed, -, rfl⟩
    · intro e he
      rcases List.mem_append.1 he with he | he
      · exact hother _ a _ _ _ hs' (fun howner => hfree ⟨e, he, howner⟩) (hx e he)
      · obtain ⟨howner, hi⟩ := mem_issued he
        exact hown _ a _ _ _ hs' howner hi
    · intro e he
      refine hx e ?_
      rw [howed]
      rcases List.mem_append.1 he with he | he
      · exact List.mem_append_left _ he
      · exact List.mem_append_right _ (List.mem_cons_of_mem _ he)

end Steps

/-! ## Settling -/

variable (D) in
/-- Effects that different threads may owe can be carried out in either order. -/
def Commutes (emits : θ → ι → Prop) : Prop :=
  ∀ t t' i j r, t ≠ t' → emits t i → emits t' j →
    D.apply (D.apply r i) j = D.apply (D.apply r j) i

variable (D) in
/-- Threads emit nothing else. -/
def Emits (emits : θ → ι → Prop) : Prop :=
  ∀ s a t i, D.owner a = some t → i ∈ D.effects s a → emits t i

/-- An effect may be carried out before those that other threads owe. -/
theorem foldl_apply_first {emits : θ → ι → Prop} (hcomm : D.Commutes emits) {t : θ} {i : ι}
    (hi : emits t i) {before : List (θ × ι)} :
    ∀ r : ρ, (∀ e ∈ before, e.1 ≠ t ∧ emits e.1 e.2) →
      (before.map Prod.snd).foldl D.apply (D.apply r i)
        = D.apply ((before.map Prod.snd).foldl D.apply r) i := by
  induction before with
  | nil => intro r _; rfl
  | cons e before ih =>
      intro r hbefore
      obtain ⟨hne, he⟩ := hbefore e List.mem_cons_self
      have hswap : D.apply (D.apply r i) e.2 = D.apply (D.apply r e.2) i :=
        (hcomm e.1 t e.2 i r hne he hi).symm
      rw [List.map_cons, List.foldl_cons, List.foldl_cons, hswap]
      exact ih _ fun e' he' => hbefore e' (List.mem_cons_of_mem _ he')

/-- Carrying out an effect changes nothing in the settled store. -/
theorem settled_pay {emits : θ → ι → Prop} (hcomm : D.Commutes emits) {s : σ} {r : ρ} {t : θ}
    {i : ι} {before after : List (θ × ι)} (hbefore : ∀ e ∈ before, e.1 ≠ t)
    (hemits : ∀ e ∈ before ++ (t, i) :: after, emits e.1 e.2) :
    D.settled ⟨s, D.apply r i, before ++ after⟩ = D.settled ⟨s, r, before ++ (t, i) :: after⟩ := by
  have hi : emits t i := hemits (t, i) (List.mem_append_right _ List.mem_cons_self)
  unfold settled
  simp only [List.map_append, List.map_cons, List.foldl_append, List.foldl_cons]
  rw [foldl_apply_first hcomm hi r fun e he => ⟨hbefore e he, hemits e (List.mem_append_left _ he)⟩]

/-- **Refinement.** With what is owed carried out, the deferred system is the one that carries its
effects out at once. -/
theorem settled_reachable [DecidableEq θ] {emits : θ → ι → Prop} (hemits : D.Emits emits)
    (hcomm : D.Commutes emits) {x : Deferred σ θ ι ρ} (h : D.deferred.Reachable x) :
    D.immediate.Reachable (x.base, D.settled x) := by
  refine System.reachable_of_preserves_within
    (I := fun x : Deferred σ θ ι ρ => ∀ e ∈ x.owed, emits e.1 e.2)
    (J := fun x => D.immediate.Reachable (x.base, D.settled x))
    (fun x hx => owed_holds (Q := fun _ t i => emits t i)
      (fun s a _ t i _ howner hi => hemits s a t i howner hi) (fun _ _ _ _ _ _ _ hi => hi) hx)
    ⟨[], rfl⟩ ?_ h
  intro x b x' howes hx hstep
  rcases deferred_step_cases hstep with ⟨a, s', -, -, hs', rfl⟩ |
    ⟨t, before, i, after, -, howed, hbefore, rfl⟩
  · refine hx.step (a := a) ?_
    simp [immediate, System.instrument, hs', settled, write]
  · have hpay := settled_pay (D := D) (s := x.base) (r := x.store) hcomm hbefore (howed ▸ howes)
    have hsame : D.settled ⟨x.base, D.apply x.store i, before ++ after⟩ = D.settled x := by
      rw [hpay, ← howed]
    rw [hsame]
    exact hx

/-! ## How much is owed -/

/-- **One step at a time.** Where a step leaves at most one effect of a kind, no thread owes two of
that kind. -/
theorem owners_nodup [DecidableEq θ] {p : ι → Bool}
    (hone : ∀ s a, ((D.effects s a).filter p).length ≤ 1) {x : Deferred σ θ ι ρ}
    (h : D.deferred.Reachable x) :
    ((x.owed.filter fun e => p e.2).map Prod.fst).Nodup := by
  refine System.reachable_of_preserves
    (I := fun x => ((x.owed.filter fun e => p e.2).map Prod.fst).Nodup) ?_ ?_ h
  · simp [deferred]
  · intro x b x' hx hstep
    rcases deferred_step_cases hstep with ⟨a, s', -, hfree, -, rfl⟩ |
      ⟨t, before, i, after, -, howed, -, rfl⟩
    · -- the thread owes nothing when it takes the step
      have hnew : (((D.issued x.base a).filter fun e => p e.2).map Prod.fst).Nodup := by
        have hle := Nat.le_trans (length_filter_issued p x.base a) (hone x.base a)
        generalize (D.issued x.base a).filter (fun e => p e.2) = new at hle
        match new, hle with
        | [], _ => simp
        | [e], _ => simp
      rw [List.filter_append, List.map_append]
      refine List.Nodup.append hx hnew fun t ht ht' => ?_
      obtain ⟨e, he, rfl⟩ := List.mem_map.1 ht
      obtain ⟨e', he', heq⟩ := List.mem_map.1 ht'
      obtain ⟨howner, -⟩ := mem_issued (List.mem_filter.1 he').1
      exact hfree ⟨e, (List.mem_filter.1 he).1, heq ▸ howner⟩
    · rw [howed] at hx
      refine hx.sublist (List.Sublist.map _ (List.Sublist.filter _ ?_))
      exact List.Sublist.append_left (List.sublist_cons_self _ _) _

/-! ## Readings that add up -/

section Readings

variable {M : Type*} [AddCommMonoid M] (read : ρ → M) (adds : ι → M)

theorem foldl_apply_read (hadds : ∀ r i, read (D.apply r i) = read r + adds i) (is : List ι) :
    ∀ r, read (is.foldl D.apply r) = read r + (is.map adds).sum := by
  induction is with
  | nil => intro r; simp
  | cons i is ih =>
      intro r
      rw [List.foldl_cons, ih, hadds, List.map_cons, List.sum_cons, add_assoc]

/-- A reading that every effect adds to is behind by what is owed. -/
theorem read_settled (hadds : ∀ r i, read (D.apply r i) = read r + adds i)
    (x : Deferred σ θ ι ρ) :
    read (D.settled x) = read x.store + (x.owed.map fun e => adds e.2).sum := by
  have h := foldl_apply_read read adds hadds (x.owed.map Prod.snd) x.store
  rw [List.map_map] at h
  exact h

end Readings

theorem sum_le_length_filter {β : Type*} {f : β → Nat} {most : Nat} {l : List β}
    (hmost : ∀ e ∈ l, f e ≠ 0 → f e ≤ most) :
    (l.map f).sum ≤ (l.filter fun e => f e ≠ 0).length * most := by
  induction l with
  | nil => simp
  | cons e l ih =>
      have hrest := ih fun e' he' => hmost e' (List.mem_cons_of_mem _ he')
      rw [List.map_cons, List.sum_cons]
      by_cases hzero : f e = 0
      · rw [List.filter_cons_of_neg (by simpa using hzero), hzero, Nat.zero_add]
        exact hrest
      · have hfirst := hmost e List.mem_cons_self hzero
        rw [List.filter_cons_of_pos (by simpa using hzero), List.length_cons, Nat.succ_mul]
        omega

/-- **The lag of a counter.** It is never ahead, and behind by no more than one effect of each
thread that may owe one. -/
theorem read_lag [DecidableEq θ] (read : ρ → Nat) (adds : ι → Nat) (threads : List θ) (most : Nat)
    (hadds : ∀ r i, read (D.apply r i) = read r + adds i)
    (hone : ∀ s a, ((D.effects s a).filter fun i => adds i ≠ 0).length ≤ 1)
    {x : Deferred σ θ ι ρ} (h : D.deferred.Reachable x)
    (howed : ∀ e ∈ x.owed, adds e.2 ≠ 0 → e.1 ∈ threads ∧ adds e.2 ≤ most) :
    read x.store ≤ read (D.settled x) ∧
      read (D.settled x) ≤ read x.store + threads.length * most := by
  have hsum := read_settled read adds hadds x
  have hnodup := owners_nodup (p := fun i => adds i ≠ 0) hone h
  have hcount : (x.owed.filter fun e => adds e.2 ≠ 0).length ≤ threads.length := by
    rw [← List.length_map (f := Prod.fst)]
    refine (List.subperm_of_subset hnodup fun t ht => ?_).length_le
    obtain ⟨e, he, rfl⟩ := List.mem_map.1 ht
    obtain ⟨hmem, hne⟩ := List.mem_filter.1 he
    exact (howed e hmem (by simpa using hne)).1
  have hle : (x.owed.map fun e => adds e.2).sum
      ≤ (x.owed.filter fun e => adds e.2 ≠ 0).length * most :=
    sum_le_length_filter fun e he hne => (howed e he hne).2
  refine ⟨by omega, ?_⟩
  rw [hsum]
  exact Nat.add_le_add_left (hle.trans (Nat.mul_le_mul_right _ hcount)) _

end Deferring

end Transition
