import Mathlib.Algebra.BigOperators.Group.List.Basic
import Mathlib.Algebra.Order.Group.Multiset
import Mathlib.Tactic.Abel

set_option autoImplicit false

/-! # Ledgers of work items

What becomes of items that are issued once and then move through a queue and the hands of
workers until each of them is settled or lost. `Ledger.Step` are the only moves there are, and
`Ledger.Balanced` is what they preserve: nothing that was issued disappears, and nothing is
settled that was not issued. The items held by a pool of workers are added up by `tally`. -/

/-! ## Adding up over a pool -/

/-- The sum of `f` over the members of a pool. -/
def tally {α M : Type*} [AddCommMonoid M] (f : α → M) (pool : List α) : M := (pool.map f).sum

section Tally

variable {α M : Type*} [AddCommMonoid M] {f : α → M}

@[simp] theorem tally_nil : tally f [] = 0 := rfl

@[simp] theorem tally_cons (a : α) (pool : List α) :
    tally f (a :: pool) = f a + tally f pool := by
  simp [tally]

/-- Replacing one member of the pool exchanges its contribution. -/
theorem tally_set {pool : List α} {i : Nat} {a : α} (b : α) (h : pool[i]? = some a) :
    tally f (pool.set i b) + f a = tally f pool + f b := by
  induction pool generalizing i with
  | nil => simp at h
  | cons c pool ih =>
      cases i with
      | zero =>
          obtain rfl : c = a := by simpa using h
          simp only [List.set_cons_zero, tally_cons]
          abel
      | succ i =>
          have hrest := ih (by simpa using h)
          simp only [List.set_cons_succ, tally_cons, add_assoc, hrest]

theorem tally_replicate_zero {a : α} (h : f a = 0) (n : Nat) :
    tally f (List.replicate n a) = 0 := by
  simp [tally, h]

/-- In a pool whose members contribute nothing, nothing is held. -/
theorem tally_eq_zero {pool : List α} (h : ∀ a ∈ pool, f a = 0) : tally f pool = 0 := by
  induction pool with
  | nil => rfl
  | cons a pool ih =>
      rw [tally_cons, h a (List.mem_cons_self ..), zero_add]
      exact ih fun b hb => h b (List.mem_cons_of_mem _ hb)

end Tally

/-- A pool whose count is zero has no member that counts. -/
theorem eq_zero_of_tally_eq_zero {α : Type*} {f : α → Nat} {pool : List α} (h : tally f pool = 0)
    {a : α} (ha : a ∈ pool) : f a = 0 := by
  induction pool with
  | nil => simp at ha
  | cons b pool ih =>
      rw [tally_cons] at h
      rcases List.mem_cons.1 ha with rfl | hmem
      · omega
      · exact ih (by omega) hmem

/-! ## The ledger -/

/-- Where the items issued so far are. -/
@[ext] structure Ledger (ι : Type*) where
  issued : Multiset ι
  waiting : Multiset ι
  held : Multiset ι
  settled : Multiset ι
  lost : Multiset ι

namespace Ledger

variable {ι : Type*}

/-- The moves of an item: issued into the queue, taken by a worker, settled by it or lost. -/
inductive Step : Ledger ι → Ledger ι → Prop
  | issue (L : Ledger ι) (x : ι) :
      Step L { L with issued := x ::ₘ L.issued, waiting := x ::ₘ L.waiting }
  | take (L : Ledger ι) (x : ι) (w : Multiset ι) (h : L.waiting = x ::ₘ w) :
      Step L { L with waiting := w, held := x ::ₘ L.held }
  | settle (L : Ledger ι) (x : ι) (r : Multiset ι) (h : L.held = x ::ₘ r) :
      Step L { L with held := r, settled := x ::ₘ L.settled }
  | lose (L : Ledger ι) (x : ι) (r : Multiset ι) (h : L.held = x ::ₘ r) :
      Step L { L with held := r, lost := x ::ₘ L.lost }

/-- Every issued item is in exactly one place. -/
def Balanced (L : Ledger ι) : Prop :=
  L.issued = L.waiting + L.held + L.settled + L.lost

theorem Step.balanced {L L' : Ledger ι} (hstep : Step L L') (h : L.Balanced) : L'.Balanced := by
  unfold Balanced at h ⊢
  cases hstep with
  | issue x => simp [h]
  | take x w hw => simp [h, hw]
  | settle x r hr => simp [h, hr]
  | lose x r hr => simp [h, hr]

theorem Balanced.settled_le {L : Ledger ι} (h : L.Balanced) : L.settled ≤ L.issued := by
  rw [h, add_comm (L.waiting + L.held), add_assoc]
  exact Multiset.le_add_right _ _

/-- With nothing waiting and nothing held, whatever was issued is settled or lost. -/
theorem Balanced.issued_eq {L : Ledger ι} (h : L.Balanced) (hw : L.waiting = 0) (hh : L.held = 0) :
    L.issued = L.settled + L.lost := by
  rw [h, hw, hh, zero_add, zero_add]

end Ledger
