import Mathlib.Algebra.BigOperators.Group.List.Basic
import Mathlib.Data.List.Induction

set_option autoImplicit false

/-! # A total and its windows

A quantity that is accumulated twice: into a total that only grows, and into a window that is
swapped out from time to time. `Windows` splits what happened at the swaps. `Series.Tracks` says
that the total has accumulated all of it, each window what is its own, and that each swap saw the
total of the windows up to and including its own. One event keeps that, whatever the operation of
accumulating is (`Tracks.push`). Where it is addition, the windows add up to the total
(`Tracks.sum_eq`). -/

/-- Events, split at the swaps: those of each window that was swapped out, and the later ones. -/
structure Windows (α : Type*) where
  closed : List (List α) := []
  current : List α := []
  deriving DecidableEq

namespace Windows

variable {α : Type*} (swaps : α → Bool)

/-- One more event. -/
def push (w : Windows α) (a : α) : Windows α :=
  if swaps a then { closed := w.closed ++ [w.current] }
  else { w with current := w.current ++ [a] }

def ofList (as : List α) : Windows α := as.foldl (push swaps) {}

/-- The events but for the swaps. -/
def all (w : Windows α) : List α := w.closed.flatten ++ w.current

variable {swaps}

theorem ofList_concat (as : List α) (a : α) :
    ofList swaps (as ++ [a]) = (ofList swaps as).push swaps a := by
  simp [ofList]

theorem all_push (w : Windows α) (a : α) :
    (w.push swaps a).all = w.all ++ if swaps a then [] else [a] := by
  unfold push all
  split <;> simp

/-- No event is lost or repeated. -/
theorem all_ofList (as : List α) : (ofList swaps as).all = as.filter fun a => !swaps a := by
  induction as using List.reverseRecOn with
  | nil => rfl
  | append_singleton as a ih =>
      rw [ofList_concat, all_push, ih, List.filter_append]
      cases h : swaps a <;> simp [h]

end Windows

/-- A total, its current window, and what each swap saw: the window it took and the total then. -/
structure Series (M : Type*) where
  total : M
  window : M
  flushed : List (M × M)

namespace Series

variable {α A M : Type*} {op : M → A → M} {zero : M} {f : α → Option A} {swaps : α → Bool}

/-- Something is added to both accumulators, or nothing. -/
def add (op : M → A → M) (S : Series M) (x : Option A) : Series M :=
  { S with total := x.elim S.total (op S.total), window := x.elim S.window (op S.window) }

/-- The window is swapped out. -/
def swap (zero : M) (S : Series M) : Series M :=
  { S with window := zero, flushed := S.flushed ++ [(S.window, S.total)] }

/-- What the events `as` accumulate to. -/
def accumulate (op : M → A → M) (zero : M) (f : α → Option A) (as : List α) : M :=
  (as.filterMap f).foldl op zero

/-- Nothing is lost or repeated. -/
structure Tracks (op : M → A → M) (zero : M) (f : α → Option A) (w : Windows α) (S : Series M) :
    Prop where
  total_eq : S.total = accumulate op zero f w.all
  window_eq : S.window = accumulate op zero f w.current
  flushed_eq : S.flushed.map Prod.fst = w.closed.map (accumulate op zero f)
  seen_eq : ∀ k x, S.flushed[k]? = some x →
    x.2 = accumulate op zero f (w.closed.take (k + 1)).flatten

theorem tracks_nil : (⟨zero, zero, []⟩ : Series M).Tracks op zero f {} := by
  constructor <;> simp [accumulate, Windows.all]

theorem accumulate_concat (as : List α) (a : α) :
    accumulate op zero f (as ++ [a])
      = (f a).elim (accumulate op zero f as) (op (accumulate op zero f as)) := by
  unfold accumulate
  rw [List.filterMap_append, List.foldl_append]
  cases h : f a <;> simp [h]

theorem Tracks.add {w : Windows α} {S : Series M} (h : S.Tracks op zero f w) {a : α}
    (ha : swaps a = false) : (S.add op (f a)).Tracks op zero f (w.push swaps a) := by
  have hpush : w.push swaps a = { w with current := w.current ++ [a] } := by
    simp [Windows.push, ha]
  rw [hpush]
  refine ⟨?_, ?_, h.flushed_eq, h.seen_eq⟩
  · show _ = accumulate op zero f (w.closed.flatten ++ (w.current ++ [a]))
    rw [← List.append_assoc, accumulate_concat, Series.add, h.total_eq]
    rfl
  · rw [accumulate_concat, Series.add, h.window_eq]

/-- A swap sees its own window too. -/
theorem Tracks.swap {w : Windows α} {S : Series M} (h : S.Tracks op zero f w) {a : α}
    (ha : swaps a = true) : (S.swap zero).Tracks op zero f (w.push swaps a) := by
  have hpush : w.push swaps a = { closed := w.closed ++ [w.current] } := by
    simp [Windows.push, ha]
  have hlength : S.flushed.length = w.closed.length := by
    simpa using congrArg List.length h.flushed_eq
  rw [hpush]
  refine ⟨?_, rfl, ?_, ?_⟩
  · show S.total = accumulate op zero f ((w.closed ++ [w.current]).flatten ++ [])
    rw [h.total_eq, Windows.all, List.flatten_append, List.append_nil]
    simp
  · show (S.flushed ++ [(S.window, S.total)]).map Prod.fst = _
    rw [List.map_append, h.flushed_eq, List.map_append, h.window_eq]
    rfl
  · intro k x hx
    show x.2 = accumulate op zero f ((w.closed ++ [w.current]).take (k + 1)).flatten
    have hx' : (S.flushed ++ [(S.window, S.total)])[k]? = some x := hx
    rcases Nat.lt_or_ge k S.flushed.length with hlt | hge
    · rw [List.getElem?_append_left hlt] at hx'
      rw [h.seen_eq k x hx', List.take_append_of_le_length (by omega)]
    · obtain ⟨hlt, -⟩ := List.getElem?_eq_some_iff.1 hx'
      obtain rfl : k = S.flushed.length := by
        simp only [List.length_append, List.length_singleton] at hlt
        omega
      obtain rfl : (S.window, S.total) = x := by simpa using hx'
      rw [List.take_of_length_le (by simp [hlength]), List.flatten_append]
      simpa [Windows.all] using h.total_eq

/-! ## Addition -/

section Sums

variable [AddMonoid M] {g : α → Option M} {w : Windows α} {S : Series M}

theorem accumulate_add (as : List α) :
    accumulate (· + ·) 0 g as = (as.filterMap g).sum := List.sum_eq_foldl.symm

theorem accumulate_flatten (l : List (List α)) :
    accumulate (· + ·) 0 g l.flatten = (l.map (accumulate (· + ·) 0 g)).sum := by
  induction l with
  | nil => rfl
  | cons as l ih =>
      rw [List.flatten_cons, List.map_cons, List.sum_cons, ← ih, accumulate_add, accumulate_add,
        accumulate_add, List.filterMap_append, List.sum_append]

/-- **The windows add up to the total.** -/
theorem Tracks.sum_eq (h : S.Tracks (· + ·) 0 g w) :
    (S.flushed.map Prod.fst).sum + S.window = S.total := by
  rw [h.total_eq, h.flushed_eq, h.window_eq, ← accumulate_flatten, Windows.all, accumulate_add,
    accumulate_add, accumulate_add, List.filterMap_append, List.sum_append]

/-- Each swap saw the sum of the windows up to and including its own. -/
theorem Tracks.seen_sum (h : S.Tracks (· + ·) 0 g w) {k : Nat} {x : M × M}
    (hx : S.flushed[k]? = some x) : x.2 = ((S.flushed.take (k + 1)).map Prod.fst).sum := by
  rw [h.seen_eq k x hx, accumulate_flatten, List.map_take, List.map_take, h.flushed_eq]

end Sums

end Series
