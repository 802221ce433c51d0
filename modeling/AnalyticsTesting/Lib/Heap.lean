import Mathlib.Data.List.Basic

set_option autoImplicit false

/-! # Views of a heap

A heap is a list of cells; a new cell goes to its end. A view shows the cells that are not hidden.
Whatever is read off a view stays true when hidden cells are written (`view_set`) and when cells are
added (`Grows.view`), so a cell that is being filled is hidden until it is ready. -/

namespace Heap

variable {γ : Type}

/-- The cells that are not hidden. -/
def view (hidden : List Nat) (h : List γ) (a : Nat) : Option γ :=
  if a ∈ hidden then none else h[a]?

/-- All that one view shows, the other shows. -/
def Within (w w' : Nat → Option γ) : Prop := ∀ a c, w a = some c → w' a = some c

/-- Every cell but those at the addresses `hidden` is kept. -/
def Grows (hidden : List Nat) (h h' : List γ) : Prop :=
  Within (view hidden h) (view hidden h')

theorem within_refl (w : Nat → Option γ) : Within w w := fun _ _ h => h

theorem Within.trans {w w' w'' : Nat → Option γ} (h : Within w w') (h' : Within w' w'') :
    Within w w'' := fun a c hc => h' a c (h a c hc)

theorem view_eq_some {hidden : List Nat} {h : List γ} {a : Nat} {c : γ} :
    view hidden h a = some c ↔ a ∉ hidden ∧ h[a]? = some c := by
  rw [view]
  split
  case isTrue hmem => exact ⟨fun h => (nomatch h), fun h => absurd hmem h.1⟩
  case isFalse hmem => exact ⟨fun h => ⟨hmem, h⟩, fun h => h.2⟩

/-- Hiding less shows more. -/
theorem within_of_subset {hidden hidden' : List Nat} (hsub : hidden ⊆ hidden') (h : List γ) :
    Within (view hidden' h) (view hidden h) := fun _ _ hc =>
  have ⟨hmem, hget⟩ := view_eq_some.1 hc
  view_eq_some.2 ⟨fun hin => hmem (hsub hin), hget⟩

theorem grows_iff {hidden : List Nat} {h h' : List γ} :
    Grows hidden h h' ↔ ∀ a c, a ∉ hidden → h[a]? = some c → h'[a]? = some c :=
  ⟨fun hgrows a c hmem hget => (view_eq_some.1 (hgrows a c (view_eq_some.2 ⟨hmem, hget⟩))).2,
    fun hkept a c hc =>
      have ⟨hmem, hget⟩ := view_eq_some.1 hc
      view_eq_some.2 ⟨hmem, hkept a c hmem hget⟩⟩

/-- A heap that keeps more cells keeps fewer. -/
theorem Grows.mono {hidden hidden' : List Nat} {h h' : List γ} (hgrows : Grows hidden h h')
    (hsub : hidden ⊆ hidden') : Grows hidden' h h' :=
  grows_iff.2 fun a c hmem => grows_iff.1 hgrows a c fun hin => hmem (hsub hin)

/-- Writing a hidden cell is not seen. -/
theorem view_set {hidden : List Nat} {n : Nat} (hn : n ∈ hidden) (h : List γ) (c : γ) :
    view hidden (h.set n c) = view hidden h := by
  funext a
  rw [view, view]
  split
  case isTrue => rfl
  case isFalse hmem =>
    have hne : n ≠ a := fun heq => hmem (heq ▸ hn)
    exact List.getElem?_set_ne hne

theorem grows_set {hidden : List Nat} {n : Nat} (hn : n ∈ hidden) (h : List γ) (c : γ) :
    Grows hidden h (h.set n c) := by
  rw [Grows, view_set hn]
  exact within_refl _

theorem grows_append (hidden : List Nat) (h cells : List γ) : Grows hidden h (h ++ cells) :=
  grows_iff.2 fun a c _ hget => by
    rw [List.getElem?_append_left (List.getElem?_eq_some_iff.1 hget).1, hget]

/-- The cells of a heap are not those it gets. -/
theorem within_fresh (hidden : List Nat) (h cells : List γ) :
    Within (view hidden h) (view (h.length :: hidden) (h ++ cells)) := by
  intro a c hc
  obtain ⟨hmem, hget⟩ := view_eq_some.1 hc
  have hlt : a < h.length := (List.getElem?_eq_some_iff.1 hget).1
  refine view_eq_some.2 ⟨fun hin => ?_, by rw [List.getElem?_append_left hlt, hget]⟩
  rcases List.mem_cons.1 hin with rfl | hin
  · exact Nat.lt_irrefl _ hlt
  · exact hmem hin

/-- What is kept beside a cell the heap did not have is kept. -/
theorem Grows.of_append {h cells h' : List γ} (hgrows : Grows [h.length] (h ++ cells) h') :
    Grows [] h h' := by
  refine grows_iff.2 fun a c _ hget => ?_
  have hlt : a < h.length := (List.getElem?_eq_some_iff.1 hget).1
  have hne : a ∉ [h.length] := by
    rw [List.mem_singleton]
    exact Nat.ne_of_lt hlt
  exact grows_iff.1 hgrows a c hne (by rw [List.getElem?_append_left hlt, hget])

theorem Grows.length_le {h h' : List γ} (hgrows : Grows [] h h') : h.length ≤ h'.length := by
  by_contra hlt
  have hget : h[h'.length]? = some h[h'.length] := List.getElem?_eq_getElem (by omega)
  have hget' := grows_iff.1 hgrows _ _ List.not_mem_nil hget
  exact absurd (List.getElem?_eq_some_iff.1 hget').1 (Nat.lt_irrefl _)

end Heap
