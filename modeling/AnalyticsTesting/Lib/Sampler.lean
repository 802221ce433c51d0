import Mathlib.Control.Monad.Basic
import Mathlib.Logic.Basic

set_option autoImplicit false

/-! # Computations that draw from a stream

A `Sampler` threads the state of a random stream and may raise. What it can return is described by
`Yields` (whatever the stream, a returned value has a property), whether it returns by `Returns`.
Both follow the computation: one rule for each way it is put together. -/

/-- A computation that draws from a stream with states `ρ`; `none` where it raises. -/
abbrev Sampler (ρ α : Type) := StateT ρ Option α

namespace Sampler

variable {ρ α β : Type}

/-- It raises. -/
def raise : Sampler ρ α := fun _ => none

/-- A draw that always returns. -/
def ofDraw (draw : ρ → α × ρ) : Sampler ρ α := fun s => some (draw s)

/-- Draw on a condition; without it nothing is drawn. -/
def onlyIf (m : Sampler ρ α) (c : Bool) (default : α) : Sampler ρ α :=
  if c then m else pure default

/-- Whatever the stream, what is returned has the property. -/
def Yields (m : Sampler ρ α) (P : α → Prop) : Prop := ∀ s a s', m s = some (a, s') → P a

/-- It returns exactly if `p`, whatever the stream. -/
def Returns (m : Sampler ρ α) (p : Prop) : Prop := ∀ s, (m s).isSome ↔ p

theorem bind_apply (m : Sampler ρ α) (f : α → Sampler ρ β) (s : ρ) :
    (m >>= f) s = (m s).bind fun r => f r.1 r.2 := rfl

/-! ## What is returned -/

theorem yields_pure {P : α → Prop} {a : α} (h : P a) : Yields (pure a : Sampler ρ α) P := by
  intro s b s' hb
  obtain ⟨rfl, rfl⟩ := Prod.mk.inj (Option.some.inj hb)
  exact h

theorem yields_raise (P : α → Prop) : Yields (raise : Sampler ρ α) P := by
  intro s a s' h
  simp [raise] at h

theorem yields_ofDraw {draw : ρ → α × ρ} {P : α → Prop} (h : ∀ s, P (draw s).1) :
    Yields (ofDraw draw) P := by
  intro s a s' hdraw
  rw [← Prod.mk.inj (Option.some.inj hdraw) |>.1]
  exact h s

theorem Yields.bind {m : Sampler ρ α} {f : α → Sampler ρ β} {P : α → Prop} {Q : β → Prop}
    (hm : Yields m P) (hf : ∀ a, P a → Yields (f a) Q) : Yields (m >>= f) Q := by
  intro s b s' h
  rw [bind_apply] at h
  obtain ⟨⟨a, t⟩, ha, hb⟩ := Option.bind_eq_some_iff.1 h
  exact hf a (hm s a t ha) t b s' hb

theorem yields_ite {c : Prop} [Decidable c] {m n : Sampler ρ α} {P : α → Prop}
    (hm : c → Yields m P) (hn : ¬c → Yields n P) : Yields (if c then m else n) P := by
  split
  case isTrue h => exact hm h
  case isFalse h => exact hn h

theorem Yields.onlyIf {c : Bool} {m : Sampler ρ α} {P : α → Prop} (hm : Yields m P)
    (default : α) : Yields (m.onlyIf c default) fun a => c = true → P a := by
  rintro s a s' h rfl
  exact hm s a s' h

/-! ## Whether it returns -/

theorem returns_pure (a : α) : Returns (pure a : Sampler ρ α) True := by
  intro s
  exact iff_of_true rfl trivial

theorem returns_raise : Returns (raise : Sampler ρ α) False := by
  intro s
  simp [raise]

theorem returns_ofDraw (draw : ρ → α × ρ) : Returns (ofDraw draw) True := by
  intro s
  exact iff_of_true rfl trivial

theorem Returns.bind {m : Sampler ρ α} {f : α → Sampler ρ β} {p q : Prop} (hm : Returns m p)
    (hf : ∀ a, Returns (f a) q) : Returns (m >>= f) (p ∧ q) := by
  intro s
  rw [bind_apply, ← hm s]
  cases m s with
  | none => simp
  | some r => simpa using hf r.1 r.2

/-- The rule for a computation that returns in any case. -/
theorem Returns.bind_true {m : Sampler ρ α} {f : α → Sampler ρ β} {q : Prop} (hm : Returns m True)
    (hf : ∀ a, Returns (f a) q) : Returns (m >>= f) q := by
  intro s
  rw [hm.bind hf s, true_and]

theorem Returns.congr {m : Sampler ρ α} {p q : Prop} (hm : Returns m p) (h : p ↔ q) :
    Returns m q :=
  fun s => (hm s).trans h

theorem returns_ite {c : Prop} [Decidable c] {m n : Sampler ρ α} {p : Prop}
    (hm : c → Returns m p) (hn : ¬c → Returns n p) : Returns (if c then m else n) p := by
  split
  case isTrue h => exact hm h
  case isFalse h => exact hn h

theorem Returns.onlyIf {m : Sampler ρ α} (hm : Returns m True) (c : Bool) (default : α) :
    Returns (m.onlyIf c default) True := by
  cases c with
  | false => exact returns_pure default
  | true => exact hm

/-- Draw with a computation that returns in any case. -/
def draw (m : Sampler ρ α) (h : Returns m True) (s : ρ) : α × ρ := (m s).get ((h s).2 trivial)

theorem Yields.draw {m : Sampler ρ α} {P : α → Prop} (hm : Yields m P) (h : Returns m True)
    (s : ρ) : P (m.draw h s).1 := by
  refine hm s (m.draw h s).1 (m.draw h s).2 ?_
  exact (Option.some_get _).symm

/-! ## Repeating -/

/-- `[m() for _ in range(n)]`. -/
def replicate (m : Sampler ρ α) : Nat → Sampler ρ (List α)
  | 0 => pure []
  | n + 1 => do
      let a ← m
      let rest ← replicate m n
      return a :: rest

theorem Yields.replicate {m : Sampler ρ α} {P : α → Prop} (hm : Yields m P) (n : Nat) :
    Yields (m.replicate n) fun xs => xs.length = n ∧ ∀ x ∈ xs, P x := by
  induction n with
  | zero => exact yields_pure ⟨rfl, by simp⟩
  | succ n ih =>
      refine hm.bind fun a ha => ih.bind fun rest hrest => yields_pure ⟨by simp [hrest.1], ?_⟩
      intro x hx
      rcases List.mem_cons.1 hx with rfl | hx
      · exact ha
      · exact hrest.2 x hx

theorem Returns.replicate {m : Sampler ρ α} (hm : Returns m True) (n : Nat) :
    Returns (m.replicate n) True := by
  induction n with
  | zero => exact returns_pure []
  | succ n ih => exact hm.bind_true fun a => ih.bind_true fun rest => returns_pure _

end Sampler
