import Mathlib.Data.List.Basic

set_option autoImplicit false

/-! # Readings that pass, report or crash

A computation may fail in a way that is foreseen, which it reports, or in another one. Of several
readings one after the other the first that does not pass decides (`Verdict.all`). `Verdict.Reads`
is the calculus of such computations: the verdict on each, and its value where it passes. -/

/-- How a reading ends. -/
inductive Verdict
  | passes
  | reports
  | crashes
  deriving DecidableEq

namespace Verdict

/-- A check: what does not satisfy it is reported. -/
def reportUnless (c : Bool) : Verdict := if c then passes else reports

/-- A reading without a check. -/
def crashUnless (c : Bool) : Verdict := if c then passes else crashes

/-- One reading and then another. -/
def andThen : Verdict → Verdict → Verdict
  | passes, v => v
  | v, _ => v

/-- Readings one after the other. -/
def all (vs : List Verdict) : Verdict := vs.foldr andThen passes

@[simp] theorem passes_andThen (v : Verdict) : passes.andThen v = v := rfl

@[simp] theorem andThen_passes (v : Verdict) : v.andThen passes = v := by cases v <;> rfl

@[simp] theorem andThen_eq_passes {v w : Verdict} :
    v.andThen w = passes ↔ v = passes ∧ w = passes := by
  cases v <;> simp [andThen]

@[simp] theorem all_nil : all [] = passes := rfl

@[simp] theorem all_cons (v : Verdict) (vs : List Verdict) :
    all (v :: vs) = v.andThen (all vs) := rfl

@[simp] theorem reportUnless_eq_passes {c : Bool} : reportUnless c = passes ↔ c = true := by
  cases c <;> simp [reportUnless]

@[simp] theorem crashUnless_eq_passes {c : Bool} : crashUnless c = passes ↔ c = true := by
  cases c <;> simp [crashUnless]

theorem crashUnless_and (c d : Bool) :
    crashUnless (c && d) = (crashUnless c).andThen (crashUnless d) := by
  cases c <;> rfl

theorem andThen_assoc (u v w : Verdict) : (u.andThen v).andThen w = u.andThen (v.andThen w) := by
  cases u <;> rfl

theorem all_append (vs ws : List Verdict) : all (vs ++ ws) = (all vs).andThen (all ws) := by
  induction vs with
  | nil => rfl
  | cons v vs ih => rw [List.cons_append, all_cons, all_cons, ih, andThen_assoc]

/-- **The readings together do not crash if each of them that crashes comes after one that
reports.** -/
theorem all_ne_crashes_iff {vs : List Verdict} :
    all vs ≠ crashes ↔ ∀ before after, vs = before ++ crashes :: after → reports ∈ before := by
  induction vs with
  | nil => simp
  | cons v vs ih =>
      rw [all_cons]
      cases v with
      | passes =>
          rw [passes_andThen, ih]
          constructor
          · intro h before after heq
            cases before with
            | nil => simp at heq
            | cons u before =>
                obtain ⟨-, heq⟩ := List.cons.inj heq
                exact List.mem_cons_of_mem _ (h before after heq)
          · intro h before after heq
            have hmem := h (passes :: before) after (by rw [heq, List.cons_append])
            simpa using hmem
      | reports =>
          refine iff_of_true (by simp [andThen]) fun before after heq => ?_
          cases before with
          | nil => simp at heq
          | cons u before =>
              obtain ⟨rfl, -⟩ := List.cons.inj heq
              exact List.mem_cons_self
      | crashes =>
          refine iff_of_false (by simp [andThen]) fun h => ?_
          have hmem := h [] vs rfl
          simp at hmem

/-! ## Computations -/

section Reads

variable {ε α β : Type} (foreseen : ε → Bool)

/-- The verdict on a computation. -/
def of : Except ε α → Verdict
  | .ok _ => passes
  | .error e => if foreseen e then reports else crashes

/-- The computation has this verdict, and this value where it passes. -/
structure Reads (x : Except ε α) (v : Verdict) (a : α) : Prop where
  of_eq : of foreseen x = v
  eq_ok : v = passes → x = .ok a

variable {foreseen} {x : Except ε α} {f : α → Except ε β} {v w : Verdict} {a : α} {b : β}

theorem Reads.pure (a : α) : Reads foreseen (pure a : Except ε α) passes a := ⟨rfl, fun _ => rfl⟩

theorem Reads.passes_of_ok {a' : α} (hx : Reads foreseen x v a) (h : x = .ok a') : v = passes := by
  rw [← hx.of_eq, h, of]

theorem Reads.eq_of_ok {a' : α} (hx : Reads foreseen x v a) (h : x = .ok a') : a' = a :=
  Except.ok.inj (h.symm.trans (hx.eq_ok (hx.passes_of_ok h)))

/-- The verdict on one computation and then another. -/
theorem of_bind_of (hx : of foreseen x = v) (hf : ∀ a, x = .ok a → of foreseen (f a) = w) :
    of foreseen (x >>= f) = v.andThen w := by
  cases x with
  | ok a =>
      obtain rfl : passes = v := hx
      exact hf a rfl
  | error e =>
      show (if foreseen e then reports else crashes) = _
      rw [of] at hx
      split
      case isTrue he =>
        rw [if_pos he] at hx
        rw [← hx]
        rfl
      case isFalse he =>
        rw [if_neg he] at hx
        rw [← hx]
        rfl

theorem of_bind (hx : Reads foreseen x v a) (hf : x = .ok a → of foreseen (f a) = w) :
    of foreseen (x >>= f) = v.andThen w := by
  refine of_bind_of hx.of_eq fun a' ha' => ?_
  obtain rfl := hx.eq_of_ok ha'
  exact hf ha'

theorem Reads.bind (hx : Reads foreseen x v a) (hf : x = .ok a → Reads foreseen (f a) w b) :
    Reads foreseen (x >>= f) (v.andThen w) b where
  of_eq := of_bind hx fun h => (hf h).of_eq
  eq_ok := by
    intro h
    obtain ⟨hv, hw⟩ := andThen_eq_passes.1 h
    have hok := hx.eq_ok hv
    have hrest := (hf hok).eq_ok hw
    rw [hok]
    exact hrest

theorem Reads.bind_pure (hx : Reads foreseen x v a) (g : α → β) :
    Reads foreseen (x >>= fun a => Pure.pure (g a)) v (g a) := by
  have hrest := hx.bind (f := fun a => Pure.pure (g a)) fun _ => .pure (g a)
  rwa [andThen_passes] at hrest

/-- A check and then a computation. -/
theorem of_check {e : ε} (he : foreseen e = true) {c : Prop} [Decidable c] {b : Bool}
    (hb : b = true ↔ ¬ c) (hx : ¬ c → of foreseen x = v) :
    of foreseen (if c then .error e else x) = (reportUnless b).andThen v := by
  by_cases hc : c
  · have hfalse : b = false := Bool.eq_false_iff.2 fun hb' => hb.1 hb' hc
    rw [if_pos hc, hfalse]
    exact if_pos he
  · rw [if_neg hc, hb.2 hc]
    exact hx hc

/-- None of the failures of the computation is foreseen. -/
def Unforeseen (foreseen : ε → Bool) (x : Except ε α) : Prop :=
  ∀ e, x = .error e → foreseen e = false

theorem Unforeseen.ok (a : α) : Unforeseen foreseen (.ok a : Except ε α) := by
  intro e h
  simp at h

theorem Unforeseen.error {e : ε} (he : foreseen e = false) :
    Unforeseen foreseen (.error e : Except ε α) := by
  intro e' h
  obtain rfl := Except.error.inj h
  exact he

theorem Unforeseen.bind (hx : Unforeseen foreseen x) (hf : ∀ a, Unforeseen foreseen (f a)) :
    Unforeseen foreseen (x >>= f) := by
  cases x with
  | ok a => exact hf a
  | error e => exact .error (hx e rfl)

theorem Unforeseen.map (hx : Unforeseen foreseen x) (g : α → β) :
    Unforeseen foreseen (x.map g) := by
  cases x with
  | ok a => exact .ok (g a)
  | error e => exact .error (hx e rfl)

theorem Unforeseen.foldlM {f : β → α → Except ε β} (hf : ∀ b a, Unforeseen foreseen (f b a))
    (as : List α) : ∀ b, Unforeseen foreseen (as.foldlM f b) := by
  induction as with
  | nil => exact fun b => .ok b
  | cons a as ih =>
      intro b
      rw [List.foldlM_cons]
      exact (hf b a).bind ih

theorem Unforeseen.mapM {f : α → Except ε β} (hf : ∀ a, Unforeseen foreseen (f a)) (as : List α) :
    Unforeseen foreseen (as.mapM f) := by
  induction as with
  | nil => exact .ok []
  | cons a as ih =>
      rw [List.mapM_cons]
      exact (hf a).bind fun _ => ih.bind fun _ => .ok _

theorem Unforeseen.reads (h : Unforeseen foreseen x) (a : α) :
    Reads foreseen x (crashUnless x.toOption.isSome) (x.toOption.getD a) := by
  cases x with
  | ok a' => exact ⟨rfl, fun _ => rfl⟩
  | error e => exact ⟨if_neg (by simp [h e rfl]), by simp [Except.toOption]⟩

end Reads

end Verdict
