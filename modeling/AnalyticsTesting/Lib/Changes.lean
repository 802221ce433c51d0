import Mathlib.Data.List.ReduceOption

set_option autoImplicit false

/-! # Changes along a list of observations

`changes` counts the places of a list where an element differs from the one before. A list of
observations may have gaps (`none`); `switches` counts the changes between neighbours that are both
there, `gapChanges` those across a gap, and together they are the changes of the list without its
gaps (`changes_reduceOption`). -/

namespace Changes

variable {α : Type*}

/-- How many neighbours are related. -/
def countAdjacent (R : α → α → Prop) [DecidableRel R] : List α → Nat
  | [] => 0
  | [_] => 0
  | a :: b :: l => (if R a b then 1 else 0) + countAdjacent R (b :: l)

section

variable (R : α → α → Prop) [DecidableRel R]

/-- Whether the last element of a list is related to `b`. -/
def lastRelated (b : α) (last : Option α) : Nat :=
  match last with
  | some a => if R a b then 1 else 0
  | none => 0

/-- An observation that comes last adds at most one. -/
theorem countAdjacent_concat (l : List α) (b : α) :
    countAdjacent R (l ++ [b]) = countAdjacent R l + lastRelated R b l.getLast? := by
  induction l with
  | nil => rfl
  | cons a l ih =>
      cases l with
      | nil => simp [countAdjacent, lastRelated]
      | cons c l =>
          have hlast : (a :: c :: l).getLast? = (c :: l).getLast? := by simp [List.getLast?_cons]
          rw [hlast]
          simp only [List.cons_append, countAdjacent] at ih ⊢
          rw [ih, Nat.add_assoc]

end

variable [DecidableEq α]

/-- How often the element changes along the list. -/
def changes (l : List α) : Nat := countAdjacent (· ≠ ·) l

/-- Both are there, and differ. -/
def Switched : Option α → Option α → Prop
  | some a, some b => a ≠ b
  | _, _ => False

instance : DecidableRel (@Switched α)
  | some a, some b => inferInstanceAs (Decidable (a ≠ b))
  | none, _ => isFalse id
  | some _, none => isFalse id

/-- How often the element changes between one observation and the very next one. -/
def switches (obs : List (Option α)) : Nat := countAdjacent Switched obs

/-- Whether the first element of a list differs from `a`. -/
def headChanged (a : α) (head : Option α) : Nat :=
  match head with
  | some b => if a ≠ b then 1 else 0
  | none => 0

/-- Whether a gap follows `a`, and the element that comes back after it is another one. -/
def gapAfter (a : α) : List (Option α) → Nat
  | [] => 0
  | none :: later => headChanged a later.reduceOption.head?
  | some _ :: _ => 0

/-- How often the element is another one when it comes back. -/
def gapChanges : List (Option α) → Nat
  | [] => 0
  | none :: later => gapChanges later
  | some a :: later => gapAfter a later + gapChanges later

theorem changes_cons (a : α) (l : List α) :
    changes (a :: l) = headChanged a l.head? + changes l := by
  cases l with
  | nil => rfl
  | cons b l => rfl

theorem switches_none_cons (obs : List (Option α)) : switches (none :: obs) = switches obs := by
  cases obs with
  | nil => rfl
  | cons o obs => simp [switches, countAdjacent, Switched]

/-- **Every change is a switch, or happens across a gap.** -/
theorem changes_reduceOption (obs : List (Option α)) :
    changes obs.reduceOption = switches obs + gapChanges obs := by
  induction obs with
  | nil => rfl
  | cons o obs ih =>
      cases o with
      | none => rw [List.reduceOption_cons_of_none, ih, switches_none_cons, gapChanges]
      | some a =>
          rw [List.reduceOption_cons_of_some, changes_cons, ih, gapChanges]
          cases obs with
          | nil => rfl
          | cons o' obs =>
              cases o' with
              | none =>
                  have hswitches : switches (some a :: none :: obs) = switches (none :: obs) := by
                    simp [switches, countAdjacent, Switched]
                  rw [hswitches, gapAfter, List.reduceOption_cons_of_none]
                  omega
              | some b =>
                  have hswitches : switches (some a :: some b :: obs)
                      = headChanged a (some b) + switches (some b :: obs) := rfl
                  rw [hswitches, gapAfter, List.reduceOption_cons_of_some, List.head?_cons]
                  omega

/-- Nothing changes across a gap: what is there before it is there again after it. -/
def GapsKeep (obs : List (Option α)) : Prop :=
  ∀ a later, some a :: none :: later <:+ obs → ∀ b, later.reduceOption.head? = some b → b = a

theorem headChanged_eq_zero {a : α} {head : Option α} :
    headChanged a head = 0 ↔ ∀ b, head = some b → b = a := by
  cases head with
  | none => simp [headChanged]
  | some b => simp [headChanged, eq_comm]

theorem gapAfter_eq_zero {a : α} {obs : List (Option α)} :
    gapAfter a obs = 0 ↔
      ∀ later, obs = none :: later → ∀ b, later.reduceOption.head? = some b → b = a := by
  cases obs with
  | nil => simp [gapAfter]
  | cons o obs =>
      cases o with
      | none => simp [gapAfter, headChanged_eq_zero]
      | some b => simp [gapAfter]

theorem gapChanges_eq_zero {obs : List (Option α)} : gapChanges obs = 0 ↔ GapsKeep obs := by
  unfold GapsKeep
  induction obs with
  | nil => simp [gapChanges]
  | cons o obs ih =>
      -- a suffix is the whole list or a suffix of the tail
      simp only [List.suffix_cons_iff]
      cases o with
      | none =>
          rw [gapChanges, ih]
          simp
      | some a =>
          rw [gapChanges, Nat.add_eq_zero_iff, ih, gapAfter_eq_zero]
          constructor
          · rintro ⟨hhead, htail⟩ b later (heq | hsuffix)
            · obtain ⟨hab, rfl⟩ := List.cons.inj heq
              obtain rfl := Option.some.inj hab
              exact hhead later rfl
            · exact htail b later hsuffix
          · intro h
            refine ⟨fun later hlater => h a later (Or.inl (by rw [hlater])), ?_⟩
            exact fun b later hsuffix => h b later (Or.inr hsuffix)

/-- **No change is missed between neighbours exactly if none happens across a gap.** -/
theorem switches_eq_changes_iff {obs : List (Option α)} :
    switches obs = changes obs.reduceOption ↔ GapsKeep obs := by
  rw [changes_reduceOption, ← gapChanges_eq_zero]
  omega

end Changes
