import Mathlib.Data.List.Nodup

set_option autoImplicit false

/-! # Dicts in the order of insertion

An assignment to a key that is there changes its value in place, one to a new key goes to the end.
Entries whose keys are new and all different are appended as they are (`update_of_fresh`). -/

namespace PyDict

variable {κ υ : Type} [DecidableEq κ]

/-- `d.get(k)`. -/
def get : List (κ × υ) → κ → Option υ
  | [], _ => none
  | (k', v) :: rest, k => if k' = k then some v else get rest k

/-- `d[k] = v`. -/
def set : List (κ × υ) → κ → υ → List (κ × υ)
  | [], k, v => [(k, v)]
  | (k', v') :: rest, k, v => if k' = k then (k', v) :: rest else (k', v') :: set rest k v

/-- `d.update(entries)`. -/
def update (d entries : List (κ × υ)) : List (κ × υ) :=
  entries.foldl (fun d entry => set d entry.1 entry.2) d

theorem set_of_not_mem {d : List (κ × υ)} {k : κ} (h : k ∉ d.map Prod.fst) (v : υ) :
    set d k v = d ++ [(k, v)] := by
  induction d with
  | nil => rfl
  | cons entry rest ih =>
      obtain ⟨k', v'⟩ := entry
      simp only [List.map_cons, List.mem_cons, not_or] at h
      rw [set, if_neg (Ne.symm h.1), ih h.2]
      rfl

/-- **New entries are appended.** -/
theorem update_of_fresh {entries : List (κ × υ)} : ∀ {d : List (κ × υ)},
    ((d ++ entries).map Prod.fst).Nodup → update d entries = d ++ entries := by
  induction entries with
  | nil => exact fun _ => (List.append_nil _).symm
  | cons entry rest ih =>
      intro d h
      have hnew : entry.1 ∉ d.map Prod.fst := by
        rw [List.map_append, List.nodup_append] at h
        exact fun hmem => h.2.2 _ hmem _ (List.mem_cons_self ..) rfl
      have hd : set d entry.1 entry.2 = d ++ [entry] := set_of_not_mem hnew _
      rw [update, List.foldl_cons, hd]
      have hrest := ih (d := d ++ [entry]) (by simpa using h)
      rw [update] at hrest
      rw [hrest, List.append_assoc]
      rfl

theorem mem_set {d : List (κ × υ)} {k : κ} {v : υ} {entry : κ × υ} (h : entry ∈ set d k v) :
    entry = (k, v) ∨ entry ∈ d := by
  induction d with
  | nil => exact Or.inl (List.mem_singleton.1 h)
  | cons first rest ih =>
      obtain ⟨k', v'⟩ := first
      rw [set] at h
      split at h
      case isTrue heq =>
        rcases List.mem_cons.1 h with rfl | h
        · exact Or.inl (by rw [heq])
        · exact Or.inr (List.mem_cons_of_mem _ h)
      case isFalse =>
        rcases List.mem_cons.1 h with rfl | h
        · exact Or.inr List.mem_cons_self
        · exact (ih h).imp_right (List.mem_cons_of_mem _)

/-- Nothing is in an updated dict that was not there or has been put there. -/
theorem mem_update {entries : List (κ × υ)} {entry : κ × υ} :
    ∀ {d : List (κ × υ)}, entry ∈ update d entries → entry ∈ d ∨ entry ∈ entries := by
  induction entries with
  | nil => exact fun h => Or.inl h
  | cons first rest ih =>
      intro d h
      rcases ih (d := set d first.1 first.2) h with h | h
      · rcases mem_set h with rfl | h
        · exact Or.inr List.mem_cons_self
        · exact Or.inl h
      · exact Or.inr (List.mem_cons_of_mem _ h)

end PyDict
