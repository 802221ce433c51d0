import AnalyticsTesting.Config.Load

set_option autoImplicit false

/-! # What an overlay holds

`lookup_merge`: under each key the overlay has the value of the upper dict if there is one, merged
into the lower one's if both are dicts. `lookup_merge_of_flat`: a value that is not a dict with
entries is the upper one's own. Both need the upper dict to have one entry a key, which `wf_expand`
and the lemmas after it derive from the document. -/

namespace AnalyticsTesting.Config

/-! ## Well-formed documents -/

theorem keys_expandItems (environ : String → Option String) :
    ∀ items : Items, Entries.keys (expandItems environ items) = Entries.keys items
  | [] => rfl
  | (k, _) :: rest => by
      simp only [expandItems, Entries.keys_cons, keys_expandItems environ rest]

mutual

theorem wf_expand (environ : String → Option String) :
    ∀ v : Value, v.wf = true → (expand environ v).wf = true
  | .list xs, h => wf_expandList environ xs h
  | .dict items, h => by
      simp only [Value.wf, Bool.and_eq_true, decide_eq_true_eq] at h
      simp only [expand, Value.wf, keys_expandItems, h.1, decide_true, Bool.true_and]
      exact wf_expandItems environ items h.2
  | .pair _ _, h => h
  | .none, _ | .bool _, _ | .int _, _ | .float _, _ | .negZero, _ | .str _, _ | .bytes _, _
  | .set _, _ | .other _ _, _ | .endless _, _ => rfl

theorem wf_expandList (environ : String → Option String) :
    ∀ xs : List Value, wfList xs = true → wfList (expandList environ xs) = true
  | [], _ => rfl
  | v :: vs, h => by
      simp only [wfList, Bool.and_eq_true] at h
      simp only [expandList, wfList, wf_expand environ v h.1, Bool.true_and]
      exact wf_expandList environ vs h.2

theorem wf_expandItems (environ : String → Option String) :
    ∀ items : Items, wfItems items = true → wfItems (expandItems environ items) = true
  | [], _ => rfl
  | (_, v) :: rest, h => by
      simp only [wfItems, Bool.and_eq_true] at h
      simp only [expandItems, wfItems, wf_expand environ v h.1, Bool.true_and]
      exact wf_expandItems environ rest h.2

end

theorem wf_lookup {items : Items} {k : KeyId} {v : Value} (hwf : wfItems items = true)
    (h : items.lookup k = some v) : v.wf = true := by
  induction items with
  | nil => simp at h
  | cons p rest ih =>
      obtain ⟨k', v'⟩ := p
      simp only [wfItems, Bool.and_eq_true] at hwf
      rw [Entries.lookup_cons] at h
      by_cases hk : k'.id = k
      · rw [if_pos hk] at h
        obtain rfl := Option.some.inj h
        exact hwf.1
      · rw [if_neg hk] at h
        exact ih hwf.2 h

theorem wf_orElse {v default : Value} (hv : v.wf = true) (hd : default.wf = true) :
    (v.orElse default).wf = true := by
  unfold Value.orElse
  split
  · exact hv
  · exact hd

theorem wf_get {v default r : Value} {key : String} (hv : v.wf = true) (hd : default.wf = true)
    (h : v.get key default = .ok r) : r.wf = true := by
  cases v with
  | dict items =>
      simp only [Value.wf, Bool.and_eq_true] at hv
      obtain rfl := Except.ok.inj h
      cases hlookup : Entries.lookup items (.str key) with
      | none => exact hd
      | some v => exact wf_lookup hv.2 hlookup
  | _ => simp [Value.get, raise] at h

theorem wf_getItem {v r : Value} {key : String} (hv : v.wf = true)
    (h : v.getItem key = .ok r) : r.wf = true := by
  cases v with
  | dict items =>
      simp only [Value.wf, Bool.and_eq_true] at hv
      exact wf_lookup hv.2 (orRaise_eq_ok.1 h)
  | _ => simp [Value.getItem, raise] at h

theorem nodup_items {v : Value} {items : Items} (hv : v.wf = true) (h : v.items = .ok items) :
    items.keys.Nodup := by
  cases v with
  | dict items' =>
      simp only [Value.wf, Bool.and_eq_true, decide_eq_true_eq] at hv
      obtain rfl := Except.ok.inj h
      exact hv.1
  | _ => simp [Value.items, raise] at h

theorem document_eq_ok {environ : String → Option String} {doc raw : Value} :
    document environ doc = .ok raw ↔
      (doc.orElse (.dict [])).ends = true ∧ expand environ (doc.orElse (.dict [])) = raw := by
  unfold document expandAll
  split
  case isTrue h => simp [h]
  case isFalse h => simp [h, raise]

theorem wf_document {environ : String → Option String} {doc raw : Value} (h : doc.wf = true)
    (hraw : document environ doc = .ok raw) : raw.wf = true := by
  obtain ⟨-, rfl⟩ := document_eq_ok.1 hraw
  exact wf_expand environ _ (wf_orElse h rfl)

theorem wf_profileSection {raw prof : Value} {profile : String} (hraw : raw.wf = true)
    (h : profileSection raw profile = .ok prof) : prof.wf = true := by
  simp only [profileSection, bind_eq_ok] at h
  obtain ⟨profiles, hprofiles, known, -, h⟩ := h
  have hwf : (profiles.orElse (.dict [])).wf = true := wf_orElse (wf_get hraw rfl hprofiles) rfl
  split at h
  · simp only [bind_eq_ok] at h
    obtain ⟨_, -, h⟩ := h
    simp [raise] at h
  · simp only [bind_eq_ok] at h
    obtain ⟨section', hsection, h⟩ := h
    obtain rfl := pure_eq_ok.1 h
    exact wf_orElse (wf_getItem hwf hsection) rfl

/-! ## Looking up in an overlay -/

theorem lookup_eq_none {items : Items} {k : KeyId} (h : k ∉ items.keys) :
    items.lookup k = none := by
  induction items with
  | nil => rfl
  | cons p rest ih =>
      obtain ⟨k', v⟩ := p
      simp only [Entries.keys_cons, List.mem_cons, not_or] at h
      rw [Entries.lookup_cons, if_neg (Ne.symm h.1)]
      exact ih h.2

theorem mem_keys_set {k : Key} {k' : KeyId} {v : Value} {items : Items}
    (h : k' ∈ (items.set k v).keys) : k' = k.id ∨ k' ∈ items.keys := by
  induction items with
  | nil => exact Or.inl (List.mem_singleton.1 h)
  | cons p rest ih =>
      obtain ⟨k₁, v₁⟩ := p
      rw [Entries.set] at h
      split at h
      · exact Or.inr h
      · rcases List.mem_cons.1 h with rfl | hmem
        · exact Or.inr List.mem_cons_self
        · exact (ih hmem).imp_right (List.mem_cons_of_mem _)

theorem nodup_set {items : Items} (h : items.keys.Nodup) (k : Key) (v : Value) :
    (items.set k v).keys.Nodup := by
  induction items with
  | nil => exact List.nodup_singleton k.id
  | cons p rest ih =>
      obtain ⟨k₁, v₁⟩ := p
      simp only [Entries.keys_cons, List.nodup_cons] at h
      rw [Entries.set]
      split
      case isTrue => simpa using h
      case isFalse hne =>
        simp only [Entries.keys_cons, List.nodup_cons]
        refine ⟨fun hmem => ?_, ih h.2⟩
        rcases mem_keys_set hmem with heq | hrest
        · exact hne heq
        · exact h.1 hrest

/-- **What an overlay holds under a key.** -/
theorem lookup_merge {upper : Items} (hnodup : upper.keys.Nodup) (k : KeyId) :
    ∀ out : Items, (merge out upper).lookup k = match upper.lookup k with
      | some v => some (mergeValue (out.lookup k) v)
      | none => out.lookup k := by
  induction upper with
  | nil => exact fun out => rfl
  | cons p rest ih =>
      obtain ⟨k', v⟩ := p
      intro out
      simp only [Entries.keys_cons, List.nodup_cons] at hnodup
      rw [merge, mergeEntry, ih hnodup.2, Entries.lookup_cons]
      by_cases hk : k'.id = k
      · subst hk
        rw [lookup_eq_none hnodup.1, if_pos rfl]
        exact Entries.lookup_set_self _ _ _
      · rw [if_neg hk, Entries.lookup_set_of_ne _ _ hk]

theorem set_ne_nil (items : Items) (k : Key) (v : Value) : items.set k v ≠ [] := by
  cases items with
  | nil => simp [Entries.set]
  | cons p rest =>
      obtain ⟨k', v'⟩ := p
      simp only [Entries.set]
      split <;> simp

theorem eq_nil_of_merge_eq_nil {upper : Items} :
    ∀ {out : Items}, merge out upper = [] → out = [] ∧ upper = [] := by
  induction upper with
  | nil => exact fun h => ⟨h, rfl⟩
  | cons p rest ih =>
      obtain ⟨k, v⟩ := p
      intro out h
      exact absurd (ih h).1 (set_ne_nil _ _ _)

/-- A value that is not a dict with entries. -/
def Value.Flat (v : Value) : Prop := ∀ entry rest, v ≠ .dict (entry :: rest)

/-- A flat value is the upper layer's own. -/
theorem mergeValue_of_flat {old : Option Value} {v : Value} (h : (mergeValue old v).Flat) :
    mergeValue old v = v := by
  cases v with
  | dict upper =>
      have hdict : ∀ base, (Value.dict (merge base upper)).Flat →
          Value.dict (merge base upper) = .dict upper := by
        intro base hflat
        cases hmerge : merge base upper with
        | nil => rw [(eq_nil_of_merge_eq_nil hmerge).2]
        | cons entry rest => exact absurd (congrArg Value.dict hmerge) (hflat entry rest)
      cases old with
      | some v =>
          cases v with
          | dict base => exact hdict base h
          | _ => rfl
      | none => rfl
  | _ => rfl

theorem lookup_merge_of_flat {out upper : Items} {k : KeyId} (hnodup : upper.keys.Nodup)
    (h : ∀ v, (merge out upper).lookup k = some v → v.Flat) :
    (merge out upper).lookup k = (upper.lookup k).or (out.lookup k) := by
  rw [lookup_merge hnodup] at h ⊢
  cases hover : upper.lookup k with
  | none => rfl
  | some v =>
      simp only [hover] at h
      exact congrArg some (mergeValue_of_flat (h _ rfl))

end AnalyticsTesting.Config
