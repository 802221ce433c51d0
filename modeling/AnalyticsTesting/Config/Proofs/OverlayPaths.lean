import AnalyticsTesting.Config.Proofs.Overlay

set_option autoImplicit false

/-! # An overlay along the paths of its keys

`valueAt_merge`: below the longest prefix of a path that both trees share, an overlay holds what one
of the two layers holds (`LongestShared`). The same overlay a second time changes nothing
(`merge_merge_self`). -/

namespace AnalyticsTesting.Config

/-! ## Mappings -/

/-- A dict with one entry a key, at every depth. -/
@[ext] structure Mapping where
  items : Items
  wf : (Value.dict items).wf = true

theorem wf_dict {items : Items} : (Value.dict items).wf = true ↔
    items.keys.Nodup ∧ wfItems items = true := by
  simp only [Value.wf, Bool.and_eq_true, decide_eq_true_eq]

theorem wfItems_set {items : Items} {v : Value} (h : wfItems items = true) (hv : v.wf = true)
    (k : Key) : wfItems (items.set k v) = true := by
  induction items with
  | nil => simp [Entries.set, wfItems, hv]
  | cons p rest ih =>
      obtain ⟨k', v'⟩ := p
      simp only [wfItems, Bool.and_eq_true] at h
      rw [Entries.set]
      split
      · simp [wfItems, hv, h.2]
      · simp [wfItems, h.1, ih h.2]

mutual

theorem wf_mergeValue : ∀ v : Value, v.wf = true → ∀ old : Option Value,
    (∀ w, old = some w → w.wf = true) → (mergeValue old v).wf = true
  | .dict upper, h, old, hold => by
      cases old with
      | none => exact h
      | some w =>
          cases w with
          | dict base => exact wf_merge upper (wf_dict.1 h).2 base (hold _ rfl)
          | _ => exact h
  | .list _, h, _, _ | .pair _ _, h, _, _ => h
  | .none, _, _, _ | .bool _, _, _, _ | .int _, _, _, _ | .float _, _, _, _ | .negZero, _, _, _
  | .str _, _, _, _ | .bytes _, _, _, _ | .set _, _, _, _ | .other _ _, _, _, _
  | .endless _, _, _, _ => rfl

theorem wf_merge : ∀ upper : Items, wfItems upper = true → ∀ out : Items,
    (Value.dict out).wf = true → (Value.dict (merge out upper)).wf = true
  | [], _, _, hout => hout
  | (k, v) :: rest, h, out, hout => by
      simp only [wfItems, Bool.and_eq_true] at h
      obtain ⟨hnodup, hitems⟩ := wf_dict.1 hout
      have hv : (mergeValue (out.lookup k.id) v).wf = true :=
        wf_mergeValue v h.1 _ fun w hw => wf_lookup hitems hw
      exact wf_merge rest h.2 _ (wf_dict.2 ⟨nodup_set hnodup k _, wfItems_set hitems hv k⟩)

end

namespace Mapping

/-- The mapping as a tree. -/
def tree (m : Mapping) : Value := .dict m.items

/-- The mapping without an entry. -/
def empty : Mapping := ⟨[], rfl⟩

/-- `_merge(base, over)`. -/
def merge (base upper : Mapping) : Mapping :=
  ⟨Config.merge base.items upper.items, wf_merge _ (wf_dict.1 upper.wf).2 _ base.wf⟩

theorem nodup (m : Mapping) : m.items.keys.Nodup := (wf_dict.1 m.wf).1

end Mapping

/-! ## Paths -/

/-- The value under a path of keys, if there is one. -/
def Value.valueAt : Value → List KeyId → Option Value
  | v, [] => some v
  | .dict items, k :: path => (Entries.lookup items k).bind fun v => v.valueAt path
  | _, _ :: _ => .none

/-- Both trees hold a mapping at the path. -/
def BothMappings (base upper : Value) (path : List KeyId) : Prop :=
  ∃ lower higher, base.valueAt path = some (.dict lower) ∧ upper.valueAt path = some (.dict higher)

/-- A prefix at every proper prefix of which both trees hold a mapping. -/
structure Shared (base upper : Value) (path q : List KeyId) : Prop where
  isPrefix : q <+: path
  mappings : ∀ r, r <+: q → r ≠ q → BothMappings base upper r

/-- The longest one. -/
structure LongestShared (base upper : Value) (path q : List KeyId) : Prop where
  shared : Shared base upper path q
  longest : ∀ r, Shared base upper path r → r.length ≤ q.length

theorem valueAt_cons (items : Items) (k : KeyId) (path : List KeyId) :
    (Value.dict items).valueAt (k :: path) = (items.lookup k).bind fun v => v.valueAt path := rfl

theorem bothMappings_nil (lower higher : Items) : BothMappings (.dict lower) (.dict higher) [] :=
  ⟨lower, higher, rfl, rfl⟩

theorem valueAt_singleton (items : Items) (k : KeyId) :
    (Value.dict items).valueAt [k] = items.lookup k := Option.bind_fun_some _

theorem bothMappings_singleton {lower higher : Items} {k : KeyId} :
    BothMappings (.dict lower) (.dict higher) [k] ↔ ∃ lower' higher',
      lower.lookup k = some (.dict lower') ∧ higher.lookup k = some (.dict higher') := by
  simp only [BothMappings, valueAt_singleton]

theorem bothMappings_cons {lower higher : Items} {base upper : Value} {k : KeyId}
    (hlower : lower.lookup k = some base) (hhigher : higher.lookup k = some upper)
    (q : List KeyId) :
    BothMappings (.dict lower) (.dict higher) (k :: q) ↔ BothMappings base upper q := by
  simp only [BothMappings, valueAt_cons, hlower, hhigher, Option.bind_some]

/-- A prefix below `k` is shared as soon as it is shared by the values under `k`. -/
theorem shared_cons {lower higher : Items} {base upper : Value} {k : KeyId}
    (hlower : lower.lookup k = some base) (hhigher : higher.lookup k = some upper)
    (path q : List KeyId) :
    Shared (.dict lower) (.dict higher) (k :: path) (k :: q) ↔ Shared base upper path q := by
  refine ⟨fun h => ⟨(List.cons_prefix_cons.1 h.isPrefix).2, fun r hr hne => ?_⟩, fun h =>
    ⟨List.cons_prefix_cons.2 ⟨rfl, h.isPrefix⟩, fun r hr hne => ?_⟩⟩
  · have hcons := h.mappings (k :: r) (List.cons_prefix_cons.2 ⟨rfl, hr⟩) (by simpa using hne)
    exact (bothMappings_cons hlower hhigher r).1 hcons
  · cases r with
    | nil => exact bothMappings_nil _ _
    | cons k' r =>
        obtain ⟨rfl, hr'⟩ := List.cons_prefix_cons.1 hr
        exact (bothMappings_cons hlower hhigher r).2 (h.mappings r hr' (by simpa using hne))

/-- The first key of a path is always shared. -/
theorem shared_singleton (lower higher : Items) (k : KeyId) (path : List KeyId) :
    Shared (.dict lower) (.dict higher) (k :: path) [k] := by
  refine ⟨⟨path, rfl⟩, fun r hr hne => ?_⟩
  rcases List.prefix_cons_iff.1 hr with rfl | ⟨r', rfl, hr'⟩
  · exact bothMappings_nil _ _
  · exact absurd (congrArg (k :: ·) (List.prefix_nil.1 hr')) hne

/-- What is shared beyond the first key needs two mappings under it. -/
theorem eq_nil_of_shared {lower higher : Items} {k : KeyId} {path q : List KeyId}
    (h : Shared (.dict lower) (.dict higher) (k :: path) (k :: q))
    (hk : ¬ BothMappings (.dict lower) (.dict higher) [k]) : q = [] := by
  by_contra hq
  exact hk (h.mappings [k] ⟨q, rfl⟩ (by simpa using Ne.symm hq))

theorem longestShared_nil {base upper : Value} {q : List KeyId} :
    LongestShared base upper [] q ↔ q = [] := by
  constructor
  · exact fun h => List.prefix_nil.1 h.shared.isPrefix
  · rintro rfl
    refine ⟨⟨List.prefix_refl _, fun r hr hne => absurd (List.prefix_nil.1 hr) hne⟩, fun r hr => ?_⟩
    rw [List.prefix_nil.1 hr.isPrefix]

/-- It starts with the first key of the path. -/
theorem LongestShared.cons {lower higher : Items} {k : KeyId} {path q : List KeyId}
    (h : LongestShared (.dict lower) (.dict higher) (k :: path) q) : ∃ q', q = k :: q' := by
  cases q with
  | nil => exact absurd (h.longest _ (shared_singleton lower higher k path)) (by simp)
  | cons k' q' => exact ⟨q', by rw [(List.cons_prefix_cons.1 h.shared.isPrefix).1]⟩

theorem longestShared_cons {lower higher : Items} {base upper : Value} {k : KeyId}
    (hlower : lower.lookup k = some base) (hhigher : higher.lookup k = some upper)
    (path q : List KeyId) :
    LongestShared (.dict lower) (.dict higher) (k :: path) (k :: q) ↔
      LongestShared base upper path q := by
  constructor
  · intro h
    refine ⟨(shared_cons hlower hhigher path q).1 h.shared, fun r hr => ?_⟩
    have hlen := h.longest (k :: r) ((shared_cons hlower hhigher path r).2 hr)
    simpa using hlen
  · intro h
    refine ⟨(shared_cons hlower hhigher path q).2 h.shared, fun r hr => ?_⟩
    cases r with
    | nil => exact Nat.zero_le _
    | cons k' r =>
        obtain ⟨rfl, -⟩ := List.cons_prefix_cons.1 hr.isPrefix
        have hlen := h.longest r ((shared_cons hlower hhigher path r).1 hr)
        simpa using hlen

/-- It is the first key alone if there are no two mappings under it. -/
theorem longestShared_singleton {lower higher : Items} {k : KeyId}
    (hk : ¬ BothMappings (.dict lower) (.dict higher) [k]) (path : List KeyId) :
    LongestShared (.dict lower) (.dict higher) (k :: path) [k] := by
  refine ⟨shared_singleton lower higher k path, fun r hr => ?_⟩
  cases r with
  | nil => exact Nat.zero_le _
  | cons k' r =>
      obtain ⟨rfl, -⟩ := List.cons_prefix_cons.1 hr.isPrefix
      rw [eq_nil_of_shared hr hk]

/-- Every path has one. -/
theorem exists_longestShared (path : List KeyId) (lower higher : Items) :
    ∃ q, LongestShared (.dict lower) (.dict higher) path q := by
  induction path generalizing lower higher with
  | nil => exact ⟨[], longestShared_nil.2 rfl⟩
  | cons k path ih =>
      by_cases hk : BothMappings (.dict lower) (.dict higher) [k]
      · obtain ⟨lower', higher', hlower, hhigher⟩ := bothMappings_singleton.1 hk
        obtain ⟨q, hq⟩ := ih lower' higher'
        exact ⟨k :: q, (longestShared_cons hlower hhigher path q).2 hq⟩
      · exact ⟨[k], longestShared_singleton hk path⟩

/-- And only one. -/
theorem LongestShared.unique {base upper : Value} {path q r : List KeyId}
    (hq : LongestShared base upper path q) (hr : LongestShared base upper path r) : q = r := by
  have hlen : q.length = r.length :=
    Nat.le_antisymm (hr.longest q hq.shared) (hq.longest r hr.shared)
  have hprefix : q <+: r :=
    List.prefix_of_prefix_length_le hq.shared.isPrefix hr.shared.isPrefix hlen.le
  exact hprefix.eq_of_length hlen

/-! ## The value at a path -/

/-- What an overlay holds at a path, by the longest prefix the layers share: the lower layer's value
    if the upper one has nothing there, the upper layer's if they are not two mappings, and else
    the overlay of the two. -/
structure FollowsPath (base upper merged : Value) (path q : List KeyId) : Prop where
  fromBase : upper.valueAt q = none → merged.valueAt path = base.valueAt path
  fromUpper : upper.valueAt q ≠ none → ¬ BothMappings base upper q →
    merged.valueAt path = upper.valueAt path
  ofBoth : ∀ lower higher, base.valueAt q = some (.dict lower) →
    upper.valueAt q = some (.dict higher) →
    q = path ∧ merged.valueAt path = some (.dict (merge lower higher))

/-- The overlay of two mappings under a key. -/
theorem lookup_merge_of_mappings {lower higher lower' higher' : Items} {k : KeyId}
    (hnodup : higher.keys.Nodup) (hlower : lower.lookup k = some (.dict lower'))
    (hhigher : higher.lookup k = some (.dict higher')) :
    (merge lower higher).lookup k = some (.dict (merge lower' higher')) := by
  rw [lookup_merge hnodup, hhigher, hlower]
  rfl

/-- A value that does not meet a mapping with a mapping is stored as it is. -/
theorem mergeValue_eq_self {old : Option Value} {v : Value}
    (h : ¬ ∃ lower higher, old = some (.dict lower) ∧ v = .dict higher) : mergeValue old v = v := by
  cases v with
  | dict higher =>
      cases old with
      | none => rfl
      | some w =>
          cases w with
          | dict lower => exact absurd ⟨lower, higher, rfl, rfl⟩ h
          | _ => rfl
  | _ => rfl

theorem FollowsPath.cons {lower higher merged : Items} {base upper v : Value} {k : KeyId}
    {path q : List KeyId} (h : FollowsPath base upper v path q)
    (hlower : lower.lookup k = some base) (hhigher : higher.lookup k = some upper)
    (hmerged : merged.lookup k = some v) :
    FollowsPath (.dict lower) (.dict higher) (.dict merged) (k :: path) (k :: q) := by
  refine ⟨fun hnone => ?_, fun hsome hnot => ?_, fun lower' higher' hlower' hhigher' => ?_⟩
  · rw [valueAt_cons, hhigher] at hnone
    rw [valueAt_cons, valueAt_cons, hmerged, hlower]
    exact h.fromBase hnone
  · rw [valueAt_cons, hhigher] at hsome
    rw [bothMappings_cons hlower hhigher] at hnot
    rw [valueAt_cons, valueAt_cons, hmerged, hhigher]
    exact h.fromUpper hsome hnot
  · rw [valueAt_cons, hlower] at hlower'
    rw [valueAt_cons, hhigher] at hhigher'
    obtain ⟨rfl, hvalue⟩ := h.ofBoth lower' higher' hlower' hhigher'
    refine ⟨rfl, ?_⟩
    rw [valueAt_cons, hmerged]
    exact hvalue

/-- Where there are no two mappings under the first key, one of the layers holds the rest. -/
theorem followsPath_singleton {lower higher : Items} {k : KeyId}
    (hnodup : higher.keys.Nodup)
    (hk : ¬ BothMappings (.dict lower) (.dict higher) [k]) (path : List KeyId) :
    FollowsPath (.dict lower) (.dict higher) (.dict (merge lower higher)) (k :: path) [k] := by
  have hlookup := lookup_merge hnodup k lower
  refine ⟨fun hnone => ?_, fun hsome _ => ?_, fun lower' higher' hlower hhigher => ?_⟩
  · rw [valueAt_singleton] at hnone
    rw [hnone] at hlookup
    rw [valueAt_cons, valueAt_cons, hlookup]
  · rw [valueAt_singleton] at hsome
    obtain ⟨v, hv⟩ := Option.ne_none_iff_exists'.1 hsome
    have hself : mergeValue (lower.lookup k) v = v := by
      refine mergeValue_eq_self ?_
      rintro ⟨lower', higher', hlower, rfl⟩
      exact hk (bothMappings_singleton.2 ⟨lower', higher', hlower, hv⟩)
    simp only [hv, hself] at hlookup
    rw [valueAt_cons, valueAt_cons, hlookup, hv]
  · exact absurd ⟨lower', higher', hlower, hhigher⟩ hk

/-- **An overlay follows the path through both layers.** -/
theorem valueAt_merge {path q : List KeyId} {lower higher : Items}
    (hwf : (Value.dict higher).wf = true)
    (hq : LongestShared (.dict lower) (.dict higher) path q) :
    FollowsPath (.dict lower) (.dict higher) (.dict (merge lower higher)) path q := by
  induction path generalizing lower higher q with
  | nil =>
      obtain rfl := longestShared_nil.1 hq
      refine ⟨fun h => (nomatch h), fun _ h => absurd (bothMappings_nil _ _) h, ?_⟩
      rintro lower' higher' ⟨⟩ ⟨⟩
      exact ⟨rfl, rfl⟩
  | cons k path ih =>
      obtain ⟨hnodup, hitems⟩ := wf_dict.1 hwf
      obtain ⟨q, rfl⟩ := hq.cons
      by_cases hk : BothMappings (.dict lower) (.dict higher) [k]
      · -- two mappings: the path goes on in both
        obtain ⟨lower', higher', hlower, hhigher⟩ := bothMappings_singleton.1 hk
        have hrest := ih (wf_lookup hitems hhigher)
          ((longestShared_cons hlower hhigher path q).1 hq)
        exact hrest.cons hlower hhigher (lookup_merge_of_mappings hnodup hlower hhigher)
      · obtain rfl := eq_nil_of_shared hq.shared hk
        exact followsPath_singleton hnodup hk path

/-! ## The same overlay again -/

theorem set_of_lookup {items : Items} {k : Key} {v : Value} (h : items.lookup k.id = some v) :
    items.set k v = items := by
  induction items with
  | nil => cases h
  | cons p rest ih =>
      obtain ⟨k', v'⟩ := p
      rw [Entries.lookup_cons] at h
      rw [Entries.set]
      split at h
      case isTrue heq =>
        obtain rfl := Option.some.inj h
        rw [if_pos heq]
      case isFalse hne => rw [if_neg hne, ih h]

theorem lookup_of_mem {items : Items} {k : Key} {v : Value}
    (hnodup : items.keys.Nodup) (h : (k, v) ∈ items) : items.lookup k.id = some v := by
  induction items with
  | nil => cases h
  | cons p rest ih =>
      obtain ⟨k', v'⟩ := p
      simp only [Entries.keys_cons, List.nodup_cons] at hnodup
      rw [Entries.lookup_cons]
      rcases List.mem_cons.1 h with heq | hmem
      · obtain ⟨rfl, rfl⟩ := Prod.mk.inj heq
        exact if_pos rfl
      · have hne : k'.id ≠ k.id := fun heq =>
          hnodup.1 (heq ▸ List.mem_map.2 ⟨_, hmem, rfl⟩)
        rw [if_neg hne]
        exact ih hnodup.2 hmem

/-- An overlay whose values are there already changes nothing. -/
theorem merge_eq_self {out upper : Items}
    (h : ∀ k v, (k, v) ∈ upper → ∃ w, out.lookup k.id = some w ∧ mergeValue (some w) v = w) :
    merge out upper = out := by
  induction upper with
  | nil => rfl
  | cons p rest ih =>
      obtain ⟨k, v⟩ := p
      obtain ⟨w, hw, hself⟩ := h k v List.mem_cons_self
      have hentry : mergeEntry out (k, v) = out := by
        rw [mergeEntry, hw, hself]
        exact set_of_lookup hw
      rw [merge, hentry]
      exact ih fun k' v' hmem => h k' v' (List.mem_cons_of_mem _ hmem)

/-- What an overlay has stored for its own values stays if they are stored so again. -/
theorem merge_merge_of_stored {base upper : Items} (hnodup : upper.keys.Nodup)
    (h : ∀ k v, (k, v) ∈ upper →
      ∀ old, mergeValue (some (mergeValue old v)) v = mergeValue old v) :
    merge (merge base upper) upper = merge base upper := by
  refine merge_eq_self fun k v hmem => ⟨mergeValue (base.lookup k.id) v, ?_, h k v hmem _⟩
  rw [lookup_merge hnodup, lookup_of_mem hnodup hmem]

mutual

theorem mergeValue_mergeValue : ∀ v : Value, v.wf = true → ∀ old : Option Value,
    mergeValue (some (mergeValue old v)) v = mergeValue old v
  | .dict upper, h, old => by
      obtain ⟨hnodup, hitems⟩ := wf_dict.1 h
      have hstored := mergeValue_mergeValue_of_mem upper hitems
      by_cases hold : ∃ lower higher, old = some (.dict lower) ∧ Value.dict upper = .dict higher
      · obtain ⟨lower, -, rfl, -⟩ := hold
        exact congrArg Value.dict (merge_merge_of_stored hnodup hstored)
      · -- the dict is stored as it is, and overlaid on itself the second time
        rw [mergeValue_eq_self hold]
        refine congrArg Value.dict (merge_eq_self fun k v hmem => ?_)
        have hnone : mergeValue none v = v := mergeValue_eq_self (by simp)
        have hself := hstored k v hmem none
        rw [hnone] at hself
        exact ⟨v, lookup_of_mem hnodup hmem, hself⟩
  | .none, _, _ | .bool _, _, _ | .int _, _, _ | .float _, _, _ | .negZero, _, _ | .str _, _, _
  | .bytes _, _, _ | .list _, _, _ | .pair _ _, _, _ | .set _, _, _ | .other _ _, _, _
  | .endless _, _, _ => rfl

theorem mergeValue_mergeValue_of_mem : ∀ upper : Items, wfItems upper = true → ∀ k v,
    (k, v) ∈ upper → ∀ old, mergeValue (some (mergeValue old v)) v = mergeValue old v
  | (k', v') :: rest, h, k, v, hmem, old => by
      simp only [wfItems, Bool.and_eq_true] at h
      rcases List.mem_cons.1 hmem with heq | hrest
      · rw [(Prod.mk.inj heq).2]
        exact mergeValue_mergeValue v' h.1 old
      · exact mergeValue_mergeValue_of_mem rest h.2 k v hrest old

end

/-- **The same overlay a second time changes nothing.** -/
theorem merge_merge_self (base : Items) {upper : Items} (h : (Value.dict upper).wf = true) :
    merge (merge base upper) upper = merge base upper := by
  obtain ⟨hnodup, hitems⟩ := wf_dict.1 h
  exact merge_merge_of_stored hnodup (mergeValue_mergeValue_of_mem upper hitems)

end AnalyticsTesting.Config
