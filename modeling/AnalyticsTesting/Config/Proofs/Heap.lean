import AnalyticsTesting.Lib.Heap
import AnalyticsTesting.Config.Heap
import AnalyticsTesting.Config.Proofs.OverlayPaths

set_option autoImplicit false

/-! # `_merge` changes neither of its arguments

`Denotes`: an object stands for a value. `mergeRefs_merges`: from objects for two mappings `_merge`
makes one for their overlay, and all the cells there were before it stay as they were. While `out`
is being filled, its address is hidden from every view the other objects are read in: that is the
invariant of the loop (`Filling`). -/

namespace AnalyticsTesting.Config

open Heap (Within Grows view)

mutual

/-- The object stands for the value. -/
def Denotes (w : Nat → Option Cell) : Value → Obj → Prop
  | .dict items, o => ∃ a entries, o = .ref a ∧ w a = some (.dict entries) ∧
      DenotesItems w items entries
  | .list xs, o => ∃ a os, o = .ref a ∧ w a = some (.list os) ∧ DenotesList w xs os
  | v, o => ∃ s, o = .scalar s ∧ s.1 = v

/-- The entries of the object stand for the entries of the value. -/
def DenotesItems (w : Nat → Option Cell) : Items → Entries Obj → Prop
  | [], entries => entries = []
  | (k, v) :: rest, entries => ∃ o tail, entries = (k, o) :: tail ∧ Denotes w v o ∧
      DenotesItems w rest tail

def DenotesList (w : Nat → Option Cell) : List Value → List Obj → Prop
  | [], os => os = []
  | v :: rest, os => ∃ o tail, os = o :: tail ∧ Denotes w v o ∧ DenotesList w rest tail

end

mutual

/-- How many dicts are inside each other. -/
def Value.depth : Value → Nat
  | .dict items => depthItems items + 1
  | _ => 0

def depthItems : Items → Nat
  | [] => 0
  | (_, v) :: rest => max v.depth (depthItems rest)

end

/-! ## Reading objects -/

mutual

theorem Denotes.mono {w w' : Nat → Option Cell} (hw : Within w w') :
    ∀ (v : Value) (o : Obj), Denotes w v o → Denotes w' v o
  | .dict items, _, ⟨a, entries, ho, ha, hitems⟩ =>
      ⟨a, entries, ho, hw a _ ha, DenotesItems.mono hw items entries hitems⟩
  | .list xs, _, ⟨a, os, ho, ha, hxs⟩ => ⟨a, os, ho, hw a _ ha, DenotesList.mono hw xs os hxs⟩
  | .none, _, h | .bool _, _, h | .int _, _, h | .float _, _, h | .negZero, _, h | .str _, _, h
  | .bytes _, _, h | .pair _ _, _, h | .set _, _, h | .other _ _, _, h | .endless _, _, h => h

theorem DenotesItems.mono {w w' : Nat → Option Cell} (hw : Within w w') :
    ∀ (items : Items) (entries : Entries Obj), DenotesItems w items entries →
      DenotesItems w' items entries
  | [], _, h => h
  | (_, v) :: rest, _, ⟨o, tail, heq, ho, hrest⟩ =>
      ⟨o, tail, heq, Denotes.mono hw v o ho, DenotesItems.mono hw rest tail hrest⟩

theorem DenotesList.mono {w w' : Nat → Option Cell} (hw : Within w w') :
    ∀ (xs : List Value) (os : List Obj), DenotesList w xs os → DenotesList w' xs os
  | [], _, h => h
  | v :: rest, _, ⟨o, tail, heq, ho, hrest⟩ =>
      ⟨o, tail, heq, Denotes.mono hw v o ho, DenotesList.mono hw rest tail hrest⟩

end

/-- A lookup in the object and one in the value find the same. -/
theorem DenotesItems.get {w : Nat → Option Cell} {items : Items} {entries : Entries Obj}
    (h : DenotesItems w items entries) (k : KeyId) :
    Option.Rel (Denotes w) (items.lookup k) (entries.lookup k) := by
  induction items generalizing entries with
  | nil =>
      obtain rfl := h
      exact Option.Rel.none
  | cons p rest ih =>
      obtain ⟨k', v⟩ := p
      obtain ⟨o, tail, rfl, ho, hrest⟩ := h
      rw [Entries.lookup_cons, Entries.lookup_cons]
      by_cases hk : k'.id = k
      · rw [if_pos hk, if_pos hk]
        exact Option.Rel.some ho
      · rw [if_neg hk, if_neg hk]
        exact ih hrest

/-- An assignment to the object is one to the value. -/
theorem DenotesItems.set {w : Nat → Option Cell} {items : Items} {entries : Entries Obj}
    (h : DenotesItems w items entries) {v : Value} {o : Obj} (ho : Denotes w v o) (k : Key) :
    DenotesItems w (items.set k v) (entries.set k o) := by
  induction items generalizing entries with
  | nil =>
      obtain rfl := h
      exact ⟨o, [], rfl, ho, rfl⟩
  | cons p rest ih =>
      obtain ⟨k', v'⟩ := p
      obtain ⟨o', tail, rfl, ho', hrest⟩ := h
      rw [Entries.set, Entries.set]
      by_cases hk : k'.id = k.id
      · rw [if_pos hk, if_pos hk]
        exact ⟨o, tail, rfl, ho, hrest⟩
      · rw [if_neg hk, if_neg hk]
        exact ⟨o', Entries.set tail k o, rfl, ho', ih hrest⟩

theorem dictAt_of_dict {hidden : List Nat} {h : List Cell} {items : Items} {o : Obj}
    (ho : Denotes (view hidden h) (.dict items) o) : ∃ a, o = .ref a ∧ dictAt h o = some a := by
  obtain ⟨a, entries, rfl, ha, -⟩ := ho
  have hcell := (Heap.view_eq_some.1 ha).2
  exact ⟨a, rfl, by simp only [dictAt, hcell]⟩

theorem dictAt_eq_none {hidden : List Nat} {h : List Cell} {v : Value} {o : Obj}
    (ho : Denotes (view hidden h) v o) (hv : ∀ items, v ≠ .dict items) : dictAt h o = none := by
  cases v with
  | dict items => exact absurd rfl (hv items)
  | list xs =>
      obtain ⟨a, os, rfl, ha, -⟩ := ho
      have hcell := (Heap.view_eq_some.1 ha).2
      simp only [dictAt, hcell]
  | _ =>
      obtain ⟨s, rfl, -⟩ := ho
      rfl

/-- Both tests of the loop succeed only on two dicts. -/
theorem dictAt_eq_none_or {hidden : List Nat} {h : List Cell} {v : Value} {value : Obj}
    {old : Option Value} {oldObj : Option Obj}
    (hold : Option.Rel (Denotes (view hidden h)) old oldObj)
    (hv : Denotes (view hidden h) v value)
    (hnot : ¬ ∃ lower higher, old = some (.dict lower) ∧ v = .dict higher) :
    dictAt h value = none ∨ oldObj.bind (dictAt h) = none := by
  by_cases hdict : ∃ higher, v = .dict higher
  · obtain ⟨higher, rfl⟩ := hdict
    right
    cases hold with
    | none => rfl
    | some ho =>
        exact dictAt_eq_none ho fun lower heq => hnot ⟨lower, higher, congrArg some heq, rfl⟩
  · exact Or.inl (dictAt_eq_none hv fun higher heq => hdict ⟨higher, heq⟩)

/-! ## Filling a dict -/

/-- The dict at `n` is being filled and has these entries so far. The objects it refers to are read
    without it, and without the dicts that are being filled around it. -/
structure Filling (hidden : List Nat) (n : Nat) (h : List Cell) (out : Items) : Prop where
  valid : ∀ a ∈ n :: hidden, a < h.length
  cell : ∃ entries, h[n]? = some (.dict entries) ∧ DenotesItems (view (n :: hidden) h) out entries

theorem Filling.get {hidden : List Nat} {n : Nat} {h : List Cell} {out : Items}
    (hfill : Filling hidden n h out) (k : KeyId) :
    Option.Rel (Denotes (view (n :: hidden) h)) (out.lookup k) (getAt h n k) := by
  obtain ⟨entries, hcell, hitems⟩ := hfill.cell
  simp only [getAt, hcell]
  exact hitems.get k

theorem Filling.assign {hidden : List Nat} {n : Nat} {h : List Cell} {out : Items}
    (hfill : Filling hidden n h out) {v : Value} {o : Obj} (ho : Denotes (view (n :: hidden) h) v o)
    (k : Key) :
    Grows [n] h (setAt h n k o) ∧ Filling hidden n (setAt h n k o) (out.set k v) := by
  obtain ⟨entries, hcell, hitems⟩ := hfill.cell
  have hset : setAt h n k o = h.set n (.dict (entries.set k o)) := by
    simp only [setAt, hcell]
  rw [hset]
  refine ⟨Heap.grows_set List.mem_cons_self h _, fun a ha => ?_, entries.set k o, ?_, ?_⟩
  · rw [List.length_set]
    exact hfill.valid a ha
  · exact List.getElem?_set_self (hfill.valid n List.mem_cons_self)
  · rw [Heap.view_set List.mem_cons_self]
    exact hitems.set ho k

theorem Filling.grow {hidden : List Nat} {n : Nat} {h h' : List Cell} {out : Items}
    (hfill : Filling hidden n h out) (hgrows : Grows [] h h') : Filling hidden n h' out := by
  obtain ⟨entries, hcell, hitems⟩ := hfill.cell
  have hview : Grows (n :: hidden) h h' := hgrows.mono (List.nil_subset _)
  refine ⟨fun a ha => (hfill.valid a ha).trans_le hgrows.length_le, entries, ?_,
    DenotesItems.mono hview out entries hitems⟩
  exact Heap.grows_iff.1 hgrows n _ List.not_mem_nil hcell

/-! ## The loop -/

/-- From objects for a mapping and for `upper`, the computation makes one for the overlay, and it
    keeps all the cells there were. -/
def Merges (recurse : List Cell → Nat → Nat → Option (List Cell × Nat)) (upper : Items) : Prop :=
  ∀ (hidden : List Nat) (h : List Cell) (lower : Items) (b u : Nat),
    (∀ a ∈ hidden, a < h.length) → Denotes (view hidden h) (.dict lower) (.ref b) →
    Denotes (view hidden h) (.dict upper) (.ref u) →
    ∃ h' out, recurse h b u = some (h', out) ∧ Grows [] h h' ∧
      Denotes (view hidden h') (.dict (merge lower upper)) (.ref out)

section Loop

variable {recurse : List Cell → Nat → Nat → Option (List Cell × Nat)} {fuel : Nat}
  {hidden : List Nat} {n : Nat}

theorem mergeLoop_recurses {h : List Cell} {k : Key} {value : Obj} {b u : Nat}
    (hvalue : dictAt h value = some u) (hold : (getAt h n k.id).bind (dictAt h) = some b)
    (rest : Entries Obj) :
    mergeLoop recurse n h ((k, value) :: rest) = (recurse h b u).bind fun merged =>
      mergeLoop recurse n (setAt merged.1 n k (.ref merged.2)) rest := by
  simp only [mergeLoop, hvalue, hold]

theorem mergeLoop_assigns {h : List Cell} {k : Key} {value : Obj}
    (hnot : dictAt h value = none ∨ (getAt h n k.id).bind (dictAt h) = none)
    (rest : Entries Obj) :
    mergeLoop recurse n h ((k, value) :: rest) = mergeLoop recurse n (setAt h n k value) rest := by
  rcases hnot with hnone | hnone
  · simp only [mergeLoop, hnone]
  · cases hvalue : dictAt h value <;> simp only [mergeLoop, hvalue, hnone]

/-- **One turn of the loop.** -/
theorem mergeLoop_step
    (hrec : ∀ upper, (Value.dict upper).depth ≤ fuel → Merges recurse upper) {h : List Cell}
    {out : Items} (hfill : Filling hidden n h out) (k : Key) {v : Value} {value : Obj}
    (hdepth : v.depth ≤ fuel) (hv : Denotes (view (n :: hidden) h) v value)
    (rest : Entries Obj) :
    ∃ h', mergeLoop recurse n h ((k, value) :: rest) = mergeLoop recurse n h' rest ∧
      Grows [n] h h' ∧ Filling hidden n h' (mergeEntry out (k, v)) := by
  have hget := hfill.get k.id
  by_cases hboth : ∃ lower higher, out.lookup k.id = some (.dict lower) ∧ v = .dict higher
  · obtain ⟨lower, higher, hlower, rfl⟩ := hboth
    rw [hlower] at hget
    generalize hobj : getAt h n k.id = obj at hget
    cases hget with
    | @some _ old hold =>
        obtain ⟨b, rfl, hb⟩ := dictAt_of_dict hold
        obtain ⟨u, rfl, hu⟩ := dictAt_of_dict hv
        obtain ⟨h₁, merged, hrun, hgrows, hmerged⟩ :=
          hrec higher hdepth (n :: hidden) h lower b u hfill.valid hold hv
        obtain ⟨hkept, hfilled⟩ := (hfill.grow hgrows).assign hmerged k
        refine ⟨setAt h₁ n k (.ref merged), ?_, ?_, ?_⟩
        · rw [mergeLoop_recurses hu (by rw [hobj]; exact hb), hrun]
          rfl
        · exact (hgrows.mono (List.nil_subset _)).trans hkept
        · rw [mergeEntry, hlower]
          exact hfilled
  · obtain ⟨hkept, hfilled⟩ := hfill.assign hv k
    have hnone := dictAt_eq_none_or hget hv hboth
    refine ⟨setAt h n k value, mergeLoop_assigns hnone rest, hkept, ?_⟩
    rw [mergeEntry, mergeValue_eq_self hboth]
    exact hfilled

/-- **The whole loop**, by induction on what is left of `over`. -/
theorem mergeLoop_fills
    (hrec : ∀ upper, (Value.dict upper).depth ≤ fuel → Merges recurse upper) {upper : Items}
    {entries : Entries Obj} {h : List Cell} {out : Items} (hfill : Filling hidden n h out)
    (hdepth : depthItems upper ≤ fuel)
    (hentries : DenotesItems (view (n :: hidden) h) upper entries) :
    ∃ h', mergeLoop recurse n h entries = some h' ∧ Grows [n] h h' ∧
      Filling hidden n h' (merge out upper) := by
  induction upper generalizing entries h out with
  | nil =>
      obtain rfl := hentries
      exact ⟨h, rfl, Heap.within_refl _, hfill⟩
  | cons p upper ih =>
      obtain ⟨k, v⟩ := p
      obtain ⟨value, rest, rfl, hv, hrest⟩ := hentries
      have hbounds : v.depth ≤ fuel ∧ depthItems upper ≤ fuel := max_le_iff.1 hdepth
      obtain ⟨h₁, hstep, hkept₁, hfill₁⟩ := mergeLoop_step hrec hfill k hbounds.1 hv rest
      have hview : Grows (n :: hidden) h h₁ :=
        hkept₁.mono (List.cons_subset.2 ⟨List.mem_cons_self, List.nil_subset _⟩)
      obtain ⟨h', hrun, hkept, hfill'⟩ :=
        ih hfill₁ hbounds.2 (DenotesItems.mono hview upper rest hrest)
      exact ⟨h', hstep.trans hrun, hkept₁.trans hkept, hfill'⟩

end Loop

/-- **`_merge` makes the overlay** as soon as the recursion may be as deep as `over` is. -/
theorem mergeRefs_merges {fuel : Nat} {upper : Items} (hdepth : (Value.dict upper).depth ≤ fuel) :
    Merges (mergeRefs fuel) upper := by
  induction fuel generalizing upper with
  | zero => exact absurd hdepth (Nat.not_succ_le_zero _)
  | succ fuel ih =>
      intro hidden h lower b u hvalid hb hu
      obtain ⟨_, entries, ⟨⟩, hcell, hlower⟩ := hb
      obtain ⟨_, items, ⟨⟩, hcell', hupper⟩ := hu
      have hfresh := Heap.within_fresh hidden h [.dict entries]
      -- `out` is a new dict with the entries of `base`
      have hfill : Filling hidden h.length (h ++ [.dict entries]) lower := by
        refine ⟨fun a ha => ?_, entries, by simp, DenotesItems.mono hfresh lower entries hlower⟩
        rw [List.length_append]
        rcases List.mem_cons.1 ha with rfl | ha
        · exact Nat.lt_succ_self _
        · exact (hvalid a ha).trans (Nat.lt_succ_self _)
      obtain ⟨h', hrun, hkept, hfill'⟩ := mergeLoop_fills (fun _ => ih) hfill
        (Nat.le_of_succ_le_succ hdepth) (DenotesItems.mono hfresh upper items hupper)
      refine ⟨h', h.length, ?_, hkept.of_append, ?_⟩
      · simp only [mergeRefs, (Heap.view_eq_some.1 hcell).2, (Heap.view_eq_some.1 hcell').2, hrun,
          Option.map_some]
      · obtain ⟨entries', hcell'', hmerged⟩ := hfill'.cell
        have hnot : h.length ∉ hidden := fun hmem => Nat.lt_irrefl _ (hvalid _ hmem)
        have hshow := Heap.within_of_subset (List.subset_cons_self h.length hidden) h'
        exact ⟨h.length, entries', rfl, Heap.view_eq_some.2 ⟨hnot, hcell''⟩,
          DenotesItems.mono hshow _ entries' hmerged⟩

/-! ## Every value has an object -/

theorem exists_denotes_scalar {v : Value} (hv : v.isScalar = true) (h : List Cell) :
    ∃ h' o, Grows [] h h' ∧ Denotes (view [] h') v o := by
  refine ⟨h, .scalar ⟨v, hv⟩, Heap.within_refl _, ?_⟩
  cases v with
  | list xs => cases hv
  | dict items => cases hv
  | _ => exact ⟨_, rfl, rfl⟩

mutual

theorem exists_denotes : ∀ (v : Value) (h : List Cell),
    ∃ h' o, Grows [] h h' ∧ Denotes (view [] h') v o
  | .dict items, h => by
      obtain ⟨h', entries, hgrows, hitems⟩ := exists_denotesItems items h
      have hmore := Heap.grows_append [] h' [.dict entries]
      exact ⟨_, .ref h'.length, hgrows.trans hmore, h'.length, entries, rfl,
        Heap.view_eq_some.2 ⟨List.not_mem_nil, by simp⟩, DenotesItems.mono hmore _ _ hitems⟩
  | .list xs, h => by
      obtain ⟨h', os, hgrows, hxs⟩ := exists_denotesList xs h
      have hmore := Heap.grows_append [] h' [.list os]
      exact ⟨_, .ref h'.length, hgrows.trans hmore, h'.length, os, rfl,
        Heap.view_eq_some.2 ⟨List.not_mem_nil, by simp⟩, DenotesList.mono hmore _ _ hxs⟩
  | .none, h | .bool _, h | .int _, h | .float _, h | .negZero, h | .str _, h | .bytes _, h
  | .pair _ _, h | .set _, h | .other _ _, h | .endless _, h => exists_denotes_scalar rfl h

theorem exists_denotesItems : ∀ (items : Items) (h : List Cell),
    ∃ h' entries, Grows [] h h' ∧ DenotesItems (view [] h') items entries
  | [], h => ⟨h, [], Heap.within_refl _, rfl⟩
  | (k, v) :: rest, h => by
      obtain ⟨h₁, o, hgrows, ho⟩ := exists_denotes v h
      obtain ⟨h', tail, hmore, hrest⟩ := exists_denotesItems rest h₁
      exact ⟨h', (k, o) :: tail, hgrows.trans hmore, o, tail, rfl, Denotes.mono hmore v o ho, hrest⟩

theorem exists_denotesList : ∀ (xs : List Value) (h : List Cell),
    ∃ h' os, Grows [] h h' ∧ DenotesList (view [] h') xs os
  | [], h => ⟨h, [], Heap.within_refl _, rfl⟩
  | v :: rest, h => by
      obtain ⟨h₁, o, hgrows, ho⟩ := exists_denotes v h
      obtain ⟨h', tail, hmore, hrest⟩ := exists_denotesList rest h₁
      exact ⟨h', o :: tail, hgrows.trans hmore, o, tail, rfl, Denotes.mono hmore v o ho, hrest⟩

end

/-! ## The law of the overlay -/

/-- The dict at this address stands for the mapping. -/
def Mapping.StoredAt (m : Mapping) (h : List Cell) (address : Nat) : Prop :=
  Denotes (view [] h) m.tree (.ref address)

/-- Two mappings can be stored at once, on top of any heap. -/
theorem exists_storedAt (base upper : Mapping) (h : List Cell) :
    ∃ h' b u, Grows [] h h' ∧ base.StoredAt h' b ∧ upper.StoredAt h' u := by
  obtain ⟨h₁, o, hgrows, hbase⟩ := exists_denotes base.tree h
  obtain ⟨h', o', hmore, hupper⟩ := exists_denotes upper.tree h₁
  have hbase' := Denotes.mono hmore _ _ hbase
  obtain ⟨b, -, rfl, -⟩ := id hbase
  obtain ⟨u, -, rfl, -⟩ := id hupper
  exact ⟨h', b, u, hgrows.trans hmore, hbase', hupper⟩

/-- What `_merge` does with two mappings. -/
structure OverlayLaw (base upper : Mapping) : Prop where
  /-- On two mappings it succeeds. -/
  computes : mergeObjects base.tree upper.tree = .ok (base.merge upper).items
  /-- A path has one longest prefix that the two share. -/
  hasPrefix : ∀ path, ∃! q, LongestShared base.tree upper.tree path q
  follows : ∀ path q, LongestShared base.tree upper.tree path q →
    FollowsPath base.tree upper.tree (base.merge upper).tree path q
  /-- The two can be stored in any heap. -/
  stored : ∀ h, ∃ h' b u, Grows [] h h' ∧ base.StoredAt h' b ∧ upper.StoredAt h' u
  /-- However they are stored, all that was there is as it was. -/
  unchanged : ∀ (h : List Cell) (b u fuel : Nat), base.StoredAt h b → upper.StoredAt h u →
    upper.tree.depth ≤ fuel → ∃ h' out, mergeRefs fuel h b u = some (h', out) ∧
      (∀ a < h.length, h'[a]? = h[a]?) ∧ base.StoredAt h' b ∧ upper.StoredAt h' u ∧
      (base.merge upper).StoredAt h' out
  empty : base.merge .empty = base
  again : (base.merge upper).merge upper = base.merge upper

theorem overlay_law (base upper : Mapping) : OverlayLaw base upper where
  computes := rfl
  hasPrefix := fun path => by
    obtain ⟨q, hq⟩ := exists_longestShared path base.items upper.items
    exact ⟨q, hq, fun r hr => LongestShared.unique hr hq⟩
  follows := fun path q hq => valueAt_merge upper.wf hq
  stored := exists_storedAt base upper
  unchanged := fun h b u fuel hb hu hdepth => by
    obtain ⟨h', out, hrun, hgrows, hmerged⟩ :=
      mergeRefs_merges hdepth [] h base.items b u (by simp) hb hu
    refine ⟨h', out, hrun, fun a ha => ?_, Denotes.mono hgrows _ _ hb, Denotes.mono hgrows _ _ hu,
      hmerged⟩
    have hget : h[a]? = some h[a] := List.getElem?_eq_getElem ha
    exact (Heap.grows_iff.1 hgrows a _ List.not_mem_nil hget).trans hget.symm
  empty := Mapping.ext rfl
  again := Mapping.ext (merge_merge_self base.items upper.wf)

end AnalyticsTesting.Config
