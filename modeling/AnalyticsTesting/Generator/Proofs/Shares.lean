import AnalyticsTesting.Generator.TxnDraws

set_option autoImplicit false

/-! # How often a value is drawn

`random()` returns one of `2 ** 53` numbers. `weighted_share` says for how many of them `_weighted`
draws a key when `choices` adds the weights up as doubles, `latency_anchors` for how many a drawn
latency is on either side of a configured percentile. -/

namespace AnalyticsTesting.Generator

variable {ρ α : Type}

theorem unit_nonneg (k : Nat) : 0 ≤ Rng.unit k := by
  unfold Rng.unit
  positivity

theorem unit_lt_one {k : Nat} (h : k < 2 ^ 53) : Rng.unit k < 1 := by
  unfold Rng.unit
  rw [div_lt_one (by positivity)]
  exact_mod_cast h

/-! ## Keys of a mapping -/

section Keys

variable {fl : FloatFormat} {mapping : List (α × ℚ)} {u : ℚ} {key : α}

theorem weightedIn_apply (rng : Rng ρ) (mapping : List (α × ℚ)) (s : ρ) :
    weightedIn fl rng mapping s = (keyAt fl mapping (Rng.unit (rng.random s).1)).map
      fun key => (key, (rng.random s).2) := by
  unfold weightedIn Rng.rand
  rw [Sampler.bind_apply, Sampler.bind_apply]
  dsimp only [Sampler.ofDraw, Option.bind_some, pure, StateT.pure]
  cases keyAt fl mapping (Rng.unit (rng.random s).1) <;> rfl

theorem keyAt_eq_some_iff : keyAt fl mapping u = some key ↔ ∃ i w, mapping[i]? = some (key, w) ∧
    Choices.chooseIn fl (mapping.map Prod.snd) u = some i := by
  unfold keyAt
  rw [Option.bind_eq_some_iff]
  constructor
  · rintro ⟨i, hchoose, hkey⟩
    rw [List.getElem?_map] at hkey
    obtain ⟨⟨key', w⟩, hget, rfl⟩ := Option.map_eq_some_iff.1 hkey
    exact ⟨i, w, hget, hchoose⟩
  · rintro ⟨i, w, hget, hchoose⟩
    exact ⟨i, hchoose, by simp [hget]⟩

/-- `_weighted` raises exactly where `choices` does. -/
theorem keyAt_isSome_iff (mapping : List (α × ℚ)) (u : ℚ) :
    (keyAt fl mapping u).isSome ↔ (Choices.chooseIn fl (mapping.map Prod.snd) u).isSome := by
  unfold keyAt
  cases hchoose : Choices.chooseIn fl (mapping.map Prod.snd) u with
  | none => simp
  | some i =>
      have hi := Choices.lt_length_of_chooseIn hchoose
      rw [List.length_map] at hi
      simp [hi]

end Keys

/-! ## In exact arithmetic -/

/-- `_weighted` raises exactly where the weights do not sum to more than zero. -/
theorem keyAt_exact_isSome_iff (mapping : List (α × ℚ)) (u : ℚ) :
    (keyAt .exact mapping u).isSome ↔ 0 < totalWeight mapping := by
  rw [keyAt_isSome_iff, Choices.chooseIn_exact, Choices.choose_isSome_iff, totalWeight]

/-- What is drawn has a weight. -/
theorem keyAt_exact_pos {mapping : List (α × ℚ)} (hw : ∀ e ∈ mapping, 0 ≤ e.2) {k : Nat}
    (hk : k < 2 ^ 53) {key : α} (h : keyAt .exact mapping (Rng.unit k) = some key) :
    ∃ w, (key, w) ∈ mapping ∧ 0 < w := by
  obtain ⟨i, w, hget, hchoose⟩ := keyAt_eq_some_iff.1 h
  have hnonneg : ∀ w ∈ mapping.map Prod.snd, 0 ≤ w := by
    intro w hmem
    obtain ⟨e, he, rfl⟩ := List.mem_map.1 hmem
    exact hw e he
  rw [Choices.chooseIn_exact] at hchoose
  obtain ⟨w', hget', hpos⟩ := Choices.choose_pos hnonneg (unit_nonneg k) (unit_lt_one hk) hchoose
  rw [List.getElem?_map, hget, Option.map_some, Option.some.injEq] at hget'
  obtain rfl : w = w' := hget'
  exact ⟨w, List.mem_of_getElem? hget, hpos⟩

/-! ## In doubles -/

/-- Weights that `float()` may return, none of them negative. -/
def NonnegDoubles (mapping : List (α × ℚ)) : Prop :=
  ∀ e ∈ mapping, 0 ≤ e.2 ∧ Binary64.IsDouble e.2

theorem exists_weight {mapping : List (α × ℚ)} {P : ℚ → Prop} :
    (∃ w ∈ mapping.map Prod.snd, P w) ↔ ∃ e ∈ mapping, P e.2 := by
  constructor
  · rintro ⟨w, hmem, hw⟩
    obtain ⟨e, he, rfl⟩ := List.mem_map.1 hmem
    exact ⟨e, he, hw⟩
  · rintro ⟨e, he, hw⟩
    exact ⟨e.2, List.mem_map_of_mem he, hw⟩

/-- For how many of the numbers that `random()` returns a key is drawn. -/
def keyHits [DecidableEq α] (mapping : List (α × ℚ)) (key : α) : Nat :=
  ((Finset.range (2 ^ 53)).filter fun k => keyAt .binary64 mapping (Rng.unit k) = some key).card

section Doubles

variable {mapping : List (α × ℚ)} (hw : NonnegDoubles mapping)
include hw

theorem NonnegDoubles.weights : ∀ w ∈ mapping.map Prod.snd, 0 ≤ w ∧ Binary64.IsDouble w := by
  intro w hmem
  obtain ⟨e, he, rfl⟩ := List.mem_map.1 hmem
  exact hw e he

/-- **`_weighted` raises exactly where no weight is positive, or their sum overflows.** -/
theorem NonnegDoubles.isSome_iff (u : ℚ) : (keyAt .binary64 mapping u).isSome ↔
    (∃ e ∈ mapping, 0 < e.2) ∧
      ∃ total, Choices.weightSum .binary64 (mapping.map Prod.snd) = .fin total := by
  rw [keyAt_isSome_iff, Choices.chooseIn_isSome_iff, ← exists_weight]
  constructor
  · rintro ⟨total, hsum, htotal⟩
    exact ⟨(Choices.weightSum_pos_iff hw.weights hsum).1 htotal, total, hsum⟩
  · rintro ⟨hsome, total, hsum⟩
    exact ⟨total, hsum, (Choices.weightSum_pos_iff hw.weights hsum).2 hsome⟩

/-- What is drawn has a weight. -/
theorem NonnegDoubles.pos (hbig : ∃ e ∈ mapping, Binary64.minNormal < e.2) {k : Nat}
    (hk : k < 2 ^ 53) {key : α} (h : keyAt .binary64 mapping (Rng.unit k) = some key) :
    ∃ w, (key, w) ∈ mapping ∧ 0 < w := by
  obtain ⟨i, w, hget, hchoose⟩ := keyAt_eq_some_iff.1 h
  obtain ⟨w', hget', hpos⟩ := Choices.chooseIn_pos hw.weights (exists_weight.2 hbig) hk hchoose
  rw [List.getElem?_map, hget, Option.map_some, Option.some.injEq] at hget'
  obtain rfl : w = w' := hget'
  exact ⟨w, List.mem_of_getElem? hget, hpos⟩

end Doubles

/-- In a mapping whose keys differ, a key is drawn where its position is. -/
theorem keyHits_eq [DecidableEq α] {mapping : List (α × ℚ)}
    (hkeys : (mapping.map Prod.fst).Nodup) {i : Nat} {key : α} {w : ℚ}
    (hget : mapping[i]? = some (key, w)) :
    keyHits mapping key = Choices.hitsIn (mapping.map Prod.snd) i := by
  unfold keyHits Choices.hitsIn
  refine congrArg Finset.card (Finset.filter_congr fun k _ => ?_)
  rw [keyAt_eq_some_iff, Rng.unit]
  constructor
  · rintro ⟨j, w', hget', hchoose⟩
    have hlt : j < (mapping.map Prod.fst).length := by
      simpa using (List.getElem?_eq_some_iff.1 hget').1
    have hij : j = i := (List.getElem?_inj hlt hkeys).1 (by simp [hget, hget'])
    rwa [← hij]
  · exact fun hchoose => ⟨i, w, hget, hchoose⟩

/-- **Keys are drawn as often as their weights say.** `_weighted` raises exactly where no weight is
positive or their sum overflows. Unless all weights are subnormal, what it draws has a weight, and
of the numbers `random()` returns each key has its share, up to less than two more than there are
keys. -/
theorem weighted_share [DecidableEq α] {mapping : List (α × ℚ)}
    (hkeys : (mapping.map Prod.fst).Nodup) (hw : NonnegDoubles mapping) :
    (∀ (ρ : Type) (rng : Rng ρ) s, (weightedIn .binary64 rng mapping s).isSome ↔
      (∃ e ∈ mapping, 0 < e.2) ∧
        ∃ total, Choices.weightSum .binary64 (mapping.map Prod.snd) = .fin total) ∧
    ((∃ e ∈ mapping, Binary64.minNormal < e.2) →
      (∀ (ρ : Type) (rng : Rng ρ) s key s', weightedIn .binary64 rng mapping s = some (key, s') →
        keyAt .binary64 mapping (Rng.unit (rng.random s).1) = some key ∧
          ∃ w, (key, w) ∈ mapping ∧ 0 < w) ∧
      ∀ total, Choices.weightSum .binary64 (mapping.map Prod.snd) = .fin total →
        ∀ key w, (key, w) ∈ mapping →
          |(keyHits mapping key : ℚ) - 2 ^ 53 * w / totalWeight mapping|
            < (mapping.length : ℚ) + 2) := by
  refine ⟨?_, fun hbig => ⟨?_, ?_⟩⟩
  · intro ρ rng s
    rw [weightedIn_apply, Option.isSome_map, hw.isSome_iff]
  · intro ρ rng s key s' h
    rw [weightedIn_apply] at h
    obtain ⟨key', hkey, heq⟩ := Option.map_eq_some_iff.1 h
    obtain ⟨rfl, -⟩ := Prod.mk.inj heq
    exact ⟨hkey, hw.pos hbig (rng.random s).1.isLt hkey⟩
  · intro total hsum key w hmem
    obtain ⟨i, hi, hget⟩ := List.getElem_of_mem hmem
    have hget? : mapping[i]? = some (key, w) := by rw [List.getElem?_eq_getElem hi, hget]
    have hi' : i < (mapping.map Prod.snd).length := by simpa using hi
    have hshare := Choices.abs_hitsIn_sub_lt hw.weights (exists_weight.2 hbig) hsum hi'
    rw [List.getElem_map, hget, List.length_map] at hshare
    rw [keyHits_eq hkeys hget?]
    exact hshare

/-- Of three severities the middle one has no weight. -/
def someSeverities : List (String × ℚ) := [("INFO", 3), ("DEBUG", 0), ("ERROR", 1)]

theorem weighted_share_someSeverities :
    |(keyHits someSeverities "ERROR" : ℚ) - 2 ^ 53 * 1 / totalWeight someSeverities| < 3 + 2 := by
  have hkeys : (someSeverities.map Prod.fst).Nodup := by decide
  have hw : NonnegDoubles someSeverities := by
    unfold NonnegDoubles
    decide +kernel
  exact ((weighted_share hkeys hw).2 ⟨_, List.mem_cons_self, by decide +kernel⟩).2 4
    (by decide +kernel) "ERROR" 1 (by decide +kernel)

/-! ## Latencies -/

/-- `uniform(a, b)` stays between its ends. -/
theorem uniform_between {a b u : ℚ} (h : a ≤ b) (hu : 0 ≤ u) (hlt : u < 1) :
    a ≤ a + (b - a) * u ∧ a + (b - a) * u ≤ b := by
  have hwidth : 0 ≤ (b - a) * u := mul_nonneg (by linarith) hu
  have hle : (b - a) * u ≤ b - a := mul_le_of_le_one_right (by linarith) hlt.le
  exact ⟨by linarith, by linarith⟩

/-- The milliseconds drawn where `random()` returns `k` and then `j`. -/
def LatencySpec.msAt (spec : LatencySpec) (k j : Nat) : ℚ :=
  (spec.tier (Rng.unit k)).1 + ((spec.tier (Rng.unit k)).2 - (spec.tier (Rng.unit k)).1) *
    Rng.unit j

/-- Percentiles in order, none below the millisecond `uniform` starts at. -/
structure LatencySpec.Ordered (spec : LatencySpec) : Prop where
  one_le : 1 ≤ spec.p50
  p50_le : spec.p50 ≤ spec.p95
  p95_le : spec.p95 ≤ spec.p99
  p99_le : spec.p99 ≤ spec.max

namespace LatencySpec

variable {spec : LatencySpec} {k j : Nat}

theorem uniform_between_unit {a b : ℚ} (h : a ≤ b) (hj : j < 2 ^ 53) :
    a ≤ a + (b - a) * Rng.unit j ∧ a + (b - a) * Rng.unit j ≤ b :=
  uniform_between h (unit_nonneg j) (unit_lt_one hj)

theorem unit_lt_iff {m : Nat} (k : Nat) : Rng.unit k < m / 2 ^ 53 ↔ k < m := by
  unfold Rng.unit
  rw [div_lt_div_iff_of_pos_right (by positivity), Nat.cast_lt]

/-- The tier by the number that was returned. -/
theorem tier_unit (spec : LatencySpec) (k : Nat) : spec.tier (Rng.unit k) =
    if k < 4503599627370496 then (1, spec.p50)
    else if k < 8556839292003942 then (spec.p50, spec.p95)
    else if k < 8917127262193582 then (spec.p95, spec.p99)
    else (spec.p99, spec.max) := by
  have hhalf : (1 : ℚ) / 2 = (4503599627370496 : ℕ) / 2 ^ 53 := by norm_num
  have h095 : double095 = (8556839292003942 : ℕ) / 2 ^ 53 := by norm_num [double095]
  have h099 : double099 = (8917127262193582 : ℕ) / 2 ^ 53 := by norm_num [double099]
  simp only [tier, hhalf, h095, h099, unit_lt_iff]

/-- Every latency is between a millisecond and the configured maximum. -/
theorem msAt_between (h : spec.Ordered) (hj : j < 2 ^ 53) (k : Nat) :
    1 ≤ spec.msAt k j ∧ spec.msAt k j ≤ spec.max := by
  obtain ⟨h1, h50, h95, h99⟩ := h
  unfold msAt
  rw [tier_unit]
  split_ifs
  · obtain ⟨hlo, hhi⟩ := uniform_between_unit h1 hj
    exact ⟨hlo, by linarith⟩
  · obtain ⟨hlo, hhi⟩ := uniform_between_unit h50 hj
    exact ⟨by linarith, by linarith⟩
  · obtain ⟨hlo, hhi⟩ := uniform_between_unit h95 hj
    exact ⟨by linarith, by linarith⟩
  · obtain ⟨hlo, hhi⟩ := uniform_between_unit h99 hj
    exact ⟨by linarith, hhi⟩

/-- The configured percentiles, with the number of values that `random()` returns below each. -/
def anchors (spec : LatencySpec) : List (ℚ × Nat) :=
  [(spec.p50, 4503599627370496), (spec.p95, 8556839292003942), (spec.p99, 8917127262193582)]

/-- Below its number of values a percentile is not exceeded, from there on it is reached. -/
theorem msAt_anchor (h : spec.Ordered) (hj : j < 2 ^ 53) {p : ℚ} {m : Nat}
    (hmem : (p, m) ∈ spec.anchors) :
    (∀ k < m, spec.msAt k j ≤ p) ∧ ∀ k, m ≤ k → p ≤ spec.msAt k j := by
  obtain ⟨h1, h50, h95, h99⟩ := h
  simp only [anchors, List.mem_cons, List.not_mem_nil, or_false, Prod.mk.injEq] at hmem
  have hlow := uniform_between_unit h1 hj
  have hmid := uniform_between_unit h50 hj
  have hhigh := uniform_between_unit h95 hj
  have htop := uniform_between_unit h99 hj
  refine ⟨fun k hk => ?_, fun k hk => ?_⟩
  all_goals
    unfold msAt
    rw [tier_unit]
    rcases hmem with ⟨rfl, rfl⟩ | ⟨rfl, rfl⟩ | ⟨rfl, rfl⟩
    all_goals
      split_ifs
      all_goals first
        | omega
        | (dsimp only; linarith)

end LatencySpec

/-- `f` is a percentile of the drawn latencies: of the first numbers that `random()` returns, `m`
or more give at most `p`, and all but `m` or more give at least `p`. -/
structure IsAnchor (f : Nat → Int) (p : Int) (m : Nat) : Prop where
  le : m ≤ ((Finset.range (2 ^ 53)).filter fun k => f k ≤ p).card
  ge : 2 ^ 53 - m ≤ ((Finset.range (2 ^ 53)).filter fun k => p ≤ f k).card

theorem isAnchor_of_split {f : Nat → Int} {p : Int} {m : Nat} (hm : m ≤ 2 ^ 53)
    (hle : ∀ k < m, f k ≤ p) (hge : ∀ k, m ≤ k → k < 2 ^ 53 → p ≤ f k) : IsAnchor f p m := by
  constructor
  · calc m = (Finset.range m).card := (Finset.card_range m).symm
      _ ≤ _ := Finset.card_le_card fun k hk => by
        rw [Finset.mem_range] at hk
        exact Finset.mem_filter.2 ⟨Finset.mem_range.2 (by omega), hle k hk⟩
  · calc 2 ^ 53 - m = (Finset.Ico m (2 ^ 53)).card := (Nat.card_Ico m (2 ^ 53)).symm
      _ ≤ _ := Finset.card_le_card fun k hk => by
        rw [Finset.mem_Ico] at hk
        exact Finset.mem_filter.2 ⟨Finset.mem_range.2 hk.2, hge k hk.1 hk.2⟩

theorem truncate_eq_floor {x : ℚ} (h : 0 ≤ x) : truncate x = ⌊x⌋ := by
  have hfloor : x.floor = ⌊x⌋ := rfl
  rw [truncate, Int.tdiv_eq_ediv_of_nonneg (Rat.num_nonneg.2 h), ← hfloor, Rat.floor_def]

theorem truncate_mono {x y : ℚ} (hx : 1 ≤ x) (hxy : x ≤ y) : truncate x ≤ truncate y := by
  have hx0 : (0 : ℚ) ≤ x := zero_le_one.trans hx
  rw [truncate_eq_floor hx0, truncate_eq_floor (hx0.trans hxy)]
  exact Int.floor_mono hxy

/-- What `read` makes of the latencies drawn: they stay between a millisecond and the maximum, and
the configured percentiles are theirs. -/
structure LatencyAnchors (spec : LatencySpec) (read : ℚ → Int) : Prop where
  between : ∀ k j, j < 2 ^ 53 →
    1 ≤ read (spec.msAt k j) ∧ read (spec.msAt k j) ≤ read spec.max
  anchor : ∀ j < 2 ^ 53, ∀ p m, (p, m) ∈ spec.anchors →
    IsAnchor (fun k => read (spec.msAt k j)) (read p) m

theorem latencyAnchors_of_monotone {spec : LatencySpec} (h : spec.Ordered) {read : ℚ → Int}
    (hread : ∀ {x y : ℚ}, 1 ≤ x → x ≤ y → read x ≤ read y) (hone : read 1 = 1) :
    LatencyAnchors spec read := by
  have hbetween : ∀ k j, j < 2 ^ 53 → 1 ≤ spec.msAt k j ∧ spec.msAt k j ≤ spec.max :=
    fun k j hj => LatencySpec.msAt_between h hj k
  constructor
  · intro k j hj
    obtain ⟨hlo, hhi⟩ := hbetween k j hj
    exact ⟨hone ▸ hread le_rfl hlo, hread hlo hhi⟩
  · intro j hj p m hmem
    obtain ⟨hbelow, habove⟩ := LatencySpec.msAt_anchor h hj hmem
    have hp : 1 ≤ p ∧ m ≤ 2 ^ 53 := by
      obtain ⟨h1, h50, h95, -⟩ := h
      simp only [LatencySpec.anchors, List.mem_cons, List.not_mem_nil, or_false,
        Prod.mk.injEq] at hmem
      rcases hmem with ⟨rfl, rfl⟩ | ⟨rfl, rfl⟩ | ⟨rfl, rfl⟩
      · exact ⟨h1, by norm_num⟩
      · exact ⟨by linarith, by norm_num⟩
      · exact ⟨by linarith, by norm_num⟩
    exact isAnchor_of_split hp.2 (fun k hk => hread (hbetween k j hj).1 (hbelow k hk))
      (fun k hk _ => hread hp.1 (habove k hk))

/-- A number is printed as its thousandths, rounded. -/
theorem fixed3_eq {x : ℚ} (h : 0 ≤ x) :
    fixed3 x = fixed3 ((roundHalfEven (x * 1000) : ℚ) / 1000) := by
  have hround : 0 ≤ roundHalfEven (x * 1000) := roundHalfEven_nonneg (by positivity)
  have hcast : (0 : ℚ) ≤ (roundHalfEven (x * 1000) : ℚ) / 1000 := by
    have : (0 : ℚ) ≤ roundHalfEven (x * 1000) := by exact_mod_cast hround
    positivity
  have hsame : roundHalfEven (|(roundHalfEven (x * 1000) : ℚ) / 1000| * 10 ^ 3)
      = roundHalfEven (|x| * 10 ^ 3) := by
    rw [abs_of_nonneg hcast, abs_of_nonneg h]
    norm_num
    exact roundHalfEven_eq (by linarith) (by linarith)
  unfold fixed3 PyNumber.formatPlain PyNumber.formatFloat formatFixed
  simp only [hsame, not_lt.2 h, not_lt.2 hcast]

end AnalyticsTesting.Generator
