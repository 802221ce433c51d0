import AnalyticsTesting.Generator.TokenSource
import Mathlib.Data.List.Chain
import Mathlib.Tactic.Linarith

set_option autoImplicit false

/-! # How fresh a bearer token is

The cache is either empty or holds the token of the last mint, which expires a quarter of its life
after it is due for replacement (`CacheOf`). A caller served from the cache has a clock value from
before the refresh point, and no less than that; but the token may have been minted at a later clock
value than the caller's own, by a thread that was faster to the lock. -/

namespace AnalyticsTesting.Generator

variable {θ : Type} [DecidableEq θ]

/-- What is promised of the token of a call. -/
structure FreshCall (ttl : Int) (c : TokenCall) : Prop where
  /-- Only before the epoch is there none. -/
  token_of_nonneg : 0 ≤ c.now → c.token ≠ none
  /-- Issued no later than the call returns. -/
  iat_le : ∀ p, c.token = some p → (p.iat : ℚ) ≤ c.returnedAt
  /-- Issued no later than the caller read the clock, if the caller minted it. -/
  iat_le_now : ∀ p, c.token = some p → c.minted = true → (p.iat : ℚ) ≤ c.now
  /-- A quarter of the life is left, but for the second that rounding takes. -/
  exp_gt : ∀ p, c.token = some p → (ttl : ℚ) / 4 - 1 < p.exp - c.now

/-- The clock values tokens were minted with. -/
def mintTimes (calls : List TokenCall) : List ℚ := (calls.filter (·.minted)).map (·.now)

/-- Three quarters of a life are between two mints. -/
def Spaced (ttl : Int) (m m' : ℚ) : Prop := m + 3 / 4 * ttl ≤ m'

/-- The cache holds the token of the last mint. -/
inductive CacheOf (src : TokenSource) : List ℚ → TokenCache → Prop
  | empty : CacheOf src [] {}
  | minted (before : List ℚ) (m : ℚ) (hm : 0 ≤ m) :
      CacheOf src (before ++ [m])
        { token := some (src.mint m), expiresAt := m + src.ttl * (3 / 4) }

/-- What holds after every step of a run. -/
structure TokenInv (src : TokenSource) (s : TokenState θ) : Prop where
  waiting_le : ∀ t now, s.waiting t = some now → now ≤ s.clock
  cache : CacheOf src (mintTimes s.calls) s.cache
  mints_le : ∀ m ∈ mintTimes s.calls, m ≤ s.clock
  spaced : (mintTimes s.calls).IsChain (Spaced src.ttl)
  fresh : ∀ c ∈ s.calls, FreshCall src.ttl c

theorem mintTimes_concat (calls : List TokenCall) (c : TokenCall) :
    mintTimes (calls ++ [c]) = mintTimes calls ++ if c.minted then [c.now] else [] := by
  cases h : c.minted <;> simp [mintTimes, h]

/-- From the epoch on, `int` rounds down. -/
theorem issued_eq_floor {now : ℚ} (h : 0 ≤ now) : TokenSource.issued now = ⌊now⌋ := by
  rw [TokenSource.issued, Int.tdiv_eq_ediv_of_nonneg (Rat.num_nonneg.2 h), Rat.floor_def']

theorem issued_le {now : ℚ} (h : 0 ≤ now) : (TokenSource.issued now : ℚ) ≤ now := by
  rw [issued_eq_floor h]
  exact Int.floor_le now

theorem lt_issued_add_one {now : ℚ} (h : 0 ≤ now) : now < TokenSource.issued now + 1 := by
  rw [issued_eq_floor h]
  exact Int.lt_floor_add_one now

/-- A minted token lives `ttl` seconds from the last whole second. -/
theorem freshCall_mint (src : TokenSource) {now clock : ℚ} (hnonneg : 0 ≤ now) (h : now ≤ clock) :
    FreshCall src.ttl
      { now, token := some (src.mint now), minted := true, returnedAt := clock } where
  token_of_nonneg := by simp
  iat_le := by
    intro p hp
    obtain rfl := Option.some.inj hp
    exact (issued_le hnonneg).trans h
  iat_le_now := by
    intro p hp _
    obtain rfl := Option.some.inj hp
    exact issued_le hnonneg
  exp_gt := by
    intro p hp
    obtain rfl := Option.some.inj hp
    have hsecond := lt_issued_add_one hnonneg
    have httl : (60 : ℚ) ≤ src.ttl := by exact_mod_cast src.ttl_ge
    have hexp : ((src.mint now).exp : ℚ) = TokenSource.issued now + src.ttl := by
      simp [TokenSource.mint]
    rw [hexp]
    linarith

/-- A token from the cache was minted at a value `m` the wall clock has passed, and is not due for
    replacement at the caller's. -/
theorem freshCall_cached (src : TokenSource) {m now clock : ℚ} (hnonneg : 0 ≤ m) (hm : m ≤ clock)
    (hnow : now < m + src.ttl * (3 / 4)) :
    FreshCall src.ttl
      { now, token := some (src.mint m), minted := false, returnedAt := clock } where
  token_of_nonneg := by simp
  iat_le := by
    intro p hp
    obtain rfl := Option.some.inj hp
    exact (issued_le hnonneg).trans hm
  iat_le_now := by simp
  exp_gt := by
    intro p hp
    obtain rfl := Option.some.inj hp
    have hsecond := lt_issued_add_one hnonneg
    have hexp : ((src.mint m).exp : ℚ) = TokenSource.issued m + src.ttl := by
      simp [TokenSource.mint]
    rw [hexp]
    linarith

/-- What the locked part of a call does where the cache is as it should be: it hands out the cached
    token, which is not due yet, or mints one when its clock value is past the refresh point. -/
theorem bearer_cases {src : TokenSource} {mints : List ℚ} {cache : TokenCache}
    (h : CacheOf src mints cache) (now : ℚ) :
    (now < cache.expiresAt ∧ src.bearer now cache = (cache.token, cache)) ∨
      (cache.expiresAt ≤ now ∧ src.bearer now cache = (some (src.mint now),
        { token := some (src.mint now), expiresAt := now + src.ttl * (3 / 4) }) ∧
        0 ≤ now ∧ ∀ m ∈ mints.getLast?, Spaced src.ttl m now) := by
  rcases lt_or_ge now cache.expiresAt with hlt | hge
  · exact Or.inl ⟨hlt, by rw [TokenSource.bearer, if_pos hlt]⟩
  · refine Or.inr ⟨hge, by rw [TokenSource.bearer, if_neg (not_lt.2 hge)], ?_⟩
    cases h with
    | empty => exact ⟨hge, by simp⟩
    | minted before m hm =>
        have httl : (60 : ℚ) ≤ src.ttl := by exact_mod_cast src.ttl_ge
        have hdue : m + src.ttl * (3 / 4) ≤ now := hge
        refine ⟨by linarith, ?_⟩
        simp only [List.getLast?_append, List.getLast?_singleton, Option.some_or,
          Option.mem_def, Option.some.injEq, Spaced]
        rintro _ rfl
        linarith

/-- What comes out of the cache is fresh. -/
theorem freshCall_of_cache {src : TokenSource} {mints : List ℚ} {cache : TokenCache}
    {now clock : ℚ} (h : CacheOf src mints cache) (hmints : ∀ m ∈ mints, m ≤ clock)
    (hnow : now < cache.expiresAt) :
    FreshCall src.ttl { now, token := cache.token, minted := false, returnedAt := clock } := by
  cases h with
  | empty =>
      -- nothing has been minted, so the caller reads a time before the epoch
      exact
        { token_of_nonneg := fun hnonneg => absurd hnow (not_lt.2 hnonneg)
          iat_le := by simp
          iat_le_now := by simp
          exp_gt := by simp }
  | minted before m hm => exact freshCall_cached src hm (hmints m (by simp)) hnow

/-- Reading the clock changes nothing but the clock. -/
theorem tokenInv_read {src : TokenSource} {s : TokenState θ} {t : θ} {now : ℚ}
    (hinv : TokenInv src s) (hle : s.clock ≤ now) :
    TokenInv src { s with clock := now,
                          waiting := fun u => if u = t then some now else s.waiting u } where
  waiting_le := by
    intro u n hu
    dsimp only at hu
    split at hu
    · exact (Option.some.inj hu).ge
    · exact (hinv.waiting_le u n hu).trans hle
  cache := hinv.cache
  mints_le := fun m hm => (hinv.mints_le m hm).trans hle
  spaced := hinv.spaced
  fresh := hinv.fresh

/-- The locked part of a call, for a thread that has read `now`. -/
theorem tokenInv_enter {src : TokenSource} {s : TokenState θ} {t : θ} {now : ℚ}
    (hinv : TokenInv src s) (hle : now ≤ s.clock) :
    TokenInv src
      { s with waiting := fun u => if u = t then none else s.waiting u
               cache := (src.bearer now s.cache).2
               calls := s.calls ++ [{ now, token := (src.bearer now s.cache).1,
                                      minted := decide (s.cache.expiresAt ≤ now)
                                      returnedAt := s.clock }] } := by
  have hwaiting : ∀ u n, (if u = t then none else s.waiting u) = some n → n ≤ s.clock := by
    intro u n hu
    split at hu
    · simp at hu
    · exact hinv.waiting_le u n hu
  rcases bearer_cases hinv.cache now with ⟨hlt, hbearer⟩ | ⟨hge, hbearer, hnonneg, hlast⟩
  · have hminted : decide (s.cache.expiresAt ≤ now) = false := decide_eq_false (not_le.2 hlt)
    have hmints : ∀ c : TokenCall, c.minted = false →
        mintTimes (s.calls ++ [c]) = mintTimes s.calls := by
      intro c hc
      simp [mintTimes_concat, hc]
    rw [hbearer, hminted]
    exact
      { waiting_le := hwaiting
        cache := by
          rw [hmints _ rfl]
          exact hinv.cache
        mints_le := by
          rw [hmints _ rfl]
          exact hinv.mints_le
        spaced := by
          rw [hmints _ rfl]
          exact hinv.spaced
        fresh := List.forall_mem_append.2 ⟨hinv.fresh,
          List.forall_mem_singleton.2 (freshCall_of_cache hinv.cache hinv.mints_le hlt)⟩ }
  · have hminted : decide (s.cache.expiresAt ≤ now) = true := decide_eq_true hge
    have hmints : ∀ c : TokenCall, c.minted = true → c.now = now →
        mintTimes (s.calls ++ [c]) = mintTimes s.calls ++ [now] := by
      intro c hc hnow
      simp [mintTimes_concat, hc, hnow]
    rw [hbearer, hminted]
    exact
      { waiting_le := hwaiting
        cache := by
          rw [hmints _ rfl rfl]
          exact .minted _ now hnonneg
        mints_le := by
          rw [hmints _ rfl rfl]
          exact List.forall_mem_append.2 ⟨hinv.mints_le, List.forall_mem_singleton.2 hle⟩
        spaced := by
          rw [hmints _ rfl rfl]
          refine List.isChain_append.2 ⟨hinv.spaced, .singleton now, ?_⟩
          intro m hm n hn
          obtain rfl := by simpa using hn
          exact hlast m hm
        fresh := List.forall_mem_append.2 ⟨hinv.fresh,
          List.forall_mem_singleton.2 (freshCall_mint src hnonneg hle)⟩ }

/-- Every step keeps the invariant. -/
theorem tokenInv_step {src : TokenSource} {s s' : TokenState θ} {a : TokenAction θ}
    (hinv : TokenInv src s) (h : tokenStep src s a = some s') : TokenInv src s' := by
  cases a with
  | read t now =>
      simp only [tokenStep] at h
      split at h
      case isTrue hread =>
        obtain rfl := Option.some.inj h
        exact tokenInv_read hinv hread.2
      case isFalse => simp at h
  | enter t =>
      simp only [tokenStep] at h
      obtain ⟨now, hnow, rfl⟩ := Option.map_eq_some_iff.1 h
      exact tokenInv_enter hinv (hinv.waiting_le t now hnow)

/-- What holds of the calls of a run, in the order they were served. -/
structure FreshTokens (ttl : Int) (calls : List TokenCall) : Prop where
  fresh : ∀ c ∈ calls, FreshCall ttl c
  /-- A token is only ever replaced by one minted with a later clock value. -/
  newer : (mintTimes calls).Pairwise (· < ·)
  spaced : (mintTimes calls).IsChain (Spaced ttl)

theorem init_ttl {decoded : Option (List UInt8)} {queue subject : String} {ttlSeconds : Int}
    {src : TokenSource} (h : TokenSource.init decoded queue subject ttlSeconds = .ok src) :
    src.ttl = max 60 ttlSeconds := by
  unfold TokenSource.init at h
  split at h
  · simp at h
  · split at h
    · simp at h
    · obtain rfl := Except.ok.inj h
      rfl

/-- **Tokens are fresh**, for every ttl, any threads and every order of their steps. -/
theorem freshTokens_of_reachable {decoded : Option (List UInt8)} {queue subject : String}
    {ttlSeconds : Int} {src : TokenSource}
    (hinit : TokenSource.init decoded queue subject ttlSeconds = .ok src) {start : ℚ}
    {s : TokenState θ} (h : (tokenSystem θ src start).Reachable s) :
    FreshTokens (max 60 ttlSeconds) s.calls := by
  have hinv : TokenInv src s := by
    refine Transition.System.reachable_of_preserves (I := TokenInv src) ?_ ?_ h
    · exact
        { waiting_le := by simp [tokenSystem]
          cache := .empty
          mints_le := by simp [tokenSystem, mintTimes]
          spaced := .nil
          fresh := by simp [tokenSystem] }
    · exact fun s a s' hI hstep => tokenInv_step hI hstep
  rw [← init_ttl hinit]
  have httl : (60 : ℚ) ≤ src.ttl := by exact_mod_cast src.ttl_ge
  refine ⟨hinv.fresh, ?_, hinv.spaced⟩
  have hchain : (mintTimes s.calls).IsChain (· < ·) := by
    refine hinv.spaced.imp fun m m' hm => ?_
    unfold Spaced at hm
    linarith
  exact List.isChain_iff_pairwise.1 hchain

/-! ## A reader that is late to the lock -/

/-- A source with a key of 64 bytes. -/
def lateSource : TokenSource where
  key := List.replicate 64 0
  alg := "HS512"
  queue := "logs"
  subject := "bench"
  ttl := 3600
  ttl_ge := by decide

/-- Two threads read the clock; the one with the later time takes the lock first. -/
def lateReader : List (TokenAction Nat) :=
  [.read 0 (9999 / 10), .read 1 1000, .enter 1, .enter 0]

/-- The tokens of both calls: the one the faster thread mints. -/
def lateCalls : List TokenCall :=
  [{ now := 1000, token := some ⟨"bench", 1000, 4600, "logs"⟩, minted := true, returnedAt := 1000 },
   { now := 9999 / 10, token := some ⟨"bench", 1000, 4600, "logs"⟩, minted := false
     returnedAt := 1000 }]

theorem exists_lateReader :
    ∃ s, (tokenSystem Nat lateSource 0).Reachable s ∧ s.calls = lateCalls := by
  have hrun : ((tokenSystem Nat lateSource 0).run (tokenSystem Nat lateSource 0).init
      lateReader).map (·.calls) = some lateCalls := by decide +kernel
  obtain ⟨s, hs, hcalls⟩ := Option.map_eq_some_iff.1 hrun
  exact ⟨s, ⟨lateReader, hs⟩, hcalls⟩

theorem freshTokens_lateReader :
    TokenSource.init (some (List.replicate 64 0)) "logs" "bench" 3600 = .ok lateSource ∧
      ∃ s, (tokenSystem Nat lateSource 0).Reachable s ∧ s.calls.length = 2 ∧
        FreshTokens 3600 s.calls := by
  obtain ⟨s, hreach, hcalls⟩ := exists_lateReader
  have hinit : TokenSource.init (some (List.replicate 64 0)) "logs" "bench" 3600 = .ok lateSource :=
    rfl
  exact ⟨hinit, s, hreach, by rw [hcalls]; rfl, freshTokens_of_reachable hinit hreach⟩

/-- The late reader gets a token of a second that has not begun when it reads the clock. -/
theorem not_freshTokens_atReading :
    ¬ ∀ (decoded : Option (List UInt8)) (queue subject : String) (ttlSeconds : Int)
        (src : TokenSource) (start : ℚ) (s : TokenState Nat),
      TokenSource.init decoded queue subject ttlSeconds = .ok src → 0 ≤ start →
      (tokenSystem Nat src start).Reachable s →
        ∀ c ∈ s.calls, ∀ p, c.token = some p → (p.iat : ℚ) ≤ c.now := by
  intro hall
  obtain ⟨s, hreach, hcalls⟩ := exists_lateReader
  have hiat := hall (some (List.replicate 64 0)) "logs" "bench" 3600 lateSource 0 s rfl le_rfl
    hreach { now := 9999 / 10, token := some ⟨"bench", 1000, 4600, "logs"⟩, minted := false
             returnedAt := 1000 } (by simp [hcalls, lateCalls]) _ rfl
  norm_num at hiat

end AnalyticsTesting.Generator
