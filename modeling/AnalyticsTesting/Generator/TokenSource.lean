import AnalyticsTesting.Lib.Transition
import Mathlib.Data.Rat.Floor

set_option autoImplicit false

/-! # Bearer tokens

`TokenSource` of `generator/src/otlp_client.py`. A token is the payload that is signed; the text
PyJWT makes of it with the key is left out, and so is decoding the base64 secret. Clock values are
exact rationals.

`bearer` reads the clock before it takes the lock, so a call is two steps of its thread
(`TokenAction`): other threads may read later times and be served in between. -/

namespace AnalyticsTesting.Generator

/-- The payload of a token. -/
structure TokenPayload where
  sub : String
  iat : Int
  exp : Int
  /-- `x-dd-ingestion-queue`. -/
  ingestionQueue : String
  deriving DecidableEq

/-- What `TokenSource.__init__` sets and nothing changes afterwards. -/
structure TokenSource where
  key : List UInt8
  alg : String
  queue : String
  subject : String
  ttl : Int
  ttl_ge : 60 ≤ ttl

/-- `_token` (`none` is the empty text it starts with) and `_expires_at`. -/
structure TokenCache where
  token : Option TokenPayload := none
  expiresAt : ℚ := 0
  deriving DecidableEq

namespace TokenSource

/-- `TokenSource.__init__`. `decoded` is what `base64.b64decode` makes of the secret, `none` where
    it raises; an error is the text of the `ValueError`. -/
def init (decoded : Option (List UInt8)) (queue subject : String) (ttlSeconds : Int) :
    Except String TokenSource :=
  match decoded with
  | none => .error "generator.auth.secret_b64 is not valid base64"
  | some key =>
      if key.length < 32 then
        .error ("HMAC key is " ++ toString key.length ++
          " bytes; need at least 32. Regenerate with scripts/gen-secret.sh")
      else .ok
        { key, alg := if 64 ≤ key.length then "HS512" else "HS256", queue, subject
          ttl := max 60 ttlSeconds, ttl_ge := le_max_left _ _ }

variable (src : TokenSource)

/-- `int(now)`. -/
def issued (now : ℚ) : Int := now.num.tdiv now.den

/-- The token minted at clock value `now`. -/
def mint (now : ℚ) : TokenPayload where
  sub := src.subject
  iat := issued now
  exp := issued now + src.ttl
  ingestionQueue := src.queue

/-- What `bearer` does under the lock, with the clock value read before: the token it returns and
    the cache it leaves. -/
def bearer (now : ℚ) (cache : TokenCache) : Option TokenPayload × TokenCache :=
  if now < cache.expiresAt then (cache.token, cache)
  else (some (src.mint now), { token := some (src.mint now), expiresAt := now + src.ttl * (3 / 4) })

end TokenSource

/-! ## Calls of several threads -/

/-- A call of `bearer` that has returned. -/
structure TokenCall where
  /-- The clock value the caller read. -/
  now : ℚ
  token : Option TokenPayload
  /-- This call minted the token. -/
  minted : Bool
  /-- The wall clock when the call returned. -/
  returnedAt : ℚ
  deriving DecidableEq

/-- Threads `θ` that share a token source. -/
structure TokenState (θ : Type) where
  /-- The wall clock: the latest value any thread has read. -/
  clock : ℚ
  /-- The clock value of a thread that is about to take the lock. -/
  waiting : θ → Option ℚ := fun _ => none
  cache : TokenCache := {}
  /-- The calls that have returned, in the order of the lock. -/
  calls : List TokenCall := []

/-- The two steps of a call. -/
inductive TokenAction (θ : Type)
  /-- `now = time.time()`. -/
  | read (t : θ) (now : ℚ)
  /-- The rest of `bearer`, under the lock. -/
  | enter (t : θ)

variable {θ : Type} [DecidableEq θ]

/-- One step of a thread. -/
def tokenStep (src : TokenSource) (s : TokenState θ) : TokenAction θ → Option (TokenState θ)
  | .read t now =>
      if s.waiting t = none ∧ s.clock ≤ now then
        some { s with clock := now
                      waiting := fun u => if u = t then some now else s.waiting u }
      else none
  | .enter t =>
      (s.waiting t).map fun now =>
        let (token, cache) := src.bearer now s.cache
        { s with waiting := fun u => if u = t then none else s.waiting u
                 cache
                 calls := s.calls ++
                   [{ now, token, minted := decide (s.cache.expiresAt ≤ now)
                      returnedAt := s.clock }] }

/-- The token source from its construction on, with the wall clock at `start`. -/
def tokenSystem (θ : Type) [DecidableEq θ] (src : TokenSource) (start : ℚ) :
    Transition.System (TokenState θ) (TokenAction θ) where
  init := { clock := start }
  step := tokenStep src

end AnalyticsTesting.Generator
