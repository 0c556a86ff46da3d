import TokenDealer.AuthMiddleware
import TokenDealer.RateLimiter

set_option autoImplicit true

namespace TokenDealer

def isRateLimitedPath (path : String) : Bool :=
  path = "/v1/chat/completions" || path = "/v1/messages" || path = "/v1/responses"

/-- The prefix of the caller's key, or the id of the session. -/
def UserContext.bucketName (context : UserContext) : String :=
  context.keyPrefix.getD (context.sessionId.getD "anonymous")

/-- The bucket that a request is counted in, when it is counted. -/
def limitKey (cfg : RateLimitConfig) (path : String) (context : Option UserContext) :
    Option String :=
  if !isRateLimitedPath path then none
  else if !cfg.enabled then none
  else some ((context.map UserContext.bucketName).getD "anonymous")

/-- What becomes of a request on its way to the handlers. -/
inductive LayerReply where
  | handled (context : UserContext)
  | refused (decision : Decision)
  | tooManyRequests (message : String) (retryAfter : Nat)
  deriving DecidableEq, Repr

namespace LayerReply

def limited : LayerReply → Bool
  | tooManyRequests .. => true
  | handled _ | refused _ => false

def rateLimitExceeded (retryAfter : Nat) : LayerReply :=
  .tooManyRequests s!"rate limit exceeded; retry in {retryAfter}s" retryAfter

end LayerReply

/-- What the layers read besides the request. -/
structure Server where
  store : UserStore
  auth : AuthConfig
  ratelimit : RateLimitConfig

/-- No variable is set. -/
def noEnv : String → Option String := fun _ => none

/-- A request with the times its calls of the limiter read. -/
structure Incoming where
  server : Server
  req : AuthRequest
  readings : Readings

namespace RateLimiter

def middleware (fl : Rounding 53) (l : RateLimiter) (cfg : RateLimitConfig) (path : String)
    (context : UserContext) (readings : Readings) : LayerReply × RateLimiter :=
  match limitKey cfg path (some context) with
  | none => (.handled context, l)
  | some key =>
    match l.tryAcquire fl key readings with
    | (.error retryAfter, l) => (.rateLimitExceeded retryAfter, l)
    | (.ok (), l) => (.handled context, l)

section

variable (fl : Rounding 53) (env : String → Option String)

/-- The layer of the credentials is the outer one. -/
def answer (l : RateLimiter) (v : Incoming) : LayerReply × RateLimiter :=
  match AuthMiddleware.middleware env v.server.store v.server.auth v.req with
  | .next context => l.middleware fl v.server.ratelimit v.req.path context v.readings
  | .unauthorized message => (.refused (.unauthorized message), l)
  | .seeOther location => (.refused (.seeOther location), l)

def run : RateLimiter → List Incoming → List (Incoming × LayerReply)
  | _, [] => []
  | l, v :: rest =>
    let r := l.answer fl env v
    (v, r.1) :: run r.2 rest

end

end RateLimiter

/-- The bucket that a request is counted in, if it gets to the limiter and is counted there. -/
def Incoming.counted (env : String → Option String) (v : Incoming) : Option String :=
  match AuthMiddleware.middleware env v.server.store v.server.auth v.req with
  | .next context => limitKey v.server.ratelimit v.req.path (some context)
  | .unauthorized _ | .seeOther _ => none

namespace RateLimiter

section

variable {fl : Rounding 53} {env : String → Option String} {l : RateLimiter} {v : Incoming}
  {key : String}

theorem limited_of_counted (h : v.counted env = some key) :
    isRateLimitedPath v.req.path = true ∧ v.server.ratelimit.enabled = true := by
  rw [Incoming.counted] at h
  split at h
  · rw [limitKey] at h
    cases hpath : isRateLimitedPath v.req.path with
    | false =>
      rw [hpath] at h
      cases h
    | true =>
      cases henabled : v.server.ratelimit.enabled with
      | false =>
        rw [hpath, henabled] at h
        cases h
      | true => exact ⟨rfl, rfl⟩
  · cases h
  · cases h

theorem not_counted_of_path (h : isRateLimitedPath v.req.path = false) : v.counted env = none := by
  apply Option.eq_none_iff_forall_ne_some.mpr
  intro key hkey
  rw [(limited_of_counted hkey).1] at h
  cases h

/-- A request that is not counted meets no limit and costs nothing. -/
theorem answer_of_not_counted (l : RateLimiter) (fl : Rounding 53) (h : v.counted env = none) :
    (l.answer fl env v).1.limited = false ∧ (l.answer fl env v).2 = l := by
  rw [Incoming.counted] at h
  rw [answer]
  split at h
  · rw [middleware, h]
    exact ⟨rfl, rfl⟩
  · exact ⟨rfl, rfl⟩
  · exact ⟨rfl, rfl⟩

/-- One that is counted is let through exactly when the limiter has a token for it. -/
theorem answer_of_counted (l : RateLimiter) (fl : Rounding 53) (h : v.counted env = some key) :
    (l.answer fl env v).1.limited = !(l.tryAcquire fl key v.readings).1.isOk ∧
      (l.answer fl env v).2 = (l.tryAcquire fl key v.readings).2 := by
  rw [Incoming.counted] at h
  rw [answer]
  split at h
  · rw [middleware, h]
    dsimp only
    split
    · rename_i herror
      rw [herror]
      exact ⟨rfl, rfl⟩
    · rename_i hok
      rw [hok]
      exact ⟨rfl, rfl⟩
  · cases h
  · cases h

theorem run_fst (fl : Rounding 53) (env : String → Option String) (l : RateLimiter)
    (calls : List Incoming) : (l.run fl env calls).map Prod.fst = calls := by
  induction calls generalizing l with
  | nil => rfl
  | cons v rest ih => rw [run, List.map_cons, ih]

end

end RateLimiter

end TokenDealer
