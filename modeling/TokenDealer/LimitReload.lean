import TokenDealer.LimitLayer

set_option autoImplicit true

namespace TokenDealer

/-- The numbers that a limiter is built with when the server starts, for a key and for all. -/
def RateLimitConfig.built (cfg : RateLimitConfig) : RateLimitBucket × RateLimitBucket :=
  if cfg.enabled then (cfg.perKey, cfg.global) else (⟨1000000, 1000000⟩, ⟨1000000, 1000000⟩)

def RateLimitBucket.limit (fl : Rounding 53) (bucket : RateLimitBucket) : Limit :=
  .ofRpm fl bucket.refillPerMinute bucket.burst

namespace RateLimiter

/-- The limiter that the server starts with. -/
def startup (fl : Rounding 53) (cfg : RateLimitConfig) (now : Instant) : RateLimiter :=
  if cfg.enabled then
    new fl cfg.perKey.refillPerMinute cfg.perKey.burst cfg.global.refillPerMinute cfg.global.burst
      now
  else disabled fl now

end RateLimiter

/-- A reload is one that succeeds. What the users tables answer may change with it. -/
inductive LimitEvent where
  | reload (server : Server)
  | request (req : AuthRequest) (readings : Readings)

/-- The buckets that a configuration asks for, each made full when it is first used. -/
structure Buckets where
  perKey : String → Option Bucket
  global : Option Bucket

namespace Buckets

def empty : Buckets := ⟨fun _ => none, none⟩

/-- A limiter with these buckets and the numbers of a section. -/
def limiter (fl : Rounding 53) (b : Buckets) (cfg : RateLimitConfig) (now : Instant) :
    RateLimiter where
  perKey := b.perKey
  global := b.global.getD (.new (cfg.global.limit fl).burst now)
  perKeyLimit := cfg.perKey.limit fl
  globalLimit := cfg.global.limit fl

end Buckets

section

variable (fl : Rounding 53) (env : String → Option String)

/-- Which requests are turned away. Only the flag and the path are looked up in the configuration
that is loaded. -/
def RateLimiter.decisions (l : RateLimiter) (server : Server) : List LimitEvent → List Bool
  | [] => []
  | .reload loaded :: rest => decisions l loaded rest
  | .request req readings :: rest =>
    let r := l.answer fl env ⟨server, req, readings⟩
    r.1.limited :: decisions r.2 server rest

/-- Which requests the configuration that is loaded asks to turn away. -/
def Buckets.decisions (b : Buckets) (server : Server) : List LimitEvent → List Bool
  | [] => []
  | .reload loaded :: rest => decisions b loaded rest
  | .request req readings :: rest =>
    match (Incoming.mk server req readings).counted env with
    | none => false :: decisions b server rest
    | some key =>
      let r := (b.limiter fl server.ratelimit readings.global).tryAcquire fl key readings
      (!r.1.isOk) :: decisions ⟨r.2.perKey, some r.2.global⟩ server rest

end

/-- Every request that a limit is asked for meets the numbers the server was started with. -/
def KeepsNumbers (numbers : RateLimitBucket × RateLimitBucket) : Server → List LimitEvent → Prop
  | _, [] => True
  | _, .reload loaded :: rest => KeepsNumbers numbers loaded rest
  | server, .request req _ :: rest =>
    (isRateLimitedPath req.path = true → server.ratelimit.enabled = true →
      (server.ratelimit.perKey, server.ratelimit.global) = numbers) ∧
    KeepsNumbers numbers server rest

/-- The buckets of a limiter are the ones asked for. A global bucket that is not used yet is
full. -/
structure Matches (l : RateLimiter) (b : Buckets) : Prop where
  perKey : l.perKey = b.perKey
  global : b.global = some l.global ∨
    b.global = none ∧ ∃ start, l.global = .new l.globalLimit.burst start

section

variable {fl : Rounding 53} {env : String → Option String} {l : RateLimiter} {b : Buckets}
  {server : Server} {cfg : RateLimitConfig} {numbers : RateLimitBucket × RateLimitBucket}
  {events : List LimitEvent}

theorem startup_limits (fl : Rounding 53) (cfg : RateLimitConfig) (now : Instant) :
    (RateLimiter.startup fl cfg now).perKeyLimit = cfg.built.1.limit fl ∧
      (RateLimiter.startup fl cfg now).globalLimit = cfg.built.2.limit fl := by
  rw [RateLimiter.startup, RateLimitConfig.built]
  cases cfg.enabled <;> exact ⟨rfl, rfl⟩

theorem matches_startup (fl : Rounding 53) (cfg : RateLimitConfig) (now : Instant) :
    Matches (RateLimiter.startup fl cfg now) .empty := by
  rw [RateLimiter.startup]
  cases cfg.enabled <;> exact ⟨rfl, .inr ⟨rfl, now, rfl⟩⟩

/-- With the numbers asked for, a limiter answers as the buckets do. -/
theorem Matches.tryAcquire (h : Matches l b) (cfg : RateLimitConfig)
    (hperKey : l.perKeyLimit = cfg.perKey.limit fl)
    (hglobal : l.globalLimit = cfg.global.limit fl) (key : String) (readings : Readings) :
    l.tryAcquire fl key readings =
      (b.limiter fl cfg readings.global).tryAcquire fl key readings := by
  have hconsume : l.acquireGlobal fl readings.global =
      (b.limiter fl cfg readings.global).acquireGlobal fl readings.global := by
    have hbucket : l.global.consume fl l.globalLimit readings.global =
        (b.limiter fl cfg readings.global).global.consume fl (cfg.global.limit fl)
          readings.global := by
      rcases h.global with hsome | ⟨hnone, start, hfull⟩
      · rw [Buckets.limiter, hsome, hglobal]
        rfl
      · rw [Buckets.limiter, hnone, hfull, hglobal]
        exact Bucket.tryConsume_new (cfg.global.limit fl).refill_nonneg
          ((cfg.global.limit fl).burst_fixed fl) start readings.global
    have hrest : ∀ g, { l with global := g } =
        { b.limiter fl cfg readings.global with global := g } := by
      intro g
      rw [RateLimiter.mk.injEq]
      exact ⟨h.perKey, rfl, hperKey, hglobal⟩
    rw [RateLimiter.acquireGlobal, RateLimiter.acquireGlobal, hbucket, hrest]
    rfl
  rw [RateLimiter.tryAcquire_eq, hconsume, RateLimiter.tryAcquire_eq]

theorem decisions_eq (h : Matches l b) (hperKey : l.perKeyLimit = numbers.1.limit fl)
    (hglobal : l.globalLimit = numbers.2.limit fl) (hkeeps : KeepsNumbers numbers server events) :
    l.decisions fl env server events = b.decisions fl env server events := by
  induction events generalizing l b server with
  | nil => rfl
  | cons event rest ih =>
    cases event with
    | reload loaded => exact ih h hperKey hglobal hkeeps
    | request req readings =>
      obtain ⟨hnumbers, hrest⟩ := hkeeps
      rw [RateLimiter.decisions, Buckets.decisions]
      cases hkey : (Incoming.mk server req readings).counted env with
      | none =>
        obtain ⟨hlimited, hsame⟩ := l.answer_of_not_counted fl hkey
        rw [hlimited, hsame, ih h hperKey hglobal hrest]
      | some key =>
        obtain ⟨hlimited, hafter⟩ := l.answer_of_counted fl hkey
        obtain ⟨hpath, henabled⟩ := RateLimiter.limited_of_counted hkey
        obtain rfl := hnumbers hpath henabled
        have hanswer := h.tryAcquire server.ratelimit hperKey hglobal key readings
        have hlimits := RateLimiter.limits_tryAcquire fl l key readings
        rw [hlimited, hafter]
        dsimp only
        rw [← hanswer]
        exact congrArg _ (ih ⟨rfl, .inl rfl⟩ (hlimits.1.trans hperKey) (hlimits.2.trans hglobal)
          hrest)

/-- In a run in which every request that a limit is asked for meets the numbers that the server was
started with, the requests turned away are the ones that the loaded configuration asks for. -/
theorem reload_decides (fl : Rounding 53) (env : String → Option String) (server : Server)
    (start : Instant) (events : List LimitEvent)
    (hkeeps : KeepsNumbers server.ratelimit.built server events) :
    (RateLimiter.startup fl server.ratelimit start).decisions fl env server events =
      Buckets.empty.decisions fl env server events :=
  decisions_eq (matches_startup _ _ _) (startup_limits _ _ _).1 (startup_limits _ _ _).2 hkeeps

end

section Samples

/-- A server without credentials, and with limits of its own. -/
def openServer (ratelimit : RateLimitConfig) : Server where
  store := ⟨fun _ => none, fun _ => none⟩
  auth := { enabled := false }
  ratelimit := ratelimit

def oneToken : RateLimitConfig := { global := ⟨60, 1⟩, perKey := ⟨60, 1⟩ }

def noLimit : RateLimitConfig := { oneToken with enabled := false }

def completion : LimitEvent :=
  .request { method := "POST", path := "/v1/chat/completions" } ⟨0, 0, 0⟩

/-- The flag is looked up anew: with it unset, no request is turned away. -/
theorem reload_decides_sample :
    (RateLimiter.startup .binary64 oneToken 0).decisions .binary64 noEnv (openServer oneToken)
        [completion, completion, .reload (openServer noLimit), completion] =
      Buckets.empty.decisions .binary64 noEnv (openServer oneToken)
        [completion, completion, .reload (openServer noLimit), completion] ∧
    Buckets.empty.decisions .binary64 noEnv (openServer oneToken)
        [completion, completion, .reload (openServer noLimit), completion] =
      [false, true, false] := by
  refine ⟨reload_decides .binary64 noEnv (openServer oneToken) 0 _ ?_, by decide +kernel⟩
  exact ⟨fun _ _ => rfl, fun _ _ => rfl, fun _ h => Bool.noConfusion h, trivial⟩

/-- A server that is started without limits never sets any. -/
theorem reload_ignored :
    (RateLimiter.startup .binary64 noLimit 0).decisions .binary64 noEnv (openServer noLimit)
        [.reload (openServer oneToken), completion, completion] = [false, false] ∧
    Buckets.empty.decisions .binary64 noEnv (openServer noLimit)
        [.reload (openServer oneToken), completion, completion] = [false, true] := by
  decide +kernel

end Samples

end TokenDealer
