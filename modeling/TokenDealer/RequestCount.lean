import TokenDealer.LimitLayer

set_option autoImplicit true

namespace TokenDealer

/-- The layer of the credentials lets a request to a limited path through. -/
def Incoming.Passes (env : String → Option String) (v : Incoming) : Prop :=
  (AuthMiddleware.tokenContext env v.server.store v.server.auth
      (AuthMiddleware.extractToken v.req)).isSome = true ∨
    (AuthMiddleware.sessionContext v.server.store v.req).isSome = true ∨
    v.server.auth.enabled = false ∨ v.req.method = "OPTIONS"

instance (env : String → Option String) (v : Incoming) : Decidable (v.Passes env) :=
  inferInstanceAs (Decidable (_ ∨ _ ∨ _ ∨ _))

namespace RateLimiter

/-- The request costs a token of the global bucket, which has one, or it is answered 429. -/
def Counts (fl : Rounding 53) (env : String → Option String) (l : RateLimiter) (v : Incoming) :
    Prop :=
  l.GlobalAllows fl v.readings.global ∧ (l.answer fl env v).2.global =
      (l.global.refilled fl l.globalLimit v.readings.global).spent fl ∨
    (l.answer fl env v).1.limited = true

end RateLimiter

/-- A request to a limited path as a draw from the global bucket. -/
def limitedDraw (served : Incoming × LayerReply) : Option (Allowance.Draw ℚ) :=
  if isRateLimitedPath served.1.req.path then
    some ⟨Bucket.secs served.1.readings.global, !served.2.limited⟩
  else none

/-- How many requests to the limited paths are not answered 429 between two times in seconds. -/
def attemptsIn (s t : ℚ) (served : List (Incoming × LayerReply)) : Nat :=
  served.countP fun a => isRateLimitedPath a.1.req.path ∧ a.2.limited = false ∧
    s ≤ Bucket.secs a.1.readings.global ∧ Bucket.secs a.1.readings.global ≤ t

section

variable {fl : Rounding 53} {env : String → Option String} {l : RateLimiter} {v : Incoming}
  {calls : List Incoming}

theorem limited_path_guarded (h : isRateLimitedPath path = true) :
    AuthMiddleware.isPublicPath path = false ∧ Str.startsWith path "/v1/" = true ∧
      Str.startsWith path "/ui/" = false ∧ Str.startsWith path "/admin/" = false := by
  simp only [isRateLimitedPath, Bool.or_eq_true, decide_eq_true_eq] at h
  rcases h with (rfl | rfl) | rfl <;> decide

theorem counted_isSome_iff (henabled : v.server.ratelimit.enabled = true)
    (hpath : isRateLimitedPath v.req.path = true) :
    (v.counted env).isSome = true ↔ v.Passes env := by
  have hkey : ∀ context, (limitKey v.server.ratelimit v.req.path (some context)).isSome = true := by
    intro context
    rw [limitKey, hpath, henabled]
    rfl
  obtain ⟨hpublic, hv1, hui, hadmin⟩ := limited_path_guarded hpath
  rw [Incoming.counted, AuthMiddleware.middleware, Incoming.Passes]
  cases AuthMiddleware.tokenContext env v.server.store v.server.auth
    (AuthMiddleware.extractToken v.req) with
  | some context => exact iff_of_true (hkey context) (.inl rfl)
  | none =>
    cases AuthMiddleware.sessionContext v.server.store v.req with
    | some context => exact iff_of_true (hkey context) (.inr (.inl rfl))
    | none =>
      rw [Option.or_none, AuthMiddleware.anonymous, hpublic, hv1, hui, hadmin]
      cases v.server.auth.enabled with
      | false => exact iff_of_true (hkey _) (.inr (.inr (.inl rfl)))
      | true =>
        by_cases hmethod : v.req.method = "OPTIONS"
        · rw [hmethod]
          exact iff_of_true (hkey _) (.inr (.inr (.inr rfl)))
        · simp only [Bool.not_true, Bool.false_eq_true, if_false, Bool.true_and, ne_eq, hmethod,
            not_false_eq_true, decide_true, if_true, Option.isSome_none, reduceCtorEq, or_self]

/-- A limiter spends a token of the global bucket or turns the request away. -/
theorem counts_of_counted (h : v.counted env = some key) : l.Counts fl env v := by
  obtain ⟨hlimited, hafter⟩ := l.answer_of_counted fl h
  rw [RateLimiter.Counts, hlimited, hafter]
  by_cases hglobal : l.GlobalAllows fl v.readings.global
  · rw [RateLimiter.tryAcquire_of_global hglobal]
    exact .inl ⟨hglobal, rfl⟩
  · obtain ⟨_, hrefused⟩ := RateLimiter.tryAcquire_of_not_global key hglobal
    rw [hrefused]
    exact .inr rfl

/-- A bucket that is left alone is not one that a token has been taken from. -/
theorem ne_spent {bucket : Bucket} {limit : Limit} {now : Instant}
    (htoken : 1 ≤ (bucket.refilled fl limit now).tokens) :
    bucket ≠ (bucket.refilled fl limit now).spent fl := by
  intro h
  have hnow : bucket.lastRefill = now := congrArg Bucket.lastRefill h
  have hspent : bucket.tokens = fl.round ((bucket.refilled fl limit now).tokens - 1) :=
    congrArg Bucket.tokens h
  have hkept : fl.round bucket.tokens = bucket.tokens := by rw [hspent, fl.idempotent]
  have hlevel : (bucket.refilled fl limit now).tokens ≤ bucket.tokens := by
    rw [Bucket.refilled, Bucket.level, hnow, Bucket.elapsed_self, zero_mul, Rounding.round_zero,
      add_zero, hkept]
    exact min_le_left _ _
  have hlost := Bucket.spent_lt htoken
  rw [← h] at hlost
  exact absurd hlost (not_lt.mpr hlevel)

/-- Exactly the requests that pass the layer of the credentials are counted. -/
theorem counts_iff (fl : Rounding 53) (henabled : v.server.ratelimit.enabled = true)
    (hpath : isRateLimitedPath v.req.path = true) : l.Counts fl env v ↔ v.Passes env := by
  rw [← counted_isSome_iff henabled hpath]
  cases hkey : v.counted env with
  | some key => exact iff_of_true (counts_of_counted hkey) rfl
  | none =>
    obtain ⟨hlimited, hafter⟩ := l.answer_of_not_counted fl hkey
    rw [RateLimiter.Counts, hlimited, hafter]
    refine iff_of_false ?_ Bool.false_ne_true
    exact fun h => h.elim (fun ⟨htoken, hspent⟩ => ne_spent htoken hspent) Bool.false_ne_true

/-- All that a counted request does to the global bucket, when nothing is rounded. -/
theorem global_answer (h : v.counted env = some key) (htokens : 0 ≤ l.global.tokens) :
    (l.answer .exact env v).2.globalLimit = l.globalLimit ∧
      (l.answer .exact env v).2.global.lastRefill = v.readings.global ∧
      0 ≤ (l.answer .exact env v).2.global.tokens ∧
      (l.answer .exact env v).2.global.tokens +
          (Allowance.Draw.mk (Bucket.secs v.readings.global)
            (!(l.answer .exact env v).1.limited)).cost ≤
        min (l.global.tokens +
          Bucket.elapsed .exact v.readings.global l.global.lastRefill *
            l.globalLimit.refillPerSec) l.globalLimit.burst := by
  have hrefilled : 0 ≤ (l.global.refilled .exact l.globalLimit v.readings.global).tokens :=
    Bucket.level_nonneg l.globalLimit.refill_nonneg (Nat.cast_nonneg _) htokens _
  obtain ⟨hlimited, hafter⟩ := l.answer_of_counted .exact h
  rw [hlimited, hafter]
  by_cases hglobal : l.GlobalAllows .exact v.readings.global
  · have hleft : 0 ≤
        ((l.global.refilled .exact l.globalLimit v.readings.global).spent .exact).tokens :=
      sub_nonneg.mpr hglobal
    by_cases hbucket : l.KeyAllows .exact key v.readings
    · rw [RateLimiter.tryAcquire_of_both hglobal hbucket]
      exact ⟨rfl, rfl, hleft, (sub_add_cancel _ _).le⟩
    · -- the token is gone although the request is turned away
      obtain ⟨_, hrefused⟩ := RateLimiter.tryAcquire_of_not_key hglobal hbucket
      rw [hrefused]
      exact ⟨rfl, rfl, hleft, (add_zero _).le.trans (sub_le_self _ zero_le_one)⟩
  · obtain ⟨_, hrefused⟩ := RateLimiter.tryAcquire_of_not_global key hglobal
    rw [hrefused]
    exact ⟨rfl, rfl, hrefilled, (add_zero _).le⟩

/-- Requests that are all counted draw from the global bucket. -/
theorem run_draws (htokens : 0 ≤ l.global.tokens)
    (hclock : (l.global.lastRefill :: calls.map fun v => v.readings.global).Pairwise (· ≤ ·))
    (hcounted : ∀ v ∈ calls, isRateLimitedPath v.req.path = true →
      (v.counted env).isSome = true) :
    Allowance.Draws l.globalLimit.refillPerSec l.globalLimit.burst
      (Bucket.secs l.global.lastRefill) l.global.tokens
      ((l.run .exact env calls).filterMap limitedDraw) := by
  induction calls generalizing l with
  | nil => exact .nil _ _
  | cons v rest ih =>
    have hnow : l.global.lastRefill ≤ v.readings.global :=
      List.rel_of_pairwise_cons hclock List.mem_cons_self
    have hlater := fun w hw => hcounted w (List.mem_cons_of_mem v hw)
    rw [RateLimiter.run, List.filterMap_cons]
    cases hpath : isRateLimitedPath v.req.path with
    | false =>
      have hkey : v.counted env = none := RateLimiter.not_counted_of_path hpath
      obtain ⟨-, hsame⟩ := l.answer_of_not_counted .exact hkey
      simp only [limitedDraw, hpath, Bool.false_eq_true, if_false, hsame]
      refine ih htokens (List.Pairwise.sublist ?_ hclock) hlater
      exact (List.sublist_cons_self _ _).cons_cons _
    | true =>
      obtain ⟨key, hkey⟩ := Option.isSome_iff_exists.mp (hcounted v List.mem_cons_self hpath)
      obtain ⟨hlimit, hlast, hleft, hpaid⟩ := global_answer hkey htokens
      have hrest := ih hleft (hlast.symm ▸ hclock.of_cons) hlater
      rw [Bucket.elapsed_eq_sub hnow] at hpaid
      rw [hlimit, hlast] at hrest
      simp only [limitedDraw, hpath, if_true]
      exact .cons (Bucket.secs_le_secs hnow) hleft hpaid hrest

theorem attemptsIn_eq (s t : ℚ) (served : List (Incoming × LayerReply)) :
    attemptsIn s t served = Allowance.grantedIn s t (served.filterMap limitedDraw) := by
  rw [attemptsIn, Allowance.grantedIn, List.countP_filterMap]
  apply List.countP_congr
  intro a _
  cases hpath : isRateLimitedPath a.1.req.path with
  | false => simp only [limitedDraw, hpath, Bool.false_eq_true, false_and, decide_false, if_false,
      Option.map_none, Option.getD_none]
  | true =>
    cases hlimited : a.2.limited <;>
      simp only [limitedDraw, hpath, hlimited, true_and, if_true, Option.map_some, Option.getD_some,
        Bool.not_false, Bool.not_true, Bool.true_eq_false, Bool.false_eq_true, false_and]

/-- A request to a limited path is counted exactly when it passes the layer of the credentials,
however the limiter rounds. In a run in which all do, no window sees more attempts than the burst
and what is refilled in it when nothing is rounded. -/
theorem attempts_counted_iff (env : String → Option String) :
    (∀ (fl : Rounding 53) (l : RateLimiter) (v : Incoming), v.server.ratelimit.enabled = true →
      isRateLimitedPath v.req.path = true → (l.Counts fl env v ↔ v.Passes env)) ∧
    ∀ (perKeyRpm perKeyBurst globalRpm globalBurst : UInt32) (start : Instant)
      (calls : List Incoming),
      (start :: calls.map fun v => v.readings.global).Pairwise (· ≤ ·) →
      (∀ v ∈ calls, v.server.ratelimit.enabled = true) →
      (∀ v ∈ calls, isRateLimitedPath v.req.path = true → v.Passes env) →
      ∀ s t : ℚ, s ≤ t →
        (attemptsIn s t ((RateLimiter.new .exact perKeyRpm perKeyBurst globalRpm globalBurst
          start).run .exact env calls) : ℚ) ≤
            globalBurst.toNat + globalRpm.toNat / 60 * (t - s) := by
  refine ⟨fun fl l v henabled hpath => counts_iff fl henabled hpath, ?_⟩
  intro perKeyRpm perKeyBurst globalRpm globalBurst start calls hclock henabled hpasses s t hst
  have hcounted : ∀ v ∈ calls, isRateLimitedPath v.req.path = true →
      (v.counted env).isSome = true := fun v hv hpath =>
    (counted_isSome_iff (henabled v hv) hpath).mpr (hpasses v hv hpath)
  let l := RateLimiter.new .exact perKeyRpm perKeyBurst globalRpm globalBurst start
  have hfull : (0 : ℚ) ≤ l.globalLimit.burst := Nat.cast_nonneg _
  have hdraws := run_draws (l := l) hfull hclock hcounted
  rw [attemptsIn_eq]
  exact hdraws.grantedIn_le l.globalLimit.refill_nonneg hfull hst

end

section Samples

/-- A server that knows one key and answers for no user. -/
def oneKeyServer : Server where
  store := ⟨fun _ => none, fun _ => none⟩
  auth := { keys := [⟨"alpha", "first"⟩] }
  ratelimit := {}

/-- A request for a completion when the clock starts. -/
def completionCall (token : String) : Incoming where
  server := oneKeyServer
  req := { authorization := some ("Bearer " ++ token), method := "POST",
           path := "/v1/chat/completions" }
  readings := ⟨0, 0, 0⟩

/-- With the right key the second request is turned away. -/
theorem attempts_counted_sample :
    (RateLimiter.new .binary64 60 2 60 1 0).Counts .binary64 noEnv (completionCall "alpha") ∧
    (attemptsIn 0 0 ((RateLimiter.new .exact 60 2 60 1 0).run .exact noEnv
      [completionCall "alpha", completionCall "alpha"]) : ℚ) ≤
        (1 : UInt32).toNat + (60 : UInt32).toNat / 60 * (0 - 0) := by
  have hpasses : (completionCall "alpha").Passes noEnv := by decide +kernel
  refine ⟨((attempts_counted_iff noEnv).1 .binary64 _ _ rfl (by decide)).mpr hpasses,
    (attempts_counted_iff noEnv).2 60 2 60 1 0 _ (by decide) ?_ ?_ 0 0 (le_refl 0)⟩
  · exact List.forall_mem_cons.mpr ⟨rfl, List.forall_mem_singleton.mpr rfl⟩
  · exact List.forall_mem_cons.mpr
      ⟨fun _ => hpasses, List.forall_mem_singleton.mpr fun _ => hpasses⟩

/-- With a wrong key no request is counted. -/
theorem wrong_key_not_counted :
    ¬ (RateLimiter.new .binary64 60 2 60 1 0).Counts .binary64 noEnv (completionCall "wrong") ∧
    ((RateLimiter.new .binary64 60 2 60 1 0).run .binary64 noEnv
      [completionCall "wrong", completionCall "wrong"]).map Prod.snd =
        [.refused (.unauthorized "invalid or missing API key"),
          .refused (.unauthorized "invalid or missing API key")] ∧
    attemptsIn 0 0 ((RateLimiter.new .binary64 60 2 60 1 0).run .binary64 noEnv
      [completionCall "wrong", completionCall "wrong"]) = 2 := by
  refine ⟨?_, by decide +kernel, by decide +kernel⟩
  rw [RateLimiter.Counts]
  decide +kernel

end Samples

end TokenDealer
