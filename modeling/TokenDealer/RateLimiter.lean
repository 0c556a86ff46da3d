import TokenDealer.Config
import TokenDealer.RateLimit

set_option autoImplicit true

namespace TokenDealer

/-- How fast a bucket fills and how much it holds, which is a whole number that a float keeps. -/
structure Limit where
  refillPerSec : ℚ
  burst : Nat
  refill_nonneg : 0 ≤ refillPerSec
  burst_le : burst ≤ 2 ^ 53

/-- The limit of a configured bucket. -/
def Limit.ofRpm (fl : Rounding 53) (rpm burst : UInt32) : Limit where
  refillPerSec := fl.round (rpm.toNat / 60)
  burst := burst.toNat
  refill_nonneg := Rounding.round_nonneg (by positivity)
  burst_le := burst.toNat_lt.le.trans (by decide)

theorem Limit.burst_fixed (fl : Rounding 53) (limit : Limit) : fl.Fixed limit.burst :=
  fl.natCast limit.burst limit.burst_le

namespace Bucket

section

variable (fl : Rounding 53)

/-- What time alone makes of a bucket. -/
def refilled (bucket : Bucket) (limit : Limit) (now : Instant) : Bucket :=
  ⟨level fl bucket limit.refillPerSec limit.burst now, now⟩

def spent (bucket : Bucket) : Bucket := { bucket with tokens := fl.round (bucket.tokens - 1) }

def consume (bucket : Bucket) (limit : Limit) (now : Instant) : Except Nat Unit × Bucket :=
  bucket.tryConsume fl limit.refillPerSec limit.burst now

end

section

variable {fl : Rounding 53} {bucket bucket' : Bucket} {limit : Limit} {s t : Instant}

theorem consume_of_le (h : 1 ≤ (bucket.refilled fl limit t).tokens) :
    bucket.consume fl limit t = (.ok (), (bucket.refilled fl limit t).spent fl) := if_pos h

theorem consume_of_lt (h : ¬ 1 ≤ (bucket.refilled fl limit t).tokens) :
    ∃ retryAfter, bucket.consume fl limit t = (.error retryAfter, bucket.refilled fl limit t) :=
  ⟨_, if_neg h⟩

/-- A call looks at nothing but what time has made of the bucket. -/
theorem consume_congr (h : bucket.refilled fl limit t = bucket'.refilled fl limit t) :
    bucket.consume fl limit t = bucket'.consume fl limit t :=
  tryConsume_congr (congrArg tokens h)

theorem refilled_tokens_le (fl : Rounding 53) (bucket : Bucket) (limit : Limit) (t : Instant) :
    (bucket.refilled fl limit t).tokens ≤ limit.burst := level_le fl bucket _ _ t

/-- A token that is there is missed when it has been taken. -/
theorem spent_lt (h : 1 ≤ (bucket.refilled fl limit t).tokens) :
    ((bucket.refilled fl limit t).spent fl).tokens < (bucket.refilled fl limit t).tokens := by
  apply Rounding.round_sub_one_lt h
  have hburst : (limit.burst : ℚ) ≤ 2 ^ 53 := by exact_mod_cast limit.burst_le
  exact (refilled_tokens_le fl bucket limit t).trans hburst

/-- Without rounding a bucket may be refilled on the way. -/
theorem refilled_refilled (hs : bucket.lastRefill ≤ s) (hst : s ≤ t) :
    (bucket.refilled .exact limit s).refilled .exact limit t = bucket.refilled .exact limit t := by
  have hstep : 0 ≤ elapsed .exact t s * limit.refillPerSec :=
    mul_nonneg (elapsed_nonneg .exact t s) limit.refill_nonneg
  have hsum : elapsed .exact s bucket.lastRefill + elapsed .exact t s =
      elapsed .exact t bucket.lastRefill := by
    rw [elapsed_eq_sub hs, elapsed_eq_sub hst, elapsed_eq_sub (hs.trans hst)]
    ring
  simp only [refilled, level_exact, mk.injEq, and_true]
  rw [← hsum, add_mul, ← add_assoc, min_add, min_assoc,
    min_eq_right (le_add_of_nonneg_right hstep : (limit.burst : ℚ) ≤ limit.burst + _)]

end

end Bucket

/-- What a call reads off the clock, for the global bucket, for a bucket that it makes, and for the
bucket of the key. -/
structure Readings where
  global : Instant
  created : Instant
  perKey : Instant
  deriving DecidableEq, Repr

structure RateLimiter where
  perKey : String → Option Bucket
  global : Bucket
  perKeyLimit : Limit
  globalLimit : Limit

namespace RateLimiter

section

variable (fl : Rounding 53)

def new (perKeyRpm perKeyBurst globalRpm globalBurst : UInt32) (now : Instant) : RateLimiter where
  perKey _ := none
  global := .new globalBurst.toNat now
  perKeyLimit := .ofRpm fl perKeyRpm perKeyBurst
  globalLimit := .ofRpm fl globalRpm globalBurst

/-- A limiter that is meant to refuse nothing. -/
def disabled (now : Instant) : RateLimiter := new fl 1000000 1000000 1000000 1000000 now

def bucketFor (l : RateLimiter) (key : String) (created : Instant) : Bucket :=
  (l.perKey key).getD (.new l.perKeyLimit.burst created)

def acquireGlobal (l : RateLimiter) (now : Instant) : Except Nat Unit × RateLimiter :=
  let g := l.global.consume fl l.globalLimit now
  (g.1, { l with global := g.2 })

def acquireKey (l : RateLimiter) (key : String) (readings : Readings) :
    Except Nat Unit × RateLimiter :=
  let k := (l.bucketFor key readings.created).consume fl l.perKeyLimit readings.perKey
  (k.1, { l with perKey := Function.update l.perKey key (some k.2) })

/-- The global bucket first. -/
def tryAcquire (l : RateLimiter) (key : String) (readings : Readings) :
    Except Nat Unit × RateLimiter :=
  match l.acquireGlobal fl readings.global with
  | (.error retryAfter, l) => (.error retryAfter, l)
  | (.ok (), l) => l.acquireKey fl key readings

/-- The global bucket has a token at this time. -/
def GlobalAllows (l : RateLimiter) (now : Instant) : Prop :=
  1 ≤ (l.global.refilled fl l.globalLimit now).tokens

/-- The bucket of the key has a token. -/
def KeyAllows (l : RateLimiter) (key : String) (readings : Readings) : Prop :=
  1 ≤ ((l.bucketFor key readings.created).refilled fl l.perKeyLimit readings.perKey).tokens

instance (l : RateLimiter) (now : Instant) : Decidable (l.GlobalAllows fl now) :=
  inferInstanceAs (Decidable (1 ≤ (l.global.refilled fl l.globalLimit now).tokens))

instance (l : RateLimiter) (key : String) (readings : Readings) :
    Decidable (l.KeyAllows fl key readings) :=
  inferInstanceAs (Decidable
    (1 ≤ ((l.bucketFor key readings.created).refilled fl l.perKeyLimit readings.perKey).tokens))

/-- The same limiter with its global bucket refilled. -/
def refillGlobal (l : RateLimiter) (now : Instant) : RateLimiter :=
  { l with global := l.global.refilled fl l.globalLimit now }

end

section

variable {fl : Rounding 53} {l : RateLimiter} {key : String} {readings : Readings}

theorem tryAcquire_eq (fl : Rounding 53) (l : RateLimiter) (key : String) (readings : Readings) :
    l.tryAcquire fl key readings =
      match l.acquireGlobal fl readings.global with
      | (.error retryAfter, l) => (.error retryAfter, l)
      | (.ok (), l) => l.acquireKey fl key readings := by
  delta tryAcquire
  rfl

theorem tryAcquire_of_not_global (key : String) (h : ¬ l.GlobalAllows fl readings.global) :
    ∃ retryAfter, l.tryAcquire fl key readings =
      (.error retryAfter, l.refillGlobal fl readings.global) := by
  obtain ⟨retryAfter, hglobal⟩ := Bucket.consume_of_lt h
  refine ⟨retryAfter, ?_⟩
  rw [tryAcquire_eq, acquireGlobal, hglobal]
  rfl

/-- When the global bucket has a token, it is spent before the bucket of the key is asked. -/
theorem tryAcquire_of_global (h : l.GlobalAllows fl readings.global) :
    l.tryAcquire fl key readings =
      { l.refillGlobal fl readings.global with
        global := (l.global.refilled fl l.globalLimit readings.global).spent fl }.acquireKey fl key
          readings := by
  rw [tryAcquire_eq, acquireGlobal, Bucket.consume_of_le h]
  rfl

theorem tryAcquire_of_not_key (hglobal : l.GlobalAllows fl readings.global)
    (hkey : ¬ l.KeyAllows fl key readings) :
    ∃ retryAfter, l.tryAcquire fl key readings =
      (.error retryAfter,
        { l with
          global := (l.global.refilled fl l.globalLimit readings.global).spent fl
          perKey := Function.update l.perKey key
            (some ((l.bucketFor key readings.created).refilled fl l.perKeyLimit
              readings.perKey)) }) := by
  obtain ⟨retryAfter, hconsume⟩ := Bucket.consume_of_lt hkey
  refine ⟨retryAfter, ?_⟩
  rw [tryAcquire_of_global hglobal, acquireKey]
  exact congrArg (fun k : Except Nat Unit × Bucket => (k.1, { l with
    global := (l.global.refilled fl l.globalLimit readings.global).spent fl
    perKey := Function.update l.perKey key (some k.2) })) hconsume

theorem tryAcquire_of_both (hglobal : l.GlobalAllows fl readings.global)
    (hkey : l.KeyAllows fl key readings) :
    l.tryAcquire fl key readings =
      (.ok (),
        { l with
          global := (l.global.refilled fl l.globalLimit readings.global).spent fl
          perKey := Function.update l.perKey key
            (some (((l.bucketFor key readings.created).refilled fl l.perKeyLimit
              readings.perKey).spent fl)) }) := by
  rw [tryAcquire_of_global hglobal, acquireKey]
  exact congrArg (fun k : Except Nat Unit × Bucket => (k.1, { l with
    global := (l.global.refilled fl l.globalLimit readings.global).spent fl
    perKey := Function.update l.perKey key (some k.2) })) (Bucket.consume_of_le hkey)

/-- What a limiter has been built with stays. -/
theorem limits_tryAcquire (fl : Rounding 53) (l : RateLimiter) (key : String)
    (readings : Readings) :
    (l.tryAcquire fl key readings).2.perKeyLimit = l.perKeyLimit ∧
      (l.tryAcquire fl key readings).2.globalLimit = l.globalLimit := by
  by_cases hglobal : l.GlobalAllows fl readings.global
  · rw [tryAcquire_of_global hglobal]
    exact ⟨rfl, rfl⟩
  · obtain ⟨_, hrefused⟩ := tryAcquire_of_not_global key hglobal
    rw [hrefused]
    exact ⟨rfl, rfl⟩

theorem tryAcquire_isOk :
    (l.tryAcquire fl key readings).1.isOk = true ↔
      l.GlobalAllows fl readings.global ∧ l.KeyAllows fl key readings := by
  by_cases hglobal : l.GlobalAllows fl readings.global
  · by_cases hkey : l.KeyAllows fl key readings
    · rw [tryAcquire_of_both hglobal hkey]
      exact iff_of_true rfl ⟨hglobal, hkey⟩
    · obtain ⟨_, hrefused⟩ := tryAcquire_of_not_key hglobal hkey
      rw [hrefused]
      exact iff_of_false Bool.false_ne_true fun h => hkey h.2
  · obtain ⟨_, hrefused⟩ := tryAcquire_of_not_global key hglobal
    rw [hrefused]
    exact iff_of_false Bool.false_ne_true fun h => hglobal h.1

end

end RateLimiter

end TokenDealer
