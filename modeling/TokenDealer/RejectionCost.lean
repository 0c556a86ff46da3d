import TokenDealer.RateLimiter

set_option autoImplicit true

namespace TokenDealer

/-- A request that reaches the limiter. -/
structure Arrival where
  key : String
  readings : Readings
  deriving DecidableEq, Repr

/-- A request whose readings are all the same. -/
def Arrival.now (key : String) (t : Instant) : Arrival := ⟨key, t, t, t⟩

namespace RateLimiter

/-- The global bucket is read by a clock that does not go back. -/
def Timed (start : Instant) (arrivals : List Arrival) : Prop :=
  (start :: arrivals.map fun a => a.readings.global).Pairwise (· ≤ ·)

section

variable (fl : Rounding 53)

/-- The requests of a run with their answers. -/
def serve : RateLimiter → List Arrival → List (Arrival × Except Nat Unit)
  | _, [] => []
  | l, a :: rest =>
    let r := l.tryAcquire fl a.key a.readings
    (a, r.1) :: serve r.2 rest

/-- Time alone tells two states of the limiter apart: a bucket is as it was, or refilled. -/
structure CostsNothing (l l' : RateLimiter) : Prop where
  global : ∃ now, l'.global = l.global.refilled fl l.globalLimit now
  perKey : ∀ key, l'.perKey key = l.perKey key ∨ ∃ created now,
    l'.perKey key = some ((l.bucketFor key created).refilled fl l.perKeyLimit now)

/-- If this request is rejected, no token is gone. -/
def RejectedFree (l : RateLimiter) (key : String) (readings : Readings) : Prop :=
  ∀ retryAfter, (l.tryAcquire fl key readings).1 = .error retryAfter →
    CostsNothing fl l (l.tryAcquire fl key readings).2

/-- Whenever the global bucket has a token for a request of this key, so has its own. -/
def Covers (key : String) : RateLimiter → List Arrival → Prop
  | _, [] => True
  | l, a :: rest =>
    (a.key = key → l.GlobalAllows fl a.readings.global → l.KeyAllows fl a.key a.readings) ∧
      Covers key (l.tryAcquire fl a.key a.readings).2 rest

/-- One of the two buckets has no token for this request. -/
def Refuses (l : RateLimiter) (a : Arrival) : Prop :=
  ¬ (l.GlobalAllows fl a.readings.global ∧ l.KeyAllows fl a.key a.readings)

instance (l : RateLimiter) (a : Arrival) : Decidable (Refuses fl l a) :=
  inferInstanceAs (Decidable (¬ (_ ∧ _)))

/-- The refills that the rejected requests of a key make on the way round to what a single refill
gives: every other request finds in the global bucket what is in one that they have not touched. -/
def SettlesAlike (key : String) : RateLimiter → Bucket → List Arrival → Prop
  | _, _, [] => True
  | l, untouched, a :: rest =>
    let after := (l.tryAcquire fl a.key a.readings).2
    if a.key = key ∧ Refuses fl l a then SettlesAlike key after untouched rest
    else
      l.global.refilled fl l.globalLimit a.readings.global =
          untouched.refilled fl l.globalLimit a.readings.global ∧
        SettlesAlike key after after.global rest

instance decidableCovers (key : String) :
    (l : RateLimiter) → (arrivals : List Arrival) → Decidable (Covers fl key l arrivals)
  | _, [] => isTrue trivial
  | l, a :: rest =>
    have := decidableCovers key (l.tryAcquire fl a.key a.readings).2 rest
    inferInstanceAs (Decidable (_ ∧ _))

instance decidableSettlesAlike (key : String) : (l : RateLimiter) → (untouched : Bucket) →
    (arrivals : List Arrival) → Decidable (SettlesAlike fl key l untouched arrivals)
  | _, _, [] => isTrue trivial
  | l, untouched, a :: rest =>
    have := decidableSettlesAlike key (l.tryAcquire fl a.key a.readings).2 untouched rest
    have := decidableSettlesAlike key (l.tryAcquire fl a.key a.readings).2
      (l.tryAcquire fl a.key a.readings).2.global rest
    inferInstanceAs (Decidable (ite _ _ _))

end

/-- All but the rejected requests of a key. -/
def keptFor (key : String) (served : Arrival × Except Nat Unit) : Bool :=
  served.1.key ≠ key || served.2.isOk

section

variable {fl : Rounding 53} {l : RateLimiter} {key : String} {readings : Readings}
  {start now : Instant} {arrivals : List Arrival} {untouched : Bucket}

theorem refuses_iff {a : Arrival} :
    Refuses fl l a ↔ (l.tryAcquire fl a.key a.readings).1.isOk = false := by
  rw [Refuses, ← tryAcquire_isOk, Bool.not_eq_true]

/-- A call looks at nothing but what time has made of the global bucket. -/
theorem tryAcquire_congr (h : l.global.refilled fl l.globalLimit readings.global =
    untouched.refilled fl l.globalLimit readings.global) :
    ({ l with global := untouched } : RateLimiter).tryAcquire fl key readings =
      l.tryAcquire fl key readings := by
  rw [tryAcquire_eq, tryAcquire_eq, acquireGlobal, acquireGlobal, Bucket.consume_congr h]

theorem costsNothing_refillGlobal (fl : Rounding 53) (l : RateLimiter) (now : Instant) :
    CostsNothing fl l (l.refillGlobal fl now) := ⟨⟨now, rfl⟩, fun _ => .inl rfl⟩

/-- A rejection is free exactly when it is not the key's bucket that rejects after the global
bucket has given a token. -/
theorem rejectedFree_iff :
    l.RejectedFree fl key readings ↔
      (l.GlobalAllows fl readings.global → l.KeyAllows fl key readings) := by
  constructor
  · intro hfree hglobal
    by_contra hkey
    obtain ⟨retryAfter, hrejected⟩ := tryAcquire_of_not_key hglobal hkey
    rw [RejectedFree, hrejected] at hfree
    obtain ⟨⟨now, hspent⟩, -⟩ := hfree retryAfter rfl
    have hnow : readings.global = now := congrArg Bucket.lastRefill hspent
    subst hnow
    exact (Bucket.spent_lt hglobal).ne (congrArg Bucket.tokens hspent)
  · intro hcover retryAfter hrejected
    by_cases hglobal : l.GlobalAllows fl readings.global
    · rw [tryAcquire_of_both hglobal (hcover hglobal)] at hrejected
      cases hrejected
    · obtain ⟨retryAfter', hrefused⟩ := tryAcquire_of_not_global key hglobal
      rw [hrefused]
      exact costsNothing_refillGlobal fl l _

/-- A rejection that costs nothing leaves the limiter refilled. -/
theorem rejected_of_covered {a : Arrival}
    (hcover : l.GlobalAllows fl a.readings.global → l.KeyAllows fl a.key a.readings)
    (hrefuses : Refuses fl l a) :
    (l.tryAcquire fl a.key a.readings).2 = l.refillGlobal fl a.readings.global := by
  by_cases hglobal : l.GlobalAllows fl a.readings.global
  · exact absurd ⟨hglobal, hcover hglobal⟩ hrefuses
  · obtain ⟨_, hrefused⟩ := tryAcquire_of_not_global a.key hglobal
    rw [hrefused]

/-- A key that is always covered: without its rejected requests all the others are answered as
they were, by a limiter whose global bucket these have not touched. -/
theorem serve_kept (hcovers : Covers fl key l arrivals)
    (hsettles : SettlesAlike fl key l untouched arrivals) :
    ({ l with global := untouched } : RateLimiter).serve fl
        (((l.serve fl arrivals).filter (keptFor key)).map Prod.fst) =
      (l.serve fl arrivals).filter (keptFor key) := by
  induction arrivals generalizing l untouched with
  | nil => rfl
  | cons a rest ih =>
    obtain ⟨hcover, hcovers⟩ := hcovers
    rw [SettlesAlike] at hsettles
    rw [serve]
    by_cases hdropped : a.key = key ∧ Refuses fl l a
    · rw [if_pos hdropped] at hsettles
      obtain ⟨hkey, hrefuses⟩ := hdropped
      have hnot : ¬ keptFor key (a, (l.tryAcquire fl a.key a.readings).1) = true := by
        rw [keptFor, refuses_iff.mp hrefuses, Bool.or_false, decide_eq_true_eq, not_not]
        exact hkey
      have hrest := ih hcovers hsettles
      rw [rejected_of_covered (hcover hkey) hrefuses] at hrest
      rw [List.filter_cons_of_neg hnot, rejected_of_covered (hcover hkey) hrefuses]
      exact hrest
    · rw [if_neg hdropped] at hsettles
      have hkept : keptFor key (a, (l.tryAcquire fl a.key a.readings).1) = true := by
        rw [refuses_iff, not_and, Bool.not_eq_false] at hdropped
        rw [keptFor, Bool.or_eq_true, decide_eq_true_eq]
        exact not_or_of_imp hdropped
      rw [List.filter_cons_of_pos hkept, List.map_cons, serve, tryAcquire_congr hsettles.1]
      exact congrArg _ (ih hcovers hsettles.2)

theorem Timed.le (h : Timed start (a :: rest)) : start ≤ a.readings.global :=
  List.rel_of_pairwise_cons h List.mem_cons_self

theorem Timed.tail (h : Timed start (a :: rest)) : Timed a.readings.global rest := h.of_cons

theorem global_tryAcquire_lastRefill (fl : Rounding 53) (l : RateLimiter) (a : Arrival) :
    (l.tryAcquire fl a.key a.readings).2.global.lastRefill = a.readings.global := by
  by_cases hglobal : l.GlobalAllows fl a.readings.global
  · rw [tryAcquire_of_global hglobal]
    rfl
  · obtain ⟨_, hrefused⟩ := tryAcquire_of_not_global a.key hglobal
    rw [hrefused]
    rfl

/-- Without rounding the refills on the way never tell. -/
theorem settlesAlike_exact (hcovers : Covers .exact key l arrivals)
    (htimed : Timed l.global.lastRefill arrivals)
    (huntouched : ∀ t ≥ l.global.lastRefill,
      l.global.refilled .exact l.globalLimit t = untouched.refilled .exact l.globalLimit t) :
    SettlesAlike .exact key l untouched arrivals := by
  induction arrivals generalizing l untouched with
  | nil => trivial
  | cons a rest ih =>
    obtain ⟨hcover, hcovers⟩ := hcovers
    have hlast := global_tryAcquire_lastRefill .exact l a
    have hlater : Timed (l.tryAcquire .exact a.key a.readings).2.global.lastRefill rest :=
      hlast.symm ▸ htimed.tail
    rw [SettlesAlike]
    split
    · next hdropped =>
      apply ih hcovers hlater
      intro t ht
      rw [hlast] at ht
      rw [rejected_of_covered (hcover hdropped.1) hdropped.2, refillGlobal]
      dsimp only
      rw [Bucket.refilled_refilled htimed.le ht, huntouched t (htimed.le.trans ht)]
    · exact ⟨huntouched _ htimed.le, ih hcovers hlater fun _ _ => rfl⟩

/-- A rejection costs nothing exactly when the key's bucket does not refuse what the global bucket
has let through. In a run in which it never does that to a key, the rejected requests of this key
are never missed by the others, as long as their refills are not either; and those never are when
nothing is rounded. -/
theorem rejected_free_iff (fl : Rounding 53) (l : RateLimiter) :
    (∀ key readings, l.RejectedFree fl key readings ↔
      (l.GlobalAllows fl readings.global → l.KeyAllows fl key readings)) ∧
    (∀ key arrivals, Covers fl key l arrivals → SettlesAlike fl key l l.global arrivals →
      l.serve fl (((l.serve fl arrivals).filter (keptFor key)).map Prod.fst) =
        (l.serve fl arrivals).filter (keptFor key)) ∧
    ∀ key arrivals, Timed l.global.lastRefill arrivals → Covers .exact key l arrivals →
      SettlesAlike .exact key l l.global arrivals :=
  ⟨fun _ _ => rejectedFree_iff, fun _ _ hcovers hsettles => serve_kept hcovers hsettles,
    fun _ _ htimed hcovers => settlesAlike_exact hcovers htimed fun _ _ => rfl⟩

end

/-- One token for a key and two for all. -/
def tightLimiter : RateLimiter := new .binary64 60 1 60 2 0

/-- The request of `a` comes when the others have taken all tokens, and another follows. -/
def coveredArrivals : List Arrival :=
  [.now "b" 0, .now "c" 0, .now "a" 500000000, .now "b" 1000000000]

theorem rejected_free_sample :
    tightLimiter.RejectedFree .binary64 "a" ⟨0, 0, 0⟩ ∧
    tightLimiter.serve .binary64 (((tightLimiter.serve .binary64 coveredArrivals).filter
        (keptFor "a")).map Prod.fst) =
      (tightLimiter.serve .binary64 coveredArrivals).filter (keptFor "a") ∧
    SettlesAlike .exact "a" tightLimiter tightLimiter.global coveredArrivals := by
  obtain ⟨hfree, hrun, hexact⟩ := rejected_free_iff .binary64 tightLimiter
  refine ⟨(hfree "a" ⟨0, 0, 0⟩).mpr ?_, hrun "a" coveredArrivals ?_ ?_,
    hexact "a" coveredArrivals ?_ ?_⟩
  · exact fun _ => by decide +kernel
  · decide +kernel
  · decide +kernel
  · rw [Timed]
    decide
  · decide +kernel

/-- The second request of `a` is rejected by its own bucket and takes the token of `b`. -/
theorem rejection_costs :
    (tightLimiter.serve .binary64 [.now "a" 0, .now "a" 0, .now "b" 0]).map
      (fun served => served.2.isOk) = [true, false, false] ∧
    (tightLimiter.serve .binary64 [.now "a" 0, .now "b" 0]).map (fun served => served.2.isOk) =
      [true, true] := by
  decide +kernel

/-- A token every ten seconds for all. -/
def slowLimiter : RateLimiter := new .binary64 60 10 6 1 0

/-- Ten requests of one client, a second apart. -/
def impatient : List Arrival :=
  (List.range 10).map fun n => .now "a" (n * 1000000000)

/-- Nine refills by rejected requests and one more come to less than a token. -/
example :
    Covers .binary64 "a" slowLimiter (impatient ++ [.now "b" 10000000000]) ∧
    ¬ SettlesAlike .binary64 "a" slowLimiter slowLimiter.global
      (impatient ++ [.now "b" 10000000000]) ∧
    (slowLimiter.serve .binary64 (impatient ++ [.now "b" 10000000000])).map
      (fun served => served.2.isOk) = true :: List.replicate 10 false ∧
    (slowLimiter.serve .binary64 [.now "a" 0, .now "b" 10000000000]).map
      (fun served => served.2.isOk) = [true, true] := by
  decide +kernel

end RateLimiter

end TokenDealer
