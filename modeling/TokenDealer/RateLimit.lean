import TokenDealer.Allowance
import TokenDealer.Health
import TokenDealer.Rounding

set_option autoImplicit true

namespace TokenDealer

structure Bucket where
  tokens : ℚ
  lastRefill : Instant
  deriving DecidableEq

namespace Bucket

def new (burst : ℚ) (now : Instant) : Bucket := ⟨burst, now⟩

def secs (t : Instant) : ℚ := t / 1000000000

section

-- How the operations round: to double precision in the source, and not at all for exact rates.
variable (fl : Rounding 53)

/-- Whole seconds and nanoseconds, added as floats. No time has passed when the clock reads earlier
than before. -/
def elapsed (now earlier : Instant) : ℚ :=
  let whole : Nat := (now - earlier) / 1000000000
  let nanos : Nat := (now - earlier) % 1000000000
  fl.round (fl.round whole + fl.round (nanos / 1000000000))

/-- What a call finds in the bucket, before it pays. -/
def level (bucket : Bucket) (refillPerSec burst : ℚ) (now : Instant) : ℚ :=
  min (fl.round (bucket.tokens + fl.round (elapsed fl now bucket.lastRefill * refillPerSec))) burst

/-- The conversion to 64 bits saturates, and so does a division by a rate of zero. -/
def secsUntil (need refillPerSec : ℚ) : Nat :=
  if refillPerSec = 0 then UInt64.size - 1
  else min ⌈fl.round (need / refillPerSec)⌉.toNat (UInt64.size - 1)

def tryConsume (bucket : Bucket) (refillPerSec burst : ℚ) (now : Instant) :
    Except Nat Unit × Bucket :=
  let tokens := level fl bucket refillPerSec burst now
  if 1 ≤ tokens then (.ok (), ⟨fl.round (tokens - 1), now⟩)
  else
    let need := fl.round (1 - tokens)
    (.error (max (secsUntil fl need refillPerSec) 1), ⟨tokens, now⟩)

end

end Bucket

/-- A call of `tryConsume`: when, its answer, and the bucket it leaves. -/
structure Consumed where
  now : Instant
  answer : Except Nat Unit
  after : Bucket

namespace Consumed

def accepted (c : Consumed) : Bool := c.answer.isOk

def draw (c : Consumed) : Allowance.Draw ℚ := ⟨Bucket.secs c.now, c.accepted⟩

end Consumed

namespace Bucket

def consumeAll (fl : Rounding 53) (refillPerSec burst : ℚ) :
    Bucket → List Instant → List Consumed
  | _, [] => []
  | bucket, now :: rest =>
    let call := bucket.tryConsume fl refillPerSec burst now
    ⟨now, call.1, call.2⟩ :: consumeAll fl refillPerSec burst call.2 rest

/-- How many calls are accepted between two times in seconds, both included. -/
def acceptedIn (s t : ℚ) (calls : List Consumed) : Nat :=
  calls.countP fun c => c.accepted ∧ s ≤ secs c.now ∧ secs c.now ≤ t

theorem acceptedIn_eq_grantedIn (s t : ℚ) (calls : List Consumed) :
    acceptedIn s t calls = Allowance.grantedIn s t (calls.map Consumed.draw) := by
  rw [Allowance.grantedIn, List.countP_map]
  rfl

section Rounded

variable {fl : Rounding 53} {bucket : Bucket} {rate burst : ℚ}

theorem elapsed_nonneg (fl : Rounding 53) (now earlier : Instant) : 0 ≤ elapsed fl now earlier := by
  apply Rounding.round_nonneg
  apply add_nonneg (Rounding.round_nonneg (Nat.cast_nonneg _)) (Rounding.round_nonneg _)
  positivity

@[simp] theorem elapsed_self (fl : Rounding 53) (now : Instant) : elapsed fl now now = 0 := by
  simp only [elapsed, Nat.sub_self, Nat.zero_div, Nat.zero_mod, Nat.cast_zero, zero_div,
    Rounding.round_zero, add_zero]

/-- Whole seconds are not lost. -/
theorem le_elapsed {n : Nat} (hn : n ≤ 2 ^ 53) (h : earlier + n * 1000000000 ≤ now) :
    (n : ℚ) ≤ elapsed fl now earlier := by
  have hwhole : n ≤ (now - earlier) / 1000000000 := by
    rw [Nat.le_div_iff_mul_le (by decide)]
    exact Nat.le_sub_of_add_le' h
  have hfloat : (n : ℚ) ≤ fl.round ((now - earlier) / 1000000000 : Nat) :=
    Rounding.le_round (fl.natCast n hn) (Nat.cast_le.mpr hwhole)
  have hnanos : 0 ≤ fl.round (((now - earlier) % 1000000000 : Nat) / 1000000000) :=
    Rounding.round_nonneg (by positivity)
  exact Rounding.le_round (fl.natCast n hn) (le_add_of_le_of_nonneg hfloat hnanos)

theorem refill_nonneg (fl : Rounding 53) (hrate : 0 ≤ rate) (now earlier : Instant) :
    0 ≤ fl.round (elapsed fl now earlier * rate) :=
  Rounding.round_nonneg (mul_nonneg (elapsed_nonneg fl now earlier) hrate)

theorem level_nonneg (hrate : 0 ≤ rate) (hburst : 0 ≤ burst) (htokens : 0 ≤ bucket.tokens)
    (now : Instant) : 0 ≤ level fl bucket rate burst now :=
  le_min (Rounding.round_nonneg (add_nonneg htokens (refill_nonneg fl hrate _ _))) hburst

theorem level_le (fl : Rounding 53) (bucket : Bucket) (rate burst : ℚ) (now : Instant) :
    level fl bucket rate burst now ≤ burst := min_le_right _ _

/-- A full bucket stays full. -/
theorem level_new (hrate : 0 ≤ rate) (hburst : fl.Fixed burst) (created now : Instant) :
    level fl (new burst created) rate burst now = burst :=
  min_eq_right (Rounding.round_add_nonneg hburst (refill_nonneg fl hrate _ _))

theorem tryConsume_of_le (h : 1 ≤ level fl bucket rate burst now) :
    bucket.tryConsume fl rate burst now =
      (.ok (), ⟨fl.round (level fl bucket rate burst now - 1), now⟩) := if_pos h

theorem tryConsume_of_lt (h : ¬ 1 ≤ level fl bucket rate burst now) :
    bucket.tryConsume fl rate burst now =
      (.error (max (secsUntil fl (fl.round (1 - level fl bucket rate burst now)) rate) 1),
        ⟨level fl bucket rate burst now, now⟩) := if_neg h

/-- A call looks at nothing but the level. -/
theorem tryConsume_congr {bucket' : Bucket}
    (h : level fl bucket rate burst now = level fl bucket' rate burst now) :
    bucket.tryConsume fl rate burst now = bucket'.tryConsume fl rate burst now := by
  rw [tryConsume, tryConsume, h]

/-- A full bucket draws alike whenever it was filled. -/
theorem tryConsume_new (hrate : 0 ≤ rate) (hburst : fl.Fixed burst) (created now : Instant) :
    (new burst created).tryConsume fl rate burst now =
      (new burst now).tryConsume fl rate burst now := by
  apply tryConsume_congr
  rw [level_new hrate hburst, level_new hrate hburst]

end Rounded

section Exact

variable {bucket : Bucket} {rate burst : ℚ}

theorem secs_le_secs (h : earlier ≤ now) : secs earlier ≤ secs now := by
  rw [secs, secs]
  gcongr

theorem elapsed_exact (now earlier : Instant) :
    elapsed .exact now earlier = secs (now - earlier) := by
  have hsplit := Nat.div_add_mod (now - earlier) 1000000000
  have hcast : (1000000000 : ℚ) * ((now - earlier) / 1000000000 : Nat) +
      ((now - earlier) % 1000000000 : Nat) = (now - earlier : Nat) := by
    exact_mod_cast hsplit
  simp only [elapsed, Rounding.exact_round]
  rw [secs, ← hcast]
  ring

theorem elapsed_eq_sub (h : earlier ≤ now) :
    elapsed .exact now earlier = secs now - secs earlier := by
  rw [elapsed_exact, secs, secs, secs, Nat.cast_sub h, sub_div]

theorem level_exact (bucket : Bucket) (rate burst : ℚ) (now : Instant) :
    level .exact bucket rate burst now =
      min (bucket.tokens + elapsed .exact now bucket.lastRefill * rate) burst := rfl

/-- All that a call does to the level: it is refilled, clamped, and pays for an accepted call. -/
theorem tryConsume_spec (hrate : 0 ≤ rate) (hburst : 0 ≤ burst) (htokens : 0 ≤ bucket.tokens)
    (now : Instant) :
    let call := bucket.tryConsume .exact rate burst now
    call.2.lastRefill = now ∧ 0 ≤ call.2.tokens ∧
      call.2.tokens + (Consumed.mk now call.1 call.2).draw.cost =
        min (bucket.tokens + elapsed .exact now bucket.lastRefill * rate) burst := by
  have hlevel : 0 ≤ level .exact bucket rate burst now := level_nonneg hrate hburst htokens now
  dsimp only
  rw [← level_exact]
  by_cases hone : 1 ≤ level .exact bucket rate burst now
  · rw [tryConsume_of_le hone]
    exact ⟨rfl, sub_nonneg.mpr hone, sub_add_cancel _ _⟩
  · rw [tryConsume_of_lt hone]
    exact ⟨rfl, hlevel, add_zero _⟩

theorem consumeAll_draws (hrate : 0 ≤ rate) (hburst : 0 ≤ burst) (htokens : 0 ≤ bucket.tokens)
    (hsorted : (bucket.lastRefill :: calls).Pairwise (· ≤ ·)) :
    Allowance.Draws rate burst (secs bucket.lastRefill) bucket.tokens
      ((consumeAll .exact rate burst bucket calls).map Consumed.draw) := by
  induction calls generalizing bucket with
  | nil => exact .nil _ _
  | cons now rest ih =>
    obtain ⟨hlast, hleft, hpaid⟩ := tryConsume_spec hrate hburst htokens now
    have hnow : bucket.lastRefill ≤ now := List.rel_of_pairwise_cons hsorted List.mem_cons_self
    rw [elapsed_eq_sub hnow] at hpaid
    have hrest := ih hleft (hlast.symm ▸ hsorted.of_cons)
    rw [hlast] at hrest
    exact .cons (secs_le_secs hnow) hleft hpaid.le hrest

theorem tokens_of_mem_consumeAll (hrate : 0 ≤ rate) (hburst : 0 ≤ burst)
    (htokens : 0 ≤ bucket.tokens) (h : c ∈ consumeAll .exact rate burst bucket calls) :
    0 ≤ c.after.tokens ∧ c.after.tokens ≤ burst := by
  induction calls generalizing bucket with
  | nil => exact absurd h List.not_mem_nil
  | cons now rest ih =>
    obtain ⟨-, hleft, hpaid⟩ := tryConsume_spec hrate hburst htokens now
    rcases List.mem_cons.mp h with rfl | h
    · refine ⟨hleft, ?_⟩
      have hcost := Allowance.Draw.cost_nonneg
        (Consumed.mk now (bucket.tryConsume .exact rate burst now).1
          (bucket.tryConsume .exact rate burst now).2).draw
      have hcap := level_le .exact bucket rate burst now
      rw [level_exact] at hcap
      dsimp only
      linarith
    · exact ih hleft h

theorem consumeAll_new (hrate : 0 ≤ rate) (created now : Instant) (rest : List Instant) :
    consumeAll .exact rate burst (new burst created) (now :: rest) =
      consumeAll .exact rate burst (new burst now) (now :: rest) := by
  rw [consumeAll, consumeAll, tryConsume_new hrate (Rounding.exact_fixed burst)]

/-- Without rounding the level of a bucket that starts full stays between zero and the burst, and no
window of time sees more calls accepted than the burst and what is refilled in it. -/
theorem bucket_conforms {rate burst : ℚ} (hrate : 0 < rate) (hburst : 1 ≤ burst)
    (created : Instant) {calls : List Instant} (hcalls : calls.Pairwise (· ≤ ·)) :
    (∀ c ∈ consumeAll .exact rate burst (new burst created) calls,
      0 ≤ c.after.tokens ∧ c.after.tokens ≤ burst) ∧
    ∀ s t : ℚ, s ≤ t →
      (acceptedIn s t (consumeAll .exact rate burst (new burst created) calls) : ℚ) ≤
        burst + rate * (t - s) := by
  have hfull : 0 ≤ burst := zero_le_one.trans hburst
  constructor
  · intro c hc
    have hstart : 0 ≤ (new burst created).tokens := hfull
    exact tokens_of_mem_consumeAll hrate.le hfull hstart hc
  · intro s t hst
    rw [acceptedIn_eq_grantedIn]
    cases calls with
    | nil => exact (Allowance.Draws.nil 0 0).grantedIn_le hrate.le hfull hst
    | cons now rest =>
      rw [consumeAll_new hrate.le]
      have hsorted : (now :: now :: rest).Pairwise (· ≤ ·) := by
        refine hcalls.cons ?_
        intro later hlater
        rcases List.mem_cons.mp hlater with rfl | hlater
        · exact le_refl _
        · exact List.rel_of_pairwise_cons hcalls hlater
      have hstart : 0 ≤ (new burst now).tokens := hfull
      exact (consumeAll_draws hrate.le hfull hstart hsorted).grantedIn_le hrate.le hfull hst

/-- Two calls on a burst of two, a third that is refused, and one a second later. -/
theorem bucket_conforms_sample :
    (∀ c ∈ consumeAll .exact 1 2 (new 2 0) [0, 0, 0, 1000000000],
      0 ≤ c.after.tokens ∧ c.after.tokens ≤ 2) ∧
    (∀ s t : ℚ, s ≤ t →
      (acceptedIn s t (consumeAll .exact 1 2 (new 2 0) [0, 0, 0, 1000000000]) : ℚ) ≤
        2 + 1 * (t - s)) ∧
    (consumeAll .exact 1 2 (new 2 0) [0, 0, 0, 1000000000]).map Consumed.accepted =
      [true, true, false, true] := by
  have hcalls : ([0, 0, 0, 1000000000] : List Instant).Pairwise (· ≤ ·) := by decide
  obtain ⟨htokens, haccepted⟩ := bucket_conforms (zero_lt_one' ℚ) (one_le_two (α := ℚ)) 0 hcalls
  exact ⟨htokens, haccepted, by decide +kernel⟩

end Exact

end Bucket

end TokenDealer
