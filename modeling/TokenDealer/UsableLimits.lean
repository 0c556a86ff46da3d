import TokenDealer.LimitReload
import TokenDealer.ValidConfig

set_option autoImplicit true

namespace TokenDealer

open Toml ConfigService Validate

/-- The bytes that the cipher puts behind a ciphertext. -/
def tagLen : Nat := 16

/-- What stands behind the prefix, if there is one, is base64 of a nonce and a tag at least. -/
def HasCiphertext (key : String) : Prop :=
  ∀ rest, Str.stripPrefix encPrefix key = some rest →
    ∃ bytes, Base64.decode (Str.trimList rest.toList) = some bytes ∧
      nonceLen + tagLen ≤ bytes.length

structure RateLimitBucket.IsUsable (b : RateLimitBucket) : Prop where
  refill : 1 ≤ b.refillPerMinute
  burst : 1 ≤ b.burst

/-- Limits that let requests through, and ciphertexts that can have been encrypted. -/
structure RouterConfig.IsUsable (c : RouterConfig) : Prop where
  global : c.ratelimit.global.IsUsable
  perKey : c.ratelimit.perKey.IsUsable
  authKeys : ∀ k ∈ c.auth.keys, HasCiphertext k.key
  providers : ∀ p ∈ c.providers, ∀ key, p.key = some key → HasCiphertext key

/-- The seconds until the next token are no division by zero, and whatever is left in a bucket it
grants a request sooner or later. -/
structure RateLimitBucket.Admits (b : RateLimitBucket) : Prop where
  rate_ne_zero : (b.limit .binary64).refillPerSec ≠ 0
  eventually : ∀ (bucket : Bucket) (now : Instant), 0 ≤ bucket.tokens →
    ∃ later ≥ now, (bucket.consume .binary64 (b.limit .binary64) later).1 = .ok ()

/-- The slowest rate fills no less than a token in a minute. -/
theorem one_le_minute : 1 ≤ Rounding.binary64.round (60 * Rounding.binary64.round (1 / 60)) := by
  decide +kernel

theorem RateLimitBucket.IsUsable.admits {b : RateLimitBucket} (h : b.IsUsable) : b.Admits := by
  have hrefill : (1 : ℚ) ≤ b.refillPerMinute.toNat := by
    exact_mod_cast UInt32.le_iff_toNat_le.mp h.refill
  have hburst : (1 : ℚ) ≤ b.burst.toNat := by
    exact_mod_cast UInt32.le_iff_toNat_le.mp h.burst
  have hrate : Rounding.binary64.round (1 / 60) ≤ (b.limit .binary64).refillPerSec := by
    apply Rounding.monotone
    gcongr
  have hpos : 0 < Rounding.binary64.round (1 / 60) := by decide +kernel
  refine ⟨(hpos.trans_le hrate).ne', ?_⟩
  intro bucket now htokens
  -- in a minute there is a token
  let later : Instant := max now bucket.lastRefill + 60 * 1000000000
  have helapsed : ((60 : Nat) : ℚ) ≤ Bucket.elapsed .binary64 later bucket.lastRefill :=
    Bucket.le_elapsed (by decide) (Nat.add_le_add_right (Nat.le_max_right _ _) _)
  refine ⟨later, (Nat.le_max_left _ _).trans (Nat.le_add_right _ _), ?_⟩
  have hadded : 1 ≤ Rounding.binary64.round
      (Bucket.elapsed .binary64 later bucket.lastRefill * (b.limit .binary64).refillPerSec) := by
    apply one_le_minute.trans
    apply Rounding.monotone
    rw [Nat.cast_ofNat] at helapsed
    gcongr
  have htoken : 1 ≤ (bucket.refilled .binary64 (b.limit .binary64) later).tokens := by
    apply le_min _ hburst
    apply Rounding.le_round Rounding.binary64.round_one
    linarith
  rw [Bucket.consume_of_le htoken]

section Limits

/-- The number at a place of a rate limit in a document. -/
def limitMember (doc : Document) (bucket field : String) : Option Value :=
  ((Table.get "ratelimit" doc).bind fun limits => limits.get bucket).bind fun b => b.get field

theorem decode_u32 (h : Codec.u32.decode v = .ok n) : 1 ≤ n ↔ v ≠ .integer 0 := by
  cases v with
  | integer i =>
    simp only [Codec.u32, Codec.map, Codec.natBelow, Codec.leaf, Codec.asNatBelow] at h
    split at h
    · rename_i k hk
      split at hk
      · rename_i hbound
        obtain ⟨hnonneg, hlt⟩ := hbound
        cases hk
        cases h
        rw [UInt32.le_iff_toNat_le, UInt32.toNat_ofNat_of_lt' hlt, Ne, Value.integer.injEq]
        have hone : UInt32.toNat 1 = 1 := rfl
        omega
      · cases hk
    · cases h
  | _ => cases h

/-- A number with a positive default is positive unless it is set to zero. -/
theorem decode_positive (hdefault : 1 ≤ d)
    (h : (Fields.withDefault name .u32 d).decode members = .ok n) :
    1 ≤ n ↔ Table.get name members ≠ some (.integer 0) := by
  obtain ⟨hnone, rfl⟩ | ⟨v, hv, hdecode⟩ := Fields.withDefault_decode.mp h
  · rw [hnone]
    exact iff_of_true hdefault (Option.some_ne_none _).symm
  · rw [decode_u32 hdecode, hv, Ne, Ne, Option.some.injEq]

theorem decode_bucket (h : RateLimitBucket.fields.toCodec.decode v = .ok b) :
    b.IsUsable ↔ ∀ field ∈ ["refill_per_minute", "burst"], v.get field ≠ some (.integer 0) := by
  obtain ⟨members, rfl, hfields⟩ := Fields.toCodec_decode.mp h
  obtain ⟨⟨refill, burst⟩, hpair, rfl⟩ := Fields.map_decode.mp hfields
  obtain ⟨hrefill, hburst⟩ := Fields.and_decode.mp hpair
  have hrefill := decode_positive (show (1 : UInt32) ≤ 600 by decide) hrefill
  have hburst := decode_positive (show (1 : UInt32) ≤ 1200 by decide) hburst
  rw [List.forall_mem_cons, List.forall_mem_singleton]
  constructor
  · intro h
    exact ⟨hrefill.mp h.refill, hburst.mp h.burst⟩
  · intro h
    exact ⟨hrefill.mpr h.1, hburst.mpr h.2⟩

theorem decode_limit
    (h : (Fields.withDefault name RateLimitBucket.fields.toCodec {}).decode members = .ok b) :
    b.IsUsable ↔ ∀ field ∈ ["refill_per_minute", "burst"],
      ((Table.get name members).bind fun v => v.get field) ≠ some (.integer 0) := by
  obtain ⟨hnone, rfl⟩ | ⟨v, hv, hdecode⟩ := Fields.withDefault_decode.mp h
  · rw [hnone]
    exact iff_of_true ⟨by decide, by decide⟩ fun field _ => (Option.some_ne_none _).symm
  · rw [hv]
    exact decode_bucket hdecode

theorem fromDocument_ratelimit (h : RouterConfig.fromDocument doc = .ok c) :
    (Fields.withDefault "ratelimit" RateLimitConfig.fields.toCodec {}).decode doc =
      .ok c.ratelimit := by
  obtain ⟨⟨routing, operation⟩, hpair, rfl⟩ := Fields.map_decode.mp h
  obtain ⟨-, hoperation⟩ := Fields.and_decode.mp hpair
  have hretry := (Fields.and_decode.mp hoperation).2
  have hstreaming := (Fields.and_decode.mp hretry).2
  have hspecificity := (Fields.and_decode.mp hstreaming).2
  have hbudgets := (Fields.and_decode.mp hspecificity).2
  have hpricing := (Fields.and_decode.mp hbudgets).2
  have hdiscovery := (Fields.and_decode.mp hpricing).2
  exact (Fields.and_decode.mp hdiscovery).2

/-- The defaults are all positive, so it takes a zero in the document to close a bucket. -/
theorem ratelimit_isUsable_iff (h : RouterConfig.fromDocument doc = .ok c) :
    (c.ratelimit.global.IsUsable ∧ c.ratelimit.perKey.IsUsable) ↔
      ∀ bucket ∈ ["global", "per_key"], ∀ field ∈ ["refill_per_minute", "burst"],
        limitMember doc bucket field ≠ some (.integer 0) := by
  rw [List.forall_mem_cons, List.forall_mem_singleton]
  simp only [limitMember]
  obtain ⟨hnone, hdefault⟩ | ⟨v, hv, hdecode⟩ :=
    Fields.withDefault_decode.mp (fromDocument_ratelimit h)
  · rw [hnone, ← hdefault]
    exact iff_of_true ⟨⟨by decide, by decide⟩, by decide, by decide⟩
      ⟨fun field _ => (Option.some_ne_none _).symm, fun field _ => (Option.some_ne_none _).symm⟩
  · obtain ⟨members, rfl, hfields⟩ := Fields.toCodec_decode.mp hdecode
    obtain ⟨⟨enabled, global, perKey⟩, htriple, hlimits⟩ := Fields.map_decode.mp hfields
    obtain ⟨hglobal, hperKey⟩ := Fields.and_decode.mp (Fields.and_decode.mp htriple).2
    rw [hv, ← hlimits]
    exact and_congr (decode_limit hglobal) (decode_limit hperKey)

end Limits

section Ciphertexts

/-- A ciphertext has room for the nonce and the tag from forty characters on. -/
theorem hasCiphertext_iff (key : String) :
    HasCiphertext key ↔ ∀ rest, Str.stripPrefix encPrefix key = some rest →
      (Base64.decode (Str.trimList rest.toList)).isSome ∧
        40 ≤ (Str.trimList rest.toList).length := by
  have hroom : nonceLen + tagLen = 28 := rfl
  constructor
  · intro h rest hrest
    obtain ⟨bytes, hdecode, hlength⟩ := h rest hrest
    obtain ⟨groups, hchars, hlower, -⟩ := Base64.length_of_decode hdecode
    refine ⟨Option.isSome_of_eq_some hdecode, ?_⟩
    omega
  · intro h rest hrest
    obtain ⟨hsome, hlength⟩ := h rest hrest
    obtain ⟨bytes, hdecode⟩ := Option.isSome_iff_exists.mp hsome
    obtain ⟨groups, hchars, -, hupper⟩ := Base64.length_of_decode hdecode
    refine ⟨bytes, hdecode, ?_⟩
    omega

theorem isSome_of_looksLikeEncryptedBlob (h : looksLikeEncryptedBlob s = true) :
    (Base64.decode (Str.trimList s.toList)).isSome := by
  rw [looksLikeEncryptedBlob, Bool.and_eq_true] at h
  exact h.2

end Ciphertexts

/-- What the validator does not look at: no limit is set to zero, the ciphertexts of the keys are
base64, and none is too short. -/
structure RouterConfig.MeetsUnchecked (c : RouterConfig) (doc : Document) : Prop where
  limits : ∀ bucket ∈ ["global", "per_key"], ∀ field ∈ ["refill_per_minute", "burst"],
    limitMember doc bucket field ≠ some (.integer 0)
  authKeys : ∀ k ∈ c.auth.keys, ∀ rest, Str.stripPrefix encPrefix k.key = some rest →
    (Base64.decode (Str.trimList rest.toList)).isSome ∧ 40 ≤ (Str.trimList rest.toList).length
  providers : ∀ p ∈ c.providers, ∀ key rest, p.key = some key →
    Str.stripPrefix encPrefix key = some rest → 40 ≤ (Str.trimList rest.toList).length

/-- The limits and the ciphertexts of an accepted text are usable exactly if what the validator does
not look at is in order, and usable limits let every client through in the end. -/
theorem validated_usable_iff {tools : ValidateTools} {raw : String} {doc : Document}
    {c : RouterConfig} (hraw : validate tools raw = []) (hparse : tools.toml.parse raw = .ok doc)
    (hdoc : RouterConfig.fromDocument doc = .ok c) :
    (c.IsUsable ↔ c.MeetsUnchecked doc) ∧
      (c.IsUsable → c.ratelimit.global.Admits ∧ c.ratelimit.perKey.Admits) := by
  obtain ⟨doc', c', hparse', hdoc', hvalid⟩ := validate_eq_nil_iff.mp hraw
  rw [hparse] at hparse'
  cases hparse'
  rw [hdoc] at hdoc'
  cases hdoc'
  refine ⟨⟨?_, ?_⟩, fun h => ⟨h.global.admits, h.perKey.admits⟩⟩
  · intro h
    refine ⟨(ratelimit_isUsable_iff hdoc).mp ⟨h.global, h.perKey⟩, ?_, ?_⟩
    · exact fun k hk => (hasCiphertext_iff k.key).mp (h.authKeys k hk)
    · exact fun p hp key rest hkey hrest =>
        ((hasCiphertext_iff key).mp (h.providers p hp key hkey) rest hrest).2
  · intro h
    obtain ⟨hglobal, hperKey⟩ := (ratelimit_isUsable_iff hdoc).mpr h.limits
    refine ⟨hglobal, hperKey, ?_, ?_⟩
    · exact fun k hk => (hasCiphertext_iff k.key).mpr (h.authKeys k hk)
    · intro p hp key hkey
      rw [hasCiphertext_iff]
      intro rest hrest
      exact ⟨isSome_of_looksLikeEncryptedBlob ((hvalid.providers p hp).key key rest hkey hrest),
        h.providers p hp key rest hkey hrest⟩

/-- A text that closes the bucket for all. -/
def closedText : String := "[ratelimit.global]\nrefill_per_minute = 0\n"

def closedDocument : Document :=
  [("ratelimit", .table [("global", .table [("refill_per_minute", .integer 0)])])]

/-- The ciphertext of two characters. -/
def limitedBlob : String := "dHdlbHZlLWJ5dGVzc2tzaXh0ZWVuLWJ5dGUtdGFn"

/-- A text with limits of its own, whose keys are encrypted. -/
def limitedText : String :=
  "[ratelimit.per_key]\nrefill_per_minute = 30\nburst = 10\n" ++
  "[auth]\nenabled = true\n[[auth.keys]]\nkey = \"enc:" ++ limitedBlob ++ "\"\nname = \"ops\"\n" ++
  "[[providers]]\nid = \"openai\"\nkey = \"enc:" ++ limitedBlob ++ "\"\n"

def limitedDocument : Document :=
  [("ratelimit", .table [("per_key", .table [("refill_per_minute", .integer 30),
      ("burst", .integer 10)])]),
    ("auth", .table [("enabled", .boolean true),
      ("keys", .array [.table [("key", .string (encPrefix ++ limitedBlob)),
        ("name", .string "ops")]])]),
    ("providers", .array [.table [("id", .string "openai"),
      ("key", .string (encPrefix ++ limitedBlob))]])]

def limitedConfig : RouterConfig where
  ratelimit := { global := {}, perKey := ⟨30, 10⟩ }
  auth := { keys := [⟨encPrefix ++ limitedBlob, "ops"⟩] }
  providers := [{ id := "openai", key := some (encPrefix ++ limitedBlob) }]

def closedTools : ValidateTools where
  toml :=
    { print := fun _ => ""
      parse := fun s =>
        if s = closedText then .ok closedDocument
        else if s = limitedText then .ok limitedDocument
        else .error (.unknownSyntax "sample") }
  display _ := "sample"
  message _ := "sample"
  validUrl url := url = ({} : PricingSyncConfig).openrouterUrl

theorem parse_closedTools (s : String) :
    closedTools.toml.parse s = if s = closedText then .ok closedDocument
      else if s = limitedText then .ok limitedDocument
      else .error (.unknownSyntax "sample") := rfl

theorem limitedBlob_checked (h : Str.stripPrefix encPrefix (encPrefix ++ limitedBlob) = some rest) :
    (Base64.decode (Str.trimList rest.toList)).isSome ∧ 40 ≤ (Str.trimList rest.toList).length := by
  rw [Str.stripPrefix_append] at h
  cases h
  exact ⟨by decide +kernel, by decide +kernel⟩

theorem limitedConfig_meetsUnchecked : limitedConfig.MeetsUnchecked limitedDocument where
  limits := by
    have hglobal (field : String) : limitMember limitedDocument "global" field = none := rfl
    have hrefill : limitMember limitedDocument "per_key" "refill_per_minute" =
        some (.integer 30) := rfl
    have hburst : limitMember limitedDocument "per_key" "burst" = some (.integer 10) := rfl
    simp [hglobal, hrefill, hburst]
  authKeys := by
    intro k hk rest hrest
    cases List.mem_singleton.mp hk
    exact limitedBlob_checked hrest
  providers := by
    intro p hp key rest hkey hrest
    cases List.mem_singleton.mp hp
    cases hkey
    exact (limitedBlob_checked hrest).2

/-- Thirty requests a minute with keys that can be decrypted. -/
theorem validated_usable_iff_limited :
    limitedConfig.IsUsable ∧ limitedConfig.ratelimit.global.Admits ∧
      limitedConfig.ratelimit.perKey.Admits := by
  have hne : limitedText ≠ closedText := by decide +kernel
  have hparse : closedTools.toml.parse limitedText = .ok limitedDocument := by
    rw [parse_closedTools, if_neg hne, if_pos rfl]
  obtain ⟨hiff, hadmits⟩ := validated_usable_iff (c := limitedConfig) (by decide +kernel) hparse rfl
  have husable := hiff.mpr limitedConfig_meetsUnchecked
  exact ⟨husable, hadmits husable⟩

/-- The validator takes a text under which the bucket for all is never filled again. -/
theorem closed_accepted :
    validate closedTools closedText = [] ∧
    ∃ c, closedTools.toml.parse closedText = .ok closedDocument ∧
      RouterConfig.fromDocument closedDocument = .ok c ∧ ¬ c.IsUsable := by
  refine ⟨by decide +kernel, _, rfl, rfl, ?_⟩
  intro h
  exact absurd h.global.refill (by decide)

end TokenDealer
