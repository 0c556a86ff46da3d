import TokenDealer.Base64Url
import TokenDealer.DevicePolls

set_option autoImplicit true

namespace TokenDealer

section Masks

variable (a b : UInt8) {mask shift : UInt8}

theorem toNat_and_mask (hmask : mask.toNat = 2 ^ k - 1) : (a &&& mask).toNat = a.toNat % 2 ^ k := by
  rw [UInt8.toNat_and, hmask]
  exact Nat.and_two_pow_sub_one_eq_mod a.toNat k

theorem toNat_shiftRight_of_lt (hshift : shift.toNat < 8) :
    (a >>> shift).toNat = a.toNat / 2 ^ shift.toNat := by
  rw [UInt8.toNat_shiftRight, Nat.mod_eq_of_lt hshift, Nat.shiftRight_eq_div_pow]

/-- The lowest bits of a byte, moved up as far as they fit. -/
theorem toNat_mask_shift (hmask : mask.toNat = 2 ^ k - 1) (hshift : shift.toNat < 8)
    (hfits : k + shift.toNat ≤ 8) :
    ((a &&& mask) <<< shift).toNat = a.toNat % 2 ^ k * 2 ^ shift.toNat := by
  have hlt : a.toNat % 2 ^ k * 2 ^ shift.toNat < 2 ^ 8 := by
    calc a.toNat % 2 ^ k * 2 ^ shift.toNat
        < 2 ^ k * 2 ^ shift.toNat :=
          Nat.mul_lt_mul_of_pos_right (Nat.mod_lt _ (Nat.two_pow_pos k)) (Nat.two_pow_pos _)
      _ = 2 ^ (k + shift.toNat) := (Nat.pow_add 2 k _).symm
      _ ≤ 2 ^ 8 := Nat.pow_le_pow_right (by decide) hfits
  rw [UInt8.toNat_shiftLeft, toNat_and_mask a hmask, Nat.mod_eq_of_lt hshift, Nat.shiftLeft_eq]
  exact Nat.mod_eq_of_lt hlt

/-- Bits that do not overlap are added. -/
theorem toNat_or_of_lt (ha : a.toNat = n * 2 ^ k) (hb : b.toNat < 2 ^ k) :
    (a ||| b).toNat = a.toNat + b.toNat := by
  rw [UInt8.toNat_or, ha, Nat.mul_comm]
  exact (Nat.two_pow_add_eq_or_of_lt hb n).symm

theorem toNat_highBits : (a >>> 2).toNat = a.toNat / 4 :=
  toNat_shiftRight_of_lt a (by decide)

theorem toNat_lowTwo : ((a &&& 0b11) <<< 4).toNat = a.toNat % 4 * 16 :=
  toNat_mask_shift (k := 2) a rfl (by decide) (by decide)

theorem toNat_lowFour : ((a &&& 0x0f) <<< 2).toNat = a.toNat % 16 * 4 :=
  toNat_mask_shift (k := 4) a rfl (by decide) (by decide)

theorem toNat_lowSix : (a &&& 0x3f).toNat = a.toNat % 64 :=
  toNat_and_mask (k := 6) a rfl

/-- The bits of two bytes that share a character do not overlap. -/
theorem toNat_sharedFour :
    (((a &&& 0b11) <<< 4) ||| (b >>> 4)).toNat = a.toNat % 4 * 16 + b.toNat / 16 := by
  have hhigh : (b >>> 4).toNat = b.toNat / 16 := toNat_shiftRight_of_lt b (by decide)
  have hlt : (b >>> 4).toNat < 2 ^ 4 := by
    have hb := b.toNat_lt
    omega
  rw [toNat_or_of_lt _ _ (toNat_lowTwo a) hlt, toNat_lowTwo, hhigh]

theorem toNat_sharedTwo :
    (((a &&& 0x0f) <<< 2) ||| (b >>> 6)).toNat = a.toNat % 16 * 4 + b.toNat / 64 := by
  have hhigh : (b >>> 6).toNat = b.toNat / 64 := toNat_shiftRight_of_lt b (by decide)
  have hlt : (b >>> 6).toNat < 2 ^ 2 := by
    have hb := b.toNat_lt
    omega
  rw [toNat_or_of_lt _ _ (toNat_lowFour a) hlt, toNat_lowFour, hhigh]

end Masks

theorem base64UrlDigit_eq (h : n.toNat = k) (hk : k < 64) :
    base64UrlDigit n = Base64Url.digit k := by
  have halphabet : ∀ k < 64, base64UrlAlphabet.getD k 'A' = Base64Url.digit k := by
    decide +kernel
  rw [base64UrlDigit, h]
  exact halphabet k hk

/-- The loop over the bytes and its two ends are the encoding of the standard. -/
theorem base64UrlList_eq (bytes : List UInt8) : base64UrlList bytes = Base64Url.encode bytes := by
  induction bytes using base64UrlList.induct with
  | case1 a b c rest ih =>
    have ha := a.toNat_lt
    have hb := b.toNat_lt
    have hc := c.toNat_lt
    rw [base64UrlList, Base64Url.encode, ih, base64UrlDigit_eq (toNat_highBits a) (by omega),
      base64UrlDigit_eq (toNat_sharedFour a b) (by omega),
      base64UrlDigit_eq (toNat_sharedTwo b c) (by omega),
      base64UrlDigit_eq (toNat_lowSix c) (by omega)]
  | case2 a b =>
    have ha := a.toNat_lt
    have hb := b.toNat_lt
    rw [base64UrlList, Base64Url.encode, base64UrlDigit_eq (toNat_highBits a) (by omega),
      base64UrlDigit_eq (toNat_sharedFour a b) (by omega),
      base64UrlDigit_eq (toNat_lowFour b) (by omega)]
  | case3 a =>
    have ha := a.toNat_lt
    rw [base64UrlList, Base64Url.encode, base64UrlDigit_eq (toNat_highBits a) (by omega),
      base64UrlDigit_eq (toNat_lowTwo a) (by omega)]
  | case4 => rfl

/-- The text is the encoding of the bytes that is safe in addresses, without padding. -/
structure IsBase64Url (s : String) (bytes : List UInt8) : Prop where
  chars : ∀ c ∈ s.toList, Base64Url.IsDigit c
  length : s.length = (4 * bytes.length + 2) / 3
  decodes : Base64Url.decode s.toList = some bytes

theorem base64UrlEncode_isBase64Url (bytes : List UInt8) :
    IsBase64Url (base64UrlEncode bytes) bytes where
  chars c hc := by
    rw [base64UrlEncode, String.toList_ofList, base64UrlList_eq] at hc
    exact Base64Url.isDigit_of_mem_encode hc
  length := by
    rw [base64UrlEncode, String.length_ofList, base64UrlList_eq, Base64Url.length_encode]
  decodes := by
    rw [base64UrlEncode, String.toList_ofList, base64UrlList_eq, Base64Url.decode_encode]

/-- A verifier and its challenge as the standard has them: the challenge is the encoding of the
digest of the characters of the verifier, each a byte of its own. -/
structure IsPkcePair (sha256 : List UInt8 → List UInt8) (verifier challenge : String) : Prop where
  chars : ∀ c ∈ verifier.toList, Base64Url.IsDigit c
  length : verifier.length = 43
  challenge : IsBase64Url challenge
    (sha256 (verifier.toList.map fun c => UInt8.ofNat c.toNat))

theorem encode_of_isDigit {cs : List Char} (h : ∀ c ∈ cs, Base64Url.IsDigit c) :
    Utf8.encode cs = cs.map fun c => UInt8.ofNat c.toNat := by
  induction cs with
  | nil => rfl
  | cons c cs ih =>
    obtain ⟨hc, hcs⟩ := List.forall_mem_cons.mp h
    have hbyte : String.utf8EncodeChar c = [UInt8.ofNat c.toNat] := by
      have hlt := Base64Url.toNat_lt_of_isDigit hc
      rw [String.utf8EncodeChar]
      exact if_pos (Nat.le_of_lt_succ hlt)
    rw [Utf8.encode_cons, hbyte, ih hcs]
    rfl

/-- Bytes are encoded as the standard says, and so is the challenge of a verifier that is made of
32 random ones. -/
theorem base64UrlEncode_standard (w : FlowWorld) :
    (∀ bytes, IsBase64Url (base64UrlEncode bytes) bytes) ∧
      (w.random.length = 32 →
        IsPkcePair w.sha256 w.generatePkceVerifier
          (pkceChallengeS256 w.sha256 w.generatePkceVerifier)) := by
  refine ⟨base64UrlEncode_isBase64Url, ?_⟩
  intro hrandom
  have hverifier : IsBase64Url w.generatePkceVerifier w.random :=
    base64UrlEncode_isBase64Url w.random
  refine ⟨hverifier.chars, ?_, ?_⟩
  · have hlength := hverifier.length
    rw [hrandom] at hlength
    exact hlength
  · rw [← encode_of_isDigit hverifier.chars]
    exact base64UrlEncode_isBase64Url _

theorem base64UrlEncode_standard_sample :
    agreeing.generatePkceVerifier = "AAAAAAAAAAAAAAAAAAAAAAAAAAAAAAAAAAAAAAAAAAA" ∧
      IsPkcePair agreeing.sha256 agreeing.generatePkceVerifier
        (pkceChallengeS256 agreeing.sha256 agreeing.generatePkceVerifier) :=
  ⟨by decide +kernel, (base64UrlEncode_standard agreeing).2 (by decide)⟩

end TokenDealer
